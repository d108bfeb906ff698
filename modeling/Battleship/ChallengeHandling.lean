import Battleship.ServerCore

/-! The challenge manager of `challenge_manager.cpp`: the sections it runs under
its lock, as functions of its own state, and the operations built from them. -/

namespace Battleship

open Decimal (Text)

def challengeTimeoutSeconds : Nat := 60

structure ChallengeRequest where
  targetUserId : UserId
  timeLimit : Nat
  randomPlacement : Bool
deriving DecidableEq

structure ChallengeResponse where
  challengeId : ChallengeId
  accepted : Bool
deriving DecidableEq

def validateChallenge (isPlayerOnline : UserId → Bool) (getPlayerStatus : UserId → PlayerStatus)
    (challengerId targetId : UserId) : Option String :=
  if !isPlayerOnline targetId then some "Target player is not online"
  else if getPlayerStatus targetId ≠ .available then
    if getPlayerStatus targetId = .inGame then some "Target player is already in a game"
    else if getPlayerStatus targetId = .busy then some "Target player is busy"
    else some "Target player is not available"
  else if getPlayerStatus challengerId ≠ .available then
    some "You must be available to send a challenge"
  else if challengerId = targetId then some "Cannot challenge yourself"
  else none

inductive Taken
  | unknown
  | wrongResponder
  | challenge (challenge : PendingChallenge)
deriving DecidableEq

namespace ChallengeManager

variable (manager : ChallengeManager)

/-- The locked section of `sendChallenge`. -/
def insertChallenge (now : Nat) (challengerId : UserId) (request : ChallengeRequest) :
    ChallengeManager × PendingChallenge :=
  let challenge : PendingChallenge := {
    challengeId := manager.nextChallengeId
    challengerId := challengerId
    targetId := request.targetUserId
    timeLimit := request.timeLimit
    randomPlacement := request.randomPlacement
    createdAt := now
    expiresAt := now + challengeTimeoutSeconds }
  ({ challenges := manager.challenges.insert challenge.challengeId challenge
     nextChallengeId := manager.nextChallengeId + 1 }, challenge)

/-- The locked section of `respondToChallenge`. -/
def takeChallenge (responderId : UserId) (challengeId : ChallengeId) : ChallengeManager × Taken :=
  match manager.challenges[challengeId]? with
  | none => (manager, .unknown)
  | some challenge =>
      if challenge.targetId ≠ responderId then (manager, .wrongResponder)
      else ({ manager with challenges := manager.challenges.erase challengeId }, .challenge challenge)

def cancelChallenge (challengeId : ChallengeId) : ChallengeManager :=
  { manager with challenges := manager.challenges.erase challengeId }

/-- The locked section of `checkExpiredChallenges`, with the entries it removes. -/
def expireChallenges (now : Nat) : ChallengeManager × List PendingChallenge :=
  ({ manager with
      challenges := manager.challenges.filter fun _ challenge => !decide (challenge.expiresAt ≤ now) },
    (manager.challenges.toList.map Prod.snd).filter fun challenge => challenge.expiresAt ≤ now)

def removePlayerChallenges (userId : UserId) : ChallengeManager :=
  { manager with
    challenges :=
      (manager.challenges.keysWhere fun challenge =>
        decide (challenge.challengerId = userId ∨ challenge.targetId = userId)).foldl
        (fun challenges challengeId => challenges.erase challengeId) manager.challenges }

end ChallengeManager

namespace Server

variable (env : Env)

def validateChallenge (server : Server) (challengerId targetId : UserId) : Option String :=
  Battleship.validateChallenge server.isPlayerOnline server.getPlayerStatus challengerId targetId

def notifyChallenger (challenge : PendingChallenge) (accepted : Bool) (error : String)
    (server : Server) : Server :=
  let payload := .challengeResult challenge.challengeId accepted 0 (safeStrCopy 128 error.toList)
  server.tellPlayer env (stampedHeader env .challengeResponse payload) payload
    challenge.challengerId

def notifyTarget (challenge : PendingChallenge) (server : Server) : Server :=
  let info := server.getPlayerInfo challenge.challengerId
  let payload := .challengeReceived challenge.challengeId challenge.challengerId
    (safeStrCopy 64 info.displayName) info.eloRating challenge.timeLimit challenge.randomPlacement
    challenge.expiresAt
  server.tellPlayer env (stampedHeader env .challengeReceived payload) payload challenge.targetId

def sendChallenge (challengerId : UserId) (request : ChallengeRequest) (server : Server) : Server :=
  match server.validateChallenge challengerId request.targetUserId with
  | some error =>
      server.tellPlayer env (bareHeader .challengeResponse)
        (.challengeResult 0 false 0 (safeStrCopy 128 error.toList)) challengerId
  | none =>
      let inserted := server.manager.insertChallenge env.now challengerId request
      { server with manager := inserted.1 }.notifyTarget env inserted.2

def announceMatch (challenge : PendingChallenge) (matchId : MatchId) (server : Server) : Server :=
  let challengerInfo := server.getPlayerInfo challenge.challengerId
  let targetInfo := server.getPlayerInfo challenge.targetId
  let toChallenger := .matchStart matchId challenge.targetId
    (safeStrCopy 64 targetInfo.displayName) targetInfo.eloRating challenge.timeLimit true
  let toTarget := .matchStart matchId challenge.challengerId
    (safeStrCopy 64 challengerInfo.displayName) challengerInfo.eloRating challenge.timeLimit false
  server
    |>.tellPlayer env (stampedHeader env .matchStart toChallenger) toChallenger
      challenge.challengerId
    |>.tellPlayer env (stampedHeader env .matchStart toTarget) toTarget challenge.targetId
    |>.updatePlayerStatus env challenge.challengerId .inGame
    |>.updatePlayerStatus env challenge.targetId .inGame

def acceptChallenge (challenge : PendingChallenge) (server : Server) : Server :=
  let created := server.db.createMatch env.now challenge.challengerId challenge.targetId
  if created.2 > 0 then { server with db := created.1 }.announceMatch env challenge created.2
  else { server with db := created.1 }.notifyChallenger env challenge false "Failed to create match"

def respondToChallenge (responderId : UserId) (response : ChallengeResponse) (server : Server) :
    Server :=
  let taken := server.manager.takeChallenge responderId response.challengeId
  match taken.2 with
  | .wrongResponder => server
  | .unknown =>
      server.tellPlayer env (bareHeader .challengeResponse)
        (.challengeResult response.challengeId false 0
          (safeStrCopy 128 "Challenge not found or expired".toList)) responderId
  | .challenge challenge =>
      let server := { server with manager := taken.1 }
      if response.accepted then server.acceptChallenge env challenge
      else server.notifyChallenger env challenge false "Challenge declined"

def cancelChallenge (challengeId : ChallengeId) (server : Server) : Server :=
  { server with manager := server.manager.cancelChallenge challengeId }

def checkExpiredChallenges (server : Server) : Server :=
  let expired := server.manager.expireChallenges env.now
  expired.2.foldl (fun server challenge =>
    (server.notifyChallenger env challenge false "Challenge timed out").tellPlayer env
      (bareHeader .challengeResponse)
      (.challengeResult challenge.challengeId false 0
        (safeStrCopy 128 "Challenge timed out".toList)) challenge.targetId)
    { server with manager := expired.1 }

def removePlayerChallenges (userId : UserId) (server : Server) : Server :=
  { server with manager := server.manager.removePlayerChallenges userId }

def handleChallengeSend (client : ClientConnection) (request : ChallengeRequest) (server : Server) :
    Server :=
  if client.authenticated then server.sendChallenge env client.userId request else server

def handleChallengeResponse (client : ClientConnection) (response : ChallengeResponse)
    (server : Server) : Server :=
  if client.authenticated then server.respondToChallenge env client.userId response else server

end Server

end Battleship
