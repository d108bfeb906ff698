import Battleship.MatchCore

/-! The messages between a client and the server. Text fields of the packed
structs are the characters before the first NUL. -/

namespace Battleship

open Decimal (Text)

abbrev ChallengeId := UInt32

def safeStrCopy (size : Nat) (text : Text) : Text := text.take (size - 1)

/-- The header fields that a receiver reads; `none` where the sending path
never assigns the field. -/
structure MessageHeader where
  type : MessageType
  length : Option Nat
  timestamp : Option Nat
deriving DecidableEq, Repr

structure PlayerInfo where
  userId : UserId
  username : Text
  displayName : Text
  eloRating : Int
  status : PlayerStatus
deriving DecidableEq, Repr

inductive Payload
  | none
  | registerResponse (success : Bool) (userId : UserId) (errorMessage : Text)
  | loginResponse (success : Bool) (userId : UserId) (sessionToken displayName : Text)
      (eloRating : Int) (errorMessage : Text)
  | logoutResponse (success : Bool)
  | sessionValidateResponse (valid : Bool) (userId : UserId) (username displayName : Text)
      (eloRating : Int) (errorMessage : Text)
  | playerListResponse (players : List PlayerInfo)
  | playerStatusUpdate (userId : UserId) (status : PlayerStatus) (displayName : Text)
      (eloRating : Int)
  | challengeReceived (challengeId : ChallengeId) (challengerId : UserId) (challengerName : Text)
      (challengerElo : Int) (timeLimit : Nat) (randomPlacement : Bool) (expiresAt : Nat)
  | challengeResult (challengeId : ChallengeId) (success : Bool) (matchId : MatchId)
      (errorMessage : Text)
  | matchStart (matchId : MatchId) (opponentId : UserId) (opponentName : Text) (opponentElo : Int)
      (timeLimit : Nat) (youGoFirst : Bool)
  | shipPlacementAck (matchId : MatchId) (valid : Bool) (errorMessage : Text)
  | matchState (matchId : MatchId) (player1Id player2Id currentTurnPlayerId : UserId)
      (turnNumber : Int) (isActive isPaused : Bool)
  | moveResult (matchId : MatchId) (shooterId : UserId) (target : Coordinate) (result : ShotResult)
      (shipSunk : ShipType) (shipsRemaining : Int) (gameOver : Bool) (winnerId : UserId)
  | turnUpdate (matchId : MatchId) (currentPlayerId : UserId) (turnNumber : Int) (timeLeft : Nat)
  | matchEnd (matchId : MatchId) (result : GameResult) (winnerId : UserId)
      (reason : MatchEndReason) (eloChange newElo : Int) (totalMoves : Int) (duration : Nat)
      (reasonText : Text)
  | drawOffer (matchId : MatchId)
  | drawResponse (matchId : MatchId) (accepted : Bool)
deriving DecidableEq, Repr

namespace Payload

def size : Payload → Nat
  | none => 0
  | registerResponse .. => 133
  | loginResponse .. => 265
  | logoutResponse .. => 1
  | sessionValidateResponse .. => 233
  | playerListResponse .. => 10804
  | playerStatusUpdate .. => 76
  | challengeReceived .. => 89
  | challengeResult .. => 137
  | matchStart .. => 81
  | shipPlacementAck .. => 133
  | matchState .. => 22
  | moveResult .. => 27
  | turnUpdate .. => 16
  | matchEnd .. => 164
  | drawOffer .. => 4
  | drawResponse .. => 5

def matchId? : Payload → Option MatchId
  | matchStart matchId .. => some matchId
  | shipPlacementAck matchId .. => some matchId
  | matchState matchId .. => some matchId
  | moveResult matchId .. => some matchId
  | turnUpdate matchId .. => some matchId
  | matchEnd matchId .. => some matchId
  | drawOffer matchId => some matchId
  | drawResponse matchId _ => some matchId
  | challengeResult _ _ matchId _ => if matchId = 0 then .none else some matchId
  | _ => .none

def endedMatch? : Payload → Option MatchId
  | matchEnd matchId .. => some matchId
  | _ => .none

end Payload

/-- The requests a client sends, after their payload has been decoded. `unread`
is a payload that the handler of its type refuses by its size, or a type that no
handler takes. -/
inductive Request
  | ping
  | register (username password displayName : Text)
  | login (username password : Text)
  | logout (sessionToken : Text)
  | validateSession (sessionToken : Text)
  | playerListRequest
  | challengeSend (targetUserId : UserId) (timeLimit : Nat) (randomPlacement : Bool)
  | challengeResponse (challengeId : ChallengeId) (accepted : Bool)
  | shipPlacement (matchId : MatchId) (ships : Vector Ship numShips)
  | move (matchId : MatchId) (target : Coordinate)
  | resign (matchId : MatchId)
  | drawOffer (matchId : MatchId)
  | drawResponse (matchId : MatchId) (accepted : Bool)
  | rematchRequest (previousMatchId : MatchId)
  | rematchResponse (previousMatchId : MatchId) (accepted : Bool)
  | unread (type : MessageType)
deriving DecidableEq

end Battleship
