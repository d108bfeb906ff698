import Battleship.Library.Table
import Battleship.MatchCore

/-! The tables of `database.cpp` and the statements the server runs on them.
Foreign keys are enforced, so an insert or update that names a missing row
fails; `now` is `time(nullptr)`. -/

namespace Battleship

open Decimal (Text)

structure User where
  username : Text
  passwordHash : Text
  displayName : Text
  eloRating : Int
  createdAt : Nat
  lastLogin : Nat
deriving DecidableEq

structure Session where
  sessionId : Nat
  userId : UserId
  sessionToken : Text
  createdAt : Nat
  expiresAt : Int
deriving DecidableEq

def Session.isExpired (session : Session) (now : Nat) : Bool :=
  (now : Int) > session.expiresAt

inductive MatchStatus
  | waiting | completed
deriving DecidableEq, Repr

/-- A row of `matches`; a winner of `0` is the NULL the row starts with. -/
structure Match where
  player1Id : UserId
  player2Id : UserId
  winnerId : UserId
  status : MatchStatus
  createdAt : Nat
  endedAt : Nat
deriving DecidableEq

structure MatchBoard where
  matchId : MatchId
  userId : UserId
  shipData : Text
deriving DecidableEq

structure MatchMove where
  matchId : MatchId
  playerId : UserId
  moveNumber : Int
  x : Int
  y : Int
  result : ShotResult
  timestamp : Nat
deriving DecidableEq

structure Database where
  users : Table UserId User
  sessions : List Session
  matchRows : Table MatchId Match
  matchBoards : List MatchBoard
  matchMoves : List MatchMove
  nextUserId : UserId
  nextSessionId : Nat
  nextMatchId : MatchId

namespace Database

def initializeSchema : Database where
  users := ∅
  sessions := []
  matchRows := ∅
  matchBoards := []
  matchMoves := []
  nextUserId := 1
  nextSessionId := 1
  nextMatchId := 1

variable (db : Database)

def usernameExists (username : Text) : Bool :=
  db.users.toList.any fun row => row.2.username = username

def createUser (now : Nat) (username passwordHash displayName : Text) : Database × UserId :=
  if db.usernameExists username then (db, 0)
  else
    ({ db with
        users := db.users.insert db.nextUserId {
          username := username
          passwordHash := passwordHash
          displayName := displayName
          eloRating := 1000
          createdAt := now
          lastLogin := 0 }
        nextUserId := db.nextUserId + 1 }, db.nextUserId)

def getUserByUsername (username : Text) : Option (UserId × User) :=
  db.users.toList.find? fun row => row.2.username = username

def getUserById (userId : UserId) : Option User := db.users[userId]?

def updateLastLogin (now : Nat) (userId : UserId) : Database :=
  { db with users := db.users.modify userId fun user => { user with lastLogin := now } }

def updateEloRating (userId : UserId) (newElo : Int) : Database :=
  { db with users := db.users.modify userId fun user => { user with eloRating := newElo } }

/-- The product is an `int`: it wraps from 596524 hours on. -/
def sessionSeconds (durationHours : Int) : Int := Int.bmod (durationHours * 3600) (2 ^ 32)

@[simp] theorem sessionSeconds_day : sessionSeconds 24 = 24 * 3600 := by decide

example : sessionSeconds 600000 < 0 := by decide

def createSession (now : Nat) (userId : UserId) (token : Text) (durationHours : Int) :
    Database × Nat :=
  if (db.sessions.any fun session => session.sessionToken = token) || (db.users[userId]?).isNone then
    (db, 0)
  else
    ({ db with
        sessions := db.sessions ++ [{
          sessionId := db.nextSessionId
          userId := userId
          sessionToken := token
          createdAt := now
          expiresAt := now + sessionSeconds durationHours }]
        nextSessionId := db.nextSessionId + 1 }, db.nextSessionId)

def getSessionByToken (token : Text) : Option Session :=
  db.sessions.find? fun session => session.sessionToken = token

def deleteSession (token : Text) : Database :=
  { db with sessions := db.sessions.filter fun session => session.sessionToken ≠ token }

def validateSession (now : Nat) (token : Text) : Database × UserId :=
  match db.getSessionByToken token with
  | none => (db, 0)
  | some session => if session.isExpired now then (db.deleteSession token, 0) else (db, session.userId)

def deleteUserSessions (userId : UserId) : Database :=
  { db with sessions := db.sessions.filter fun session => session.userId ≠ userId }

def cleanupExpiredSessions (now : Nat) : Database × Nat :=
  ({ db with sessions := db.sessions.filter fun session => !decide (session.expiresAt < (now : Int)) },
    (db.sessions.filter fun session => decide (session.expiresAt < (now : Int))).length)

def createMatch (now : Nat) (player1Id player2Id : UserId) : Database × MatchId :=
  if (db.users[player1Id]?).isNone || (db.users[player2Id]?).isNone then (db, 0)
  else
    ({ db with
        matchRows := db.matchRows.insert db.nextMatchId {
          player1Id := player1Id
          player2Id := player2Id
          winnerId := 0
          status := .waiting
          createdAt := now
          endedAt := 0 }
        nextMatchId := db.nextMatchId + 1 }, db.nextMatchId)

def getMatchById (matchId : MatchId) : Option Match := db.matchRows[matchId]?

/-- The update fails when the winner is not a user, as for the winner `0` of a draw. -/
def endMatch (now : Nat) (matchId : MatchId) (winnerId : UserId) : Database :=
  if (db.users[winnerId]?).isNone then db
  else
    { db with
      matchRows := db.matchRows.modify matchId fun row =>
        { row with status := .completed, winnerId := winnerId, endedAt := now } }

def saveShipPlacement (matchId : MatchId) (userId : UserId) (shipData : Text) : Database × Bool :=
  if (db.matchRows[matchId]?).isNone || (db.users[userId]?).isNone then (db, false)
  else ({ db with matchBoards := db.matchBoards ++ [⟨matchId, userId, shipData⟩] }, true)

def getShipPlacement (matchId : MatchId) (userId : UserId) : Text :=
  match db.matchBoards.find? fun row => row.matchId = matchId ∧ row.userId = userId with
  | none => []
  | some row => row.shipData

def saveMove (now : Nat) (matchId : MatchId) (playerId : UserId) (moveNumber x y : Int)
    (result : ShotResult) : Database × Bool :=
  if (db.matchRows[matchId]?).isNone || (db.users[playerId]?).isNone then (db, false)
  else
    ({ db with
        matchMoves := db.matchMoves ++ [⟨matchId, playerId, moveNumber, x, y, result, now⟩] }, true)

end Database

end Battleship
