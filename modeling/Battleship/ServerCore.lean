import Battleship.Database
import Battleship.Messages

/-! The state of the server, its connections and the player manager. A handler
takes the state to the next one; what it reads from outside (the clock, random
values, which sockets fail) is in `Env`. -/

namespace Battleship

open Decimal (Text)

abbrev Fd := Nat
abbrev ConnId := Nat

/-- What one event reads from outside. A socket in `broken` fails when it is written to. -/
structure Env where
  now : Nat
  coin : Bool
  salt : Text
  tokenSuffix : Text
  broken : List ConnId

/-- Functions that are not computed here: the hash of the crypto library, and the
rating formula with its floating-point arithmetic. -/
structure Externals where
  sha256 : Text → Text
  computeElo : Int → Int → GameResult → Int

/-- A connection object; it is connected as long as it has a descriptor.
`threadFd` is the descriptor its handler thread was started with. -/
structure ClientConnection where
  socketFd : Option Fd
  authenticated : Bool
  userId : UserId
  sessionToken : Text
  threadFd : Fd
  serving : Bool
deriving DecidableEq

structure Sent where
  conn : ConnId
  header : MessageHeader
  payload : Payload
deriving DecidableEq

/-- The connections, all that was sent on them, and all that `sendMessage` was
called with, also in vain; no handler reads `sent` or `calls`. -/
structure Network where
  clients : Table Fd ConnId
  connections : Table ConnId ClientConnection
  nextConn : ConnId
  sent : List Sent
  calls : List Sent

def stampedHeader (env : Env) (type : MessageType) (payload : Payload) : MessageHeader :=
  ⟨type, some payload.size, some env.now⟩

def bareHeader (type : MessageType) : MessageHeader := ⟨type, none, none⟩

namespace Network

def init : Network := ⟨∅, ∅, 0, [], []⟩

variable (net : Network)

def socketFd (conn : ConnId) : Option Fd := net.connections[conn]?.bind ClientConnection.socketFd

def disconnect (conn : ConnId) : Network :=
  { net with
    connections := net.connections.modify conn fun client => { client with socketFd := none } }

def setAuthenticated (conn : ConnId) (userId : UserId) (token : Text) : Network :=
  { net with
    connections := net.connections.modify conn fun client =>
      { client with authenticated := true, userId := userId, sessionToken := token } }

section Sending

variable (env : Env) (header : MessageHeader) (payload : Payload)

def called (call : Sent) (net : Network) : Network := { net with calls := net.calls ++ [call] }

/-- The payload is delivered whatever `header.length` is; the bytes are those of `Transfer`. -/
def sendMessage (conn : ConnId) (net : Network) : Network :=
  let net := net.called ⟨conn, header, payload⟩
  match net.socketFd conn with
  | none => net
  | some _ =>
      if conn ∈ env.broken then net.disconnect conn
      else { net with sent := net.sent ++ [⟨conn, header, payload⟩] }

/-- `Server::sendToClient`; `none` is the descriptor of a closed connection. -/
def sendToClient (fd : Option Fd) (net : Network) : Network :=
  match fd.bind fun fd => net.clients[fd]? with
  | none => net
  | some conn => net.sendMessage env header payload conn

def broadcast (net : Network) : Network :=
  net.clients.toList.foldl (fun net entry => net.sendMessage env header payload entry.2) net

end Sending

end Network

structure PlayerData where
  username : Text
  displayName : Text
  eloRating : Int
  status : PlayerStatus
  /-- A pointer in the source: a later connection can get its memory, but never an id. -/
  client : ConnId
deriving DecidableEq

structure PendingChallenge where
  challengeId : ChallengeId
  challengerId : UserId
  targetId : UserId
  timeLimit : Nat
  randomPlacement : Bool
  createdAt : Nat
  expiresAt : Nat
deriving DecidableEq

structure ChallengeManager where
  challenges : Table ChallengeId PendingChallenge
  nextChallengeId : ChallengeId

structure Games where
  activeMatches : Table MatchId MatchState
  readyPlayers : Table MatchId (Finset UserId)

def Games.readySet (games : Games) (matchId : MatchId) : Finset UserId :=
  (games.readyPlayers[matchId]?).getD ∅

inductive MatchEffect
  | concluded (matchId : MatchId) (winnerId : UserId) (reason : MatchEndReason)
  | eloUpdated (matchId : MatchId) (userId : UserId) (newElo : Int)
  | recorded (matchId : MatchId) (winnerId : UserId)
deriving DecidableEq

def MatchEffect.matchId : MatchEffect → MatchId
  | concluded matchId _ _ => matchId
  | eloUpdated matchId _ _ => matchId
  | recorded matchId _ => matchId

/-- `journal` records what was done on account of a match; no handler reads it. -/
structure Server where
  db : Database
  net : Network
  players : Table UserId PlayerData
  manager : ChallengeManager
  games : Games
  journal : List MatchEffect

namespace Server

def init : Server where
  db := Database.initializeSchema
  net := Network.init
  players := ∅
  manager := ⟨∅, 1⟩
  games := ⟨∅, ∅⟩
  journal := []

section Sending

variable (env : Env) (header : MessageHeader) (payload : Payload)

def getClientConnection (server : Server) (userId : UserId) : Option ConnId :=
  server.players[userId]?.map PlayerData.client

def sendOn (conn : ConnId) (server : Server) : Server :=
  { server with net := server.net.sendMessage env header payload conn }

def sendToClient (fd : Option Fd) (server : Server) : Server :=
  { server with net := server.net.sendToClient env header payload fd }

def tellPlayer (userId : UserId) (server : Server) : Server :=
  { server with
    net :=
      match server.getClientConnection userId with
      | none => server.net
      | some conn => server.net.sendMessage env header payload conn }

def sendToPlayer (userId : UserId) (server : Server) : Server :=
  { server with
    net :=
      match server.getClientConnection userId with
      | none => server.net
      | some conn => server.net.sendToClient env header payload (server.net.socketFd conn) }

end Sending

section Players

variable (env : Env)

def isPlayerOnline (server : Server) (userId : UserId) : Bool := (server.players[userId]?).isSome

def getPlayerStatus (server : Server) (userId : UserId) : PlayerStatus :=
  match server.players[userId]? with
  | none => .offline
  | some data => data.status

def playerInfo (userId : UserId) (data : PlayerData) : PlayerInfo where
  userId := userId
  username := safeStrCopy 32 data.username
  displayName := safeStrCopy 64 data.displayName
  eloRating := data.eloRating
  status := data.status

def getPlayerInfo (server : Server) (userId : UserId) : PlayerInfo :=
  match server.players[userId]? with
  | none => ⟨0, [], [], 1000, .offline⟩
  | some data => playerInfo userId data

def getOnlinePlayers (server : Server) : List PlayerInfo :=
  server.players.toList.map fun entry => playerInfo entry.1 entry.2

def statusUpdate (players : Table UserId PlayerData) (userId : UserId) (status : PlayerStatus) :
    Payload :=
  match players[userId]? with
  | none => .playerStatusUpdate userId .offline [] 1000
  | some data => .playerStatusUpdate userId status (safeStrCopy 64 data.displayName) data.eloRating

def broadcastPlayerStatusUpdate (userId : UserId) (status : PlayerStatus) (server : Server) :
    Server :=
  let payload := statusUpdate server.players userId status
  { server with
    net := server.net.broadcast env (stampedHeader env .playerStatusUpdate payload) payload }

def addPlayer (conn : ConnId) (userId : UserId) (username displayName : Text) (eloRating : Int)
    (server : Server) : Server :=
  let data : PlayerData := {
    username := username
    displayName := displayName
    eloRating := eloRating
    status := .available
    client := conn }
  { server with players := server.players.insert userId data }.broadcastPlayerStatusUpdate env
    userId .available

def broadcastIf (online : Bool) (userId : UserId) (status : PlayerStatus) (server : Server) :
    Server :=
  { server with
    net := if online then (server.broadcastPlayerStatusUpdate env userId status).net
      else server.net }

def removePlayer (userId : UserId) (server : Server) : Server :=
  { server with players := server.players.erase userId }.broadcastIf env
    (server.isPlayerOnline userId) userId .offline

def updatePlayerStatus (userId : UserId) (status : PlayerStatus) (server : Server) : Server :=
  { server with
    players := server.players.modify userId fun data => { data with status := status }
  }.broadcastIf env (server.isPlayerOnline userId) userId status

end Players

end Server

end Battleship
