import Battleship.Messages

/-! The requests of `client_network.cpp` and the handlers of their responses. All
requests share one record of what is pending. -/

namespace Battleship

open Decimal (Text)

inductive ConnectionStatus
  | disconnected | connecting | connected | authenticationPending | authenticated | errorState
deriving DecidableEq, Repr

inductive PendingRequest
  | none | register | login | logout | validateSession | playerList | sendChallenge | shipPlacement
deriving DecidableEq, Repr

/-- A callback by the number of the call that it was passed to; one that is not
`given` is empty. -/
structure Callback where
  call : Nat
  given : Bool
deriving DecidableEq, Repr

inductive Reply
  | register (success : Bool) (userId : UserId) (error : Text)
  | login (success : Bool) (userId : UserId) (displayName : Text) (eloRating : Int)
      (sessionToken error : Text)
  | logout (success : Bool)
  | validateSession (valid : Bool) (userId : UserId) (username displayName : Text)
      (eloRating : Int) (error : Text)
  | playerList (success : Bool) (players : List PlayerInfo)
  | sendChallenge (success : Bool) (error : Text)
  | shipPlacement (success : Bool) (error : Text)
deriving DecidableEq

structure ClientNetwork where
  status : ConnectionStatus
  userId : UserId
  sessionToken : Text
  displayName : Text
  eloRating : Int
  callbacks : PendingRequest → Callback
  pendingRequest : PendingRequest
  /-- The places where a callback was called, unless it is empty; the source has no
  such record. -/
  replies : List (Callback × Reply)

namespace ClientNetwork

def isConnected (client : ClientNetwork) : Bool :=
  client.status = .connected || client.status = .authenticated

def isAuthenticated (client : ClientNetwork) : Bool := client.status = .authenticated

def notify (callback : Callback) (reply : Reply) (client : ClientNetwork) : ClientNetwork :=
  { client with replies := client.replies ++ [(callback, reply)] }

section Requests

variable (sent : Bool) (callback : Callback) (client : ClientNetwork)

/-- What all requests have in common. `sent` is the outcome of `sendMessage`; the
message is returned when it is on its way. -/
def request (kind : PendingRequest) (permitted : Bool) (refused failed : Reply)
    (message : Request) : ClientNetwork × Option Request :=
  if !permitted then (client.notify callback refused, none)
  else
    let waiting := { client with
      callbacks := Function.update client.callbacks kind callback
      pendingRequest := kind }
    if sent then (waiting, some message)
    else ({ waiting with pendingRequest := .none }.notify callback failed, none)

def registerUser (username password displayName : Text) : ClientNetwork × Option Request :=
  client.request sent callback .register client.isConnected
    (.register false 0 "Not connected to server".toList)
    (.register false 0 "Failed to send request".toList)
    (.register (safeStrCopy 32 username) (safeStrCopy 64 password) (safeStrCopy 64 displayName))

def loginUser (username password : Text) : ClientNetwork × Option Request :=
  client.request sent callback .login client.isConnected
    (.login false 0 [] 0 [] "Not connected to server".toList)
    (.login false 0 [] 0 [] "Failed to send request".toList)
    (.login (safeStrCopy 32 username) (safeStrCopy 64 password))

def logoutUser : ClientNetwork × Option Request :=
  client.request sent callback .logout client.isAuthenticated (.logout false) (.logout false)
    (.logout (safeStrCopy 64 client.sessionToken))

def validateSession (sessionToken : Text) : ClientNetwork × Option Request :=
  client.request sent callback .validateSession client.isConnected
    (.validateSession false 0 [] [] 0 "Not connected to server".toList)
    (.validateSession false 0 [] [] 0 "Failed to send request".toList)
    (.validateSession (safeStrCopy 64 sessionToken))

def requestPlayerList : ClientNetwork × Option Request :=
  client.request sent callback .playerList client.isAuthenticated (.playerList false [])
    (.playerList false []) .playerListRequest

def sendChallenge (targetUserId : UserId) (timeLimit : Nat) (randomPlacement : Bool) :
    ClientNetwork × Option Request :=
  client.request sent callback .sendChallenge client.isAuthenticated
    (.sendChallenge false "Not authenticated".toList)
    (.sendChallenge false "Failed to send challenge".toList)
    (.challengeSend targetUserId timeLimit randomPlacement)

def sendShipPlacement (matchId : MatchId) (ships : Vector Ship numShips) :
    ClientNetwork × Option Request :=
  client.request sent callback .shipPlacement client.isAuthenticated
    (.shipPlacement false "Not authenticated".toList)
    (.shipPlacement false "Failed to send ship placement".toList) (.shipPlacement matchId ships)

end Requests

section Responses

def invalidResponse : Text := "Invalid response from server".toList

/-! `deserialize` compares the size of the payload to that of the struct. The four
responses that share a message type differ in size, so each is read as itself only. -/

def registerReply : Payload → Reply
  | .registerResponse success userId errorMessage =>
      .register success userId (if success then [] else errorMessage)
  | _ => .register false 0 invalidResponse

def loginReply : Payload → Reply
  | .loginResponse success userId sessionToken displayName eloRating errorMessage =>
      .login success userId displayName eloRating sessionToken
        (if success then [] else errorMessage)
  | _ => .login false 0 [] 0 [] invalidResponse

def logoutReply : Payload → Reply
  | .logoutResponse success => .logout success
  | _ => .logout false

def validateSessionReply : Payload → Reply
  | .sessionValidateResponse valid userId username displayName eloRating errorMessage =>
      .validateSession valid userId username displayName eloRating
        (if valid then [] else errorMessage)
  | _ => .validateSession false 0 [] [] 0 invalidResponse

def playerListReply : Payload → Reply
  | .playerListResponse players => .playerList true players
  | _ => .playerList false []

/-- There is no check here: the bytes are copied whatever they are. -/
def shipPlacementReply : Payload → Reply
  | .shipPlacementAck _ valid errorMessage => .shipPlacement valid errorMessage
  | _ => .shipPlacement false []

def signIn (payload : Payload) (client : ClientNetwork) : ClientNetwork :=
  match payload with
  | .loginResponse true userId sessionToken displayName eloRating _ =>
      { client with userId, sessionToken, displayName, eloRating, status := .authenticated }
  | _ => client

def signOut (payload : Payload) (client : ClientNetwork) : ClientNetwork :=
  match payload with
  | .logoutResponse true =>
      { client with
        userId := 0
        sessionToken := []
        displayName := []
        eloRating := 0
        status := .connected }
  | _ => client

/-- The source stores the name in the place of the token. -/
def resume (payload : Payload) (client : ClientNetwork) : ClientNetwork :=
  match payload with
  | .sessionValidateResponse true userId username displayName eloRating _ =>
      { client with
        userId, displayName, eloRating
        sessionToken := username
        status := .authenticated }
  | _ => client

structure SameSlot (client later : ClientNetwork) : Prop where
  callbacks : later.callbacks = client.callbacks
  pendingRequest : later.pendingRequest = client.pendingRequest
  replies : later.replies = client.replies

theorem signIn_sameSlot (payload : Payload) (client : ClientNetwork) :
    client.SameSlot (client.signIn payload) := by
  unfold signIn
  split <;> exact ⟨rfl, rfl, rfl⟩

theorem signOut_sameSlot (payload : Payload) (client : ClientNetwork) :
    client.SameSlot (client.signOut payload) := by
  unfold signOut
  split <;> exact ⟨rfl, rfl, rfl⟩

theorem resume_sameSlot (payload : Payload) (client : ClientNetwork) :
    client.SameSlot (client.resume payload) := by
  unfold resume
  split <;> exact ⟨rfl, rfl, rfl⟩

def handleAuthResponse (payload : Payload) (client : ClientNetwork) : ClientNetwork :=
  let idle := { client with pendingRequest := .none }
  match client.pendingRequest with
  | .register => idle.notify (client.callbacks .register) (registerReply payload)
  | .login => (idle.signIn payload).notify (client.callbacks .login) (loginReply payload)
  | .logout => (idle.signOut payload).notify (client.callbacks .logout) (logoutReply payload)
  | .validateSession =>
      (idle.resume payload).notify (client.callbacks .validateSession)
        (validateSessionReply payload)
  | _ => idle

def handlePlayerListResponse (payload : Payload) (client : ClientNetwork) : ClientNetwork :=
  if client.pendingRequest ≠ .playerList then client
  else
    { client with pendingRequest := .none }.notify (client.callbacks .playerList)
      (playerListReply payload)

def handleShipPlacementAck (payload : Payload) (client : ClientNetwork) : ClientNetwork :=
  if client.pendingRequest = .shipPlacement then
    { client with pendingRequest := .none }.notify (client.callbacks .shipPlacement)
      (shipPlacementReply payload)
  else client

def receiveMessage (type : MessageType) (payload : Payload) (client : ClientNetwork) :
    ClientNetwork :=
  match type with
  | .authResponse => client.handleAuthResponse payload
  | .playerList => client.handlePlayerListResponse payload
  | .shipPlacement => client.handleShipPlacementAck payload
  | _ => client

end Responses

end ClientNetwork

end Battleship
