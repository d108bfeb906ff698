import Battleship.ServerCore

/-! The authentication handler of `auth_handler.cpp` and the password check it
uses. -/

namespace Battleship

open Decimal (Text)

namespace PasswordHash

def hashPassword (lib : Externals) (salt password : Text) : Text :=
  salt ++ '$' :: lib.sha256 (salt ++ password)

/-- The comparison goes over all characters in the source; its outcome is equality. -/
def verifyPassword (lib : Externals) (password storedHash : Text) : Bool :=
  let salt := storedHash.takeWhile (· ≠ '$')
  if '$' ∉ storedHash ∨ salt = [] then false
  else lib.sha256 (salt ++ password) = (storedHash.dropWhile (· ≠ '$')).tail

end PasswordHash

def generateSessionToken (env : Env) (userId : UserId) : Text :=
  "token_".toList ++ Decimal.write userId ++ '_' :: env.tokenSuffix

namespace Server

variable (lib : Externals) (env : Env)

def sendResponse (conn : ConnId) (payload : Payload) (server : Server) : Server :=
  server.sendOn env (stampedHeader env .authResponse payload) payload conn

def handleRegister (conn : ConnId) (username password displayName : Text) (server : Server) :
    Server :=
  if server.db.usernameExists username then
    server.sendResponse env conn
      (.registerResponse false 0 (safeStrCopy 128 "Username already exists".toList))
  else
    let (db, userId) := server.db.createUser env.now username
      (PasswordHash.hashPassword lib env.salt password) displayName
    let server := { server with db := db }
    if userId > 0 then server.sendResponse env conn (.registerResponse true userId [])
    else
      server.sendResponse env conn
        (.registerResponse false 0 (safeStrCopy 128 "Failed to create user".toList))

def loginRefused (error : String) : Payload :=
  .loginResponse false 0 [] [] 1000 (safeStrCopy 128 error.toList)

def handleLogin (conn : ConnId) (username password : Text) (server : Server) : Server :=
  match server.db.getUserByUsername username with
  | none => server.sendResponse env conn (loginRefused "User not found")
  | some (userId, user) =>
      if !PasswordHash.verifyPassword lib password user.passwordHash then
        server.sendResponse env conn (loginRefused "Invalid password")
      else
        let token := generateSessionToken env userId
        let (db, sessionId) := server.db.createSession env.now userId token 24
        if sessionId > 0 then
          { server with
            db := db.updateLastLogin env.now userId
            net := server.net.setAuthenticated conn userId token }
            |>.sendResponse env conn (.loginResponse true userId (safeStrCopy 64 token)
              (safeStrCopy 64 user.displayName) user.eloRating [])
            |>.addPlayer env conn userId user.username user.displayName user.eloRating
        else
          { server with db := db }.sendResponse env conn (.loginResponse false userId
            (safeStrCopy 64 token) (safeStrCopy 64 user.displayName) user.eloRating
            (safeStrCopy 128 "Failed to create session".toList))

def handleLogout (conn : ConnId) (client : ClientConnection) (token : Text) (server : Server) :
    Server :=
  let (db, sessionUser) := server.db.validateSession env.now token
  let userId := if sessionUser = 0 then client.userId else sessionUser
  let server := { server with db := db.deleteSession token }
  let server := if userId > 0 then server.removePlayer env userId else server
  server.sendResponse env conn (.logoutResponse true)

def handleValidateSession (conn : ConnId) (token : Text) (server : Server) : Server :=
  let (db, userId) := server.db.validateSession env.now token
  let server := { server with db := db }
  if userId = 0 then
    server.sendResponse env conn (.sessionValidateResponse false 0 [] [] 1000
      (safeStrCopy 128 "Session expired or invalid".toList))
  else
    match server.db.getUserById userId with
    | none =>
        server.sendResponse env conn (.sessionValidateResponse false 0 [] [] 1000
          (safeStrCopy 128 "User not found".toList))
    | some user =>
        { server with net := server.net.setAuthenticated conn userId token }
          |>.sendResponse env conn (.sessionValidateResponse true userId
            (safeStrCopy 32 user.username) (safeStrCopy 64 user.displayName) user.eloRating [])
          |>.addPlayer env conn userId (safeStrCopy 32 user.username)
            (safeStrCopy 64 user.displayName) user.eloRating

end Server

end Battleship
