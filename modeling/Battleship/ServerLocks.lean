import Battleship.Library.Locks

/-! The mutexes of the server. Each function is given by the locks it takes and the calls that
may block, in the order of its body; a return in the middle leaves out what follows. What it
computes, and the calls to the database, are left out. -/

namespace Battleship.ServerLocks

open Locks Locks.Code

inductive Mutex
  | handlers | clients | players | challenges | matches | ready | rematch
deriving DecidableEq

instance : Finite Mutex :=
  Finite.of_surjective (fun index : Fin 7 => ([.handlers, .clients, .players, .challenges,
    .matches, .ready, .rematch] : List Mutex).get index) fun mutex => by cases mutex <;> decide

inductive Blocking
  | accept | receive | send | sleep | join
deriving DecidableEq

abbrev Body := Locks.Code Mutex Blocking

def guarded (mutex : Mutex) : Body := locked mutex skip

namespace ClientConnection

def sendData : Body := loop (effect .send)

def receiveData : Body := loop (effect .receive)

def sendMessage : Body := optional (block [sendData, optional sendData])

def receiveMessage : Body := optional (block [receiveData, optional receiveData])

end ClientConnection

open ServerLocks.ClientConnection

namespace Server

/-- The list of clients is copied under the lock, and the sending is done without it. -/
def broadcast : Body := block [guarded .clients, loop sendMessage]

def sendToClient : Body := block [guarded .clients, optional sendMessage]

def getConnectedClients : Body := guarded .clients

end Server

namespace PlayerManager

def getPlayerStatus : Body := guarded .players

def getOnlinePlayers : Body := guarded .players

def getAvailablePlayers : Body := guarded .players

def getPlayerInfo : Body := guarded .players

def getClientConnection : Body := guarded .players

def isPlayerOnline : Body := guarded .players

def broadcastPlayerStatusUpdate : Body := block [guarded .players, optional Server.broadcast]

def addPlayer : Body := block [guarded .players, broadcastPlayerStatusUpdate]

def removePlayer : Body := block [guarded .players, optional broadcastPlayerStatusUpdate]

def updatePlayerStatus : Body := block [guarded .players, optional broadcastPlayerStatusUpdate]

end PlayerManager

open ServerLocks.PlayerManager

def tellPlayer : Body := block [getClientConnection, optional sendMessage]

namespace ChallengeManager

def validateChallenge : Body :=
  block [isPlayerOnline, optional (block [getPlayerStatus, optional getPlayerStatus])]

def notifyChallenger : Body := tellPlayer

def notifyTarget : Body := block [getPlayerInfo, tellPlayer]

def sendChallenge : Body :=
  block [validateChallenge, choice tellPlayer (block [guarded .challenges, notifyTarget])]

def startMatch : Body :=
  block [getPlayerInfo, getPlayerInfo, tellPlayer, tellPlayer, updatePlayerStatus,
    updatePlayerStatus]

/-- The responder may not be the target, which returns under the lock; the challenge may not
be found, or it is accepted or declined. -/
def respondToChallenge : Body :=
  block [guarded .challenges,
    optional (branch [tellPlayer, startMatch, notifyChallenger])]

def cancelChallenge : Body := guarded .challenges

def checkExpiredChallenges : Body :=
  block [guarded .challenges, loop (block [notifyChallenger, tellPlayer])]

def removePlayerChallenges : Body := guarded .challenges

end ChallengeManager

namespace GameplayHandler

open ServerLocks.Server

def getMatch : Body := guarded .matches

def createMatch : Body := guarded .matches

def removeMatch : Body := block [guarded .matches, guarded .ready]

def sendToPlayer : Body := block [getClientConnection, optional sendToClient]

def sendToBoth : Body :=
  block [getClientConnection, getClientConnection, optional sendToClient, optional sendToClient]

def sendMatchReady : Body := sendToBoth

def sendMoveResult : Body := sendToBoth

def sendTurnUpdate : Body := block [getMatch, optional sendToBoth]

def sendMatchEnd : Body := block [sendToPlayer, sendToPlayer]

def conclude : Body :=
  block [sendMatchEnd, updatePlayerStatus, updatePlayerStatus, removeMatch]

def handleShipPlacement : Body :=
  optional (choice sendToClient (block [sendToClient, guarded .ready,
    optional (block [guarded .ready,
      optional (block [createMatch, getMatch,
        optional (block [sendMatchReady, sendTurnUpdate])])])]))

def handleMove : Body :=
  optional (block [getMatch, optional (block [sendMoveResult, choice conclude sendTurnUpdate])])

def handleResign : Body := optional (block [getMatch, optional conclude])

def handleDrawOffer : Body := optional (block [getMatch, optional sendToPlayer])

def handleDrawResponse : Body :=
  optional (block [getMatch, optional (choice sendToPlayer conclude)])

def handleRematchRequest : Body := optional (guarded .rematch)

def handleRematchResponse : Body := skip

def handleMessage : Body :=
  branch [handleShipPlacement, handleMove, handleResign, handleDrawOffer, handleDrawResponse,
    handleRematchRequest, handleRematchResponse]

def checkTurnTimeouts : Body :=
  block [guarded .matches, loop (block [getMatch, optional conclude])]

def handlePlayerDisconnect : Body :=
  block [guarded .matches,
    loop (block [getMatch, optional (block [sendMatchEnd, removeMatch, updatePlayerStatus])])]

end GameplayHandler

namespace AuthHandler

def sendResponse : Body := sendMessage

def handleRegister : Body := optional sendResponse

def handleLogin : Body := optional (block [sendResponse, optional addPlayer])

def handleLogout : Body := optional (block [optional removePlayer, sendResponse])

def handleValidateSession : Body := optional (block [sendResponse, optional addPlayer])

def handleMessage : Body :=
  branch [handleLogin, handleRegister, handleLogout, handleValidateSession]

end AuthHandler

namespace PlayerHandler

def handlePlayerListRequest : Body := block [getOnlinePlayers, sendMessage]

end PlayerHandler

namespace ChallengeHandler

def handleMessage : Body :=
  branch [ChallengeManager.sendChallenge, ChallengeManager.respondToChallenge]

end ChallengeHandler

namespace Server

def setupHandlers : Body := guarded .handlers

def routeMessage : Body :=
  locked .handlers (branch [sendMessage, AuthHandler.handleMessage,
    PlayerHandler.handlePlayerListRequest, ChallengeHandler.handleMessage,
    GameplayHandler.handleMessage])

def removeClient : Body :=
  block [guarded .clients, optional (block [GameplayHandler.handlePlayerDisconnect, removePlayer])]

def handleClient : Body :=
  block [guarded .clients,
    optional (block [loop (block [receiveMessage, optional routeMessage]), removeClient])]

def acceptConnections : Body := loop (block [effect .accept, optional (guarded .clients)])

def timeoutCheckerThread : Body :=
  loop (block [effect .sleep, optional GameplayHandler.checkTurnTimeouts])

def stop : Body := optional (block [optional (effect .join), guarded .clients])

end Server

def main : Body := block [Server.setupHandlers, loop (block [effect .sleep,
  optional Server.getConnectedClients])]

/-- SIGINT and SIGTERM; `exit` is left out. -/
def signalHandler : Body := optional Server.stop

inductive Role
  | main | accept | client | timeoutChecker | challenges
deriving DecidableEq

/-- The calls of the challenge manager and the player manager that no handler makes are taken
to be made by any thread. -/
inductive Entry : Role → Body → Prop
  | main : Entry .main main
  | acceptConnections : Entry .accept Server.acceptConnections
  | handleClient : Entry .client Server.handleClient
  | timeoutCheckerThread : Entry .timeoutChecker Server.timeoutCheckerThread
  | cancelChallenge : Entry .challenges ChallengeManager.cancelChallenge
  | checkExpiredChallenges : Entry .challenges ChallengeManager.checkExpiredChallenges
  | removePlayerChallenges : Entry .challenges ChallengeManager.removePlayerChallenges
  | getAvailablePlayers : Entry .challenges getAvailablePlayers

/-- `stop` joins the thread of the timeout checker. -/
def awaits : Blocking → Option Role
  | .join => some .timeoutChecker
  | .accept | .receive | .send | .sleep => none

/-- The threads of the server. A signal interrupts a thread where `interruptible` tells, and
the thread goes on after the handler. -/
def program (interruptible : Worker Role Mutex Blocking → Prop) :
    Program Role Mutex Blocking where
  entry := Entry
  interrupts worker code := code = signalHandler ∧ interruptible worker
  awaits := awaits

/-- A thread that holds no mutex, other than the one that the handler joins. -/
def Unlocked (worker : Worker Role Mutex Blocking) : Prop :=
  worker.thread.held = [] ∧ worker.role ≠ .timeoutChecker

/-- `handlers_mutex_` comes first and messages are sent under it; the others are the last to
be taken, and nothing that blocks is done under them. -/
def discipline : Discipline Role Mutex Blocking where
  rank mutex := if mutex = .handlers then 0 else 1
  allows mutex blocking := mutex = .handlers && blocking = .send
  level role := if role = .timeoutChecker then 0 else 1

theorem governs : discipline.Governs (program Unlocked) where
  entry role body entry := by cases entry <;> rfl
  interrupts worker body comes := by
    obtain ⟨rfl, unlocked, other⟩ := comes
    refine ⟨unlocked, ?_⟩
    cases role : worker.role with
    | timeoutChecker => exact absurd role other
    | main | accept | client | challenges => rfl

abbrev Reachable (pool : Pool Role Mutex Blocking) : Prop :=
  Locks.Reachable (program Unlocked) pool

/-- Whatever the threads of the server are doing, no mutex is held twice, and some thread can go
on unless all have ended. -/
theorem never_deadlocked {pool : Pool Role Mutex Blocking} (reachable : Reachable pool) :
    (Pool.held pool).Nodup ∧
      ((∃ worker ∈ pool, worker.thread ≠ []) → ∃ later, PoolMove awaits pool later) :=
  ⟨reachable.nodup, exists_move (governs.holds reachable)⟩

def cancelling : Pool Role Mutex Blocking := [⟨.challenges, [.run skip, .release .challenges]⟩]

theorem reachable_cancelling : Reachable cancelling :=
  (Relation.ReflTransGen.single (.start Entry.cancelChallenge [])).tail
    (.move (.at [] [] (.acquire (by simp [Pool.held]) skip [])))

theorem never_deadlocked_cancelling : ∃ later, PoolMove awaits cancelling later :=
  (never_deadlocked reachable_cancelling).2 ⟨_, List.mem_singleton_self _, by simp⟩

section Interrupted

def served : Thread Mutex Blocking :=
  [.run (block [optional (block [loop (block [receiveMessage, optional Server.routeMessage]),
    Server.removeClient])])]

def lookingUp : Thread Mutex Blocking := .run skip :: .release .clients :: served

def interrupted : Pool Role Mutex Blocking :=
  [⟨.client, .run (guarded .clients) :: .run skip :: lookingUp⟩]

theorem alone_moves {thread later : Thread Mutex Blocking}
    (step : ThreadStep (· ∉ thread.held) (fun _ => True) thread later) :
    Locks.Step (program fun _ => True) [⟨Role.client, thread⟩] [⟨Role.client, later⟩] := by
  refine .move (@PoolMove.at _ _ _ _ [] ⟨Role.client, thread⟩ _ [] (step.mono ?_ ?_))
  · intro mutex free
    simpa [Pool.held] using free
  · intro blocking _ role awaited worker member
    obtain rfl := List.mem_singleton.mp member
    cases blocking <;> cases awaited
    simp

/-- With signals at any point the server comes to a deadlock. -/
theorem deadlocked_interrupted : Locks.Reachable (program fun _ => True) interrupted ∧
    ¬∃ later, PoolMove awaits interrupted later := by
  constructor
  · have started : Locks.Reachable (program fun _ => True)
        [⟨Role.client, .run (guarded .clients) :: served⟩] :=
      (Relation.ReflTransGen.single (.start Entry.handleClient [])).tail (alone_moves (.seq _ _ []))
    have locked := started.tail (alone_moves (.acquire (by simp [served]) skip served))
    have signalled := locked.tail (.interrupt [] [] ⟨rfl, trivial⟩)
    have stopping := signalled.tail (alone_moves (.right skip Server.stop lookingUp))
    have running := stopping.tail (alone_moves (.right skip _ lookingUp))
    have joining := running.tail (alone_moves (.seq _ _ lookingUp))
    have joins := joining.tail (alone_moves (.right skip _ _))
    have joined := joins.tail (alone_moves (@ThreadStep.effect _ _ _ _ Blocking.join trivial _))
    exact joined.tail (alone_moves (.seq _ _ lookingUp))
  · rintro ⟨later, move⟩
    generalize shape : interrupted = pool at move
    obtain @⟨before, worker, next, after, step⟩ := move
    obtain ⟨rfl, same⟩ | ⟨rest, rfl, same⟩ := List.cons_eq_append_iff.mp shape
    · obtain ⟨rfl, rfl⟩ := List.cons.inj same
      cases step with
      | acquire available => exact available (by simp [Pool.held, lookingUp, served])
    · simp at same

end Interrupted

end Battleship.ServerLocks
