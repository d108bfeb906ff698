import Battleship.Availability

/-! The challenge manager under threads that interleave between its locked
sections. A thread that has validated a challenge, or taken one that its target
accepts, goes on later; any section of another thread may come first. -/

namespace Battleship

inductive Task
  | insertChallenge (now : Nat) (challengerId : UserId) (request : ChallengeRequest)
  | createMatch (challenge : PendingChallenge)

def Task.accepted? : Task → Option PendingChallenge
  | insertChallenge _ _ _ => none
  | createMatch challenge => some challenge

/-- The manager, the threads within its operations, and a record of the
challenges inserted and of those for which `createMatch` was called. -/
structure Threads where
  manager : ChallengeManager
  tasks : List Task
  issued : List PendingChallenge
  matched : List PendingChallenge

/-- A locked section, or what a thread does from one to the next. The answers of
the player manager may be any. -/
inductive Section
  | validateChallenge (isPlayerOnline : UserId → Bool) (getPlayerStatus : UserId → PlayerStatus)
      (now : Nat) (challengerId : UserId) (request : ChallengeRequest)
  | resume (index : Nat)
  | respondToChallenge (responderId : UserId) (response : ChallengeResponse)
  | cancelChallenge (challengeId : ChallengeId)
  | checkExpiredChallenges (now : Nat)
  | removePlayerChallenges (userId : UserId)

namespace Threads

def init : Threads := ⟨⟨∅, 1⟩, [], [], []⟩

def carryOut (threads : Threads) : Task → Threads
  | .insertChallenge now challengerId request =>
      let inserted := threads.manager.insertChallenge now challengerId request
      { threads with manager := inserted.1, issued := threads.issued ++ [inserted.2] }
  | .createMatch challenge => { threads with matched := threads.matched ++ [challenge] }

def step (threads : Threads) : Section → Threads
  | .validateChallenge isPlayerOnline getPlayerStatus now challengerId request =>
      match validateChallenge isPlayerOnline getPlayerStatus challengerId request.targetUserId with
      | some _ => threads
      | none =>
          { threads with tasks := threads.tasks ++ [.insertChallenge now challengerId request] }
  | .resume index =>
      match threads.tasks[index]? with
      | none => threads
      | some task => { threads with tasks := threads.tasks.eraseIdx index }.carryOut task
  | .respondToChallenge responderId response =>
      let taken := threads.manager.takeChallenge responderId response.challengeId
      let threads := { threads with manager := taken.1 }
      match taken.2 with
      | .unknown => threads
      | .wrongResponder => threads
      | .challenge challenge =>
          if response.accepted then
            { threads with tasks := threads.tasks ++ [.createMatch challenge] }
          else threads
  | .cancelChallenge challengeId =>
      { threads with manager := threads.manager.cancelChallenge challengeId }
  | .checkExpiredChallenges now =>
      { threads with manager := (threads.manager.expireChallenges now).1 }
  | .removePlayerChallenges userId =>
      { threads with manager := threads.manager.removePlayerChallenges userId }

abbrev ran (sections : List Section) : Threads := Machine.exec step init sections

def accepted (threads : Threads) : List PendingChallenge :=
  threads.matched ++ threads.tasks.filterMap Task.accepted?

def Idle (threads : Threads) (manager : ChallengeManager) : Prop :=
  threads.tasks = [] ∧ threads.manager = manager

end Threads

def Server.sections (server : Server) (call : Invocation) : List Section :=
  match call.operation with
  | .sendChallenge challengerId request =>
      [.validateChallenge server.isPlayerOnline server.getPlayerStatus call.env.now challengerId
        request, .resume 0]
  | .respondToChallenge responderId response => [.respondToChallenge responderId response, .resume 0]
  | .cancelChallenge challengeId => [.cancelChallenge challengeId]
  | .checkExpiredChallenges => [.checkExpiredChallenges call.env.now]
  | .removePlayerChallenges userId => [.removePlayerChallenges userId]
  | .addPlayer _ _ _ _ _ | .removePlayer _ | .updatePlayerStatus _ _ | .sendMatchEnd _ _ _ _ _ _ => []

namespace Threads

/-- A whole operation is its sections, one after the other. -/
theorem perform_sections (lib : Externals) {server : Server} {threads : Threads}
    (idle : threads.Idle server.manager) (call : Invocation) :
    (Machine.exec step threads (server.sections call)).Idle (server.perform lib call).manager := by
  obtain ⟨manager, tasks, issued, matched⟩ := threads
  obtain ⟨rfl, rfl⟩ := idle
  obtain ⟨env, operation⟩ := call
  cases operation with
  | sendChallenge challengerId request =>
      simp only [Server.sections, Server.perform, Server.sendChallenge, Server.validateChallenge,
        Machine.exec_cons, Machine.exec_nil, step]
      cases validateChallenge server.isPlayerOnline server.getPlayerStatus challengerId
        request.targetUserId with
      | none => exact ⟨rfl, rfl⟩
      | some error => exact ⟨rfl, rfl⟩
  | respondToChallenge responderId response =>
      simp only [Server.sections, Server.perform, Server.respondToChallenge, Machine.exec_cons,
        Machine.exec_nil, step]
      cases taken : (server.manager.takeChallenge responderId response.challengeId).2 with
      | unknown => exact ⟨rfl, ChallengeManager.takeChallenge_kept (by simp [taken])⟩
      | wrongResponder => exact ⟨rfl, ChallengeManager.takeChallenge_kept (by simp [taken])⟩
      | challenge challenge =>
          cases response.accepted with
          | false => exact ⟨rfl, rfl⟩
          | true =>
              simp only [if_true, Server.acceptChallenge_manager]
              exact ⟨rfl, rfl⟩
  | checkExpiredChallenges =>
      obtain ⟨net, shape⟩ := server.checkExpiredChallenges_eq env
      simp only [Server.sections, Server.perform, shape]
      exact ⟨rfl, rfl⟩
  | sendMatchEnd ended winnerId reason reasonText totalMoves duration =>
      simp only [Server.sections, Server.perform]
      split <;> exact ⟨rfl, rfl⟩
  | addPlayer | removePlayer | updatePlayerStatus | cancelChallenge | removePlayerChallenges =>
      exact ⟨rfl, rfl⟩

/-- Every run of whole operations is a run of sections. -/
theorem performed_sections (lib : Externals) (db : Database) (calls : List Invocation) :
    ∃ sections, (ran sections).Idle (Server.performed lib db calls).manager := by
  induction calls using List.reverseRecOn with
  | nil => exact ⟨[], rfl, rfl⟩
  | append_singleton before call ih =>
      obtain ⟨sections, idle⟩ := ih
      refine ⟨sections ++ (Server.performed lib db before).sections call, ?_⟩
      rw [ran, Machine.exec_append, Server.performed_concat]
      exact perform_sections lib idle call

end Threads

end Battleship
