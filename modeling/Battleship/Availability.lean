import Battleship.ServerRuns

/-! Who is AVAILABLE when a match is created. A challenge is checked when it is
sent; here the operations of both managers are run in any order, together with
the ends of matches, and the creations of matches are traced back to them. -/

namespace Battleship

open Decimal (Text)

inductive Operation
  | addPlayer (conn : ConnId) (userId : UserId) (username displayName : Text) (eloRating : Int)
  | removePlayer (userId : UserId)
  | updatePlayerStatus (userId : UserId) (status : PlayerStatus)
  | sendChallenge (challengerId : UserId) (request : ChallengeRequest)
  | respondToChallenge (responderId : UserId) (response : ChallengeResponse)
  | cancelChallenge (challengeId : ChallengeId)
  | checkExpiredChallenges
  | removePlayerChallenges (userId : UserId)
  | sendMatchEnd (matchId : MatchId) (winnerId : UserId) (reason : MatchEndReason)
      (reasonText : String) (totalMoves : Int) (duration : Nat)

structure Invocation where
  env : Env
  operation : Operation

namespace Server

def openedOn (db : Database) : Server := { init with db := db }

def perform (lib : Externals) (server : Server) (call : Invocation) : Server :=
  match call.operation with
  | .addPlayer conn userId username displayName eloRating =>
      server.addPlayer call.env conn userId username displayName eloRating
  | .removePlayer userId => server.removePlayer call.env userId
  | .updatePlayerStatus userId status => server.updatePlayerStatus call.env userId status
  | .sendChallenge challengerId request => server.sendChallenge call.env challengerId request
  | .respondToChallenge responderId response =>
      server.respondToChallenge call.env responderId response
  | .cancelChallenge challengeId => server.cancelChallenge challengeId
  | .checkExpiredChallenges => server.checkExpiredChallenges call.env
  | .removePlayerChallenges userId => server.removePlayerChallenges userId
  | .sendMatchEnd matchId winnerId reason reasonText totalMoves duration =>
      match server.db.matchRows[matchId]? with
      | none => server
      | some row =>
          server.sendMatchEnd lib call.env matchId row.player1Id row.player2Id winnerId reason
            reasonText totalMoves duration

abbrev performed (lib : Externals) (db : Database) (calls : List Invocation) : Server :=
  Machine.exec (perform lib) (openedOn db) calls

def Available (server : Server) (userId : UserId) : Prop :=
  server.isPlayerOnline userId = true ∧ server.getPlayerStatus userId = .available

/-- The match was created with the id `first` or later, the user plays in it, and
it has not ended. -/
def PlaysIn (first : MatchId) (server : Server) (userId : UserId) (matchId : MatchId) : Prop :=
  first ≤ matchId ∧ server.endings matchId = [] ∧
    ∃ row : Match, server.db.matchRows[matchId]? = some row ∧ row.Seats userId

def Free (first : MatchId) (server : Server) (userId : UserId) : Prop :=
  server.Available userId ∧ ∀ matchId, ¬PlaysIn first server userId matchId

/-- Whenever a call creates a match, both its players are AVAILABLE and in no
other match of the run. -/
def PairsFreeUsers (lib : Externals) (db : Database) (calls : List Invocation) : Prop :=
  ∀ before call, Machine.StepOf calls before call → ∀ (matchId : MatchId) (row : Match),
    (performed lib db before).db.matchRows[matchId]? = none →
    ((performed lib db before).perform lib call).db.matchRows[matchId]? = some row →
    ∀ userId, row.Seats userId → Free db.nextMatchId (performed lib db before) userId

def Accepts (server : Server) (call : Invocation) (challenge : PendingChallenge) : Prop :=
  ∃ response : ChallengeResponse,
    call.operation = .respondToChallenge challenge.targetId response ∧ response.accepted = true ∧
    server.manager.challenges[response.challengeId]? = some challenge ∧
    server.db.HasUser challenge.challengerId ∧ server.db.HasUser challenge.targetId

def Frees (first : MatchId) (userId : UserId) (server : Server) (call : Invocation) : Prop :=
  match call.operation with
  | .addPlayer _ added _ _ _ => added = userId ∧ ∀ matchId, ¬PlaysIn first server userId matchId
  | .updatePlayerStatus updated status => updated = userId ∧ status = .available ∧
      server.isPlayerOnline userId = true ∧ ∀ matchId, ¬PlaysIn first server userId matchId
  | .sendMatchEnd ended _ _ _ _ _ => server.Available userId ∧
      ∀ matchId, PlaysIn first server userId matchId → matchId = ended
  | _ => False

def Occupies (userId : UserId) (server : Server) (call : Invocation) : Prop :=
  match call.operation with
  | .removePlayer removed => removed = userId
  | .updatePlayerStatus updated status => updated = userId ∧ status ≠ .available
  | .respondToChallenge _ _ => ∃ challenge, server.Accepts call challenge ∧
      (challenge.challengerId = userId ∨ challenge.targetId = userId)
  | _ => False

/-- A challenge is accepted only while the monitor of the run has both of its
users free: a call freed them, and none has occupied them since. -/
def AcceptedWhileFree (lib : Externals) (db : Database) (calls : List Invocation) : Prop :=
  ∀ before call, Machine.StepOf calls before call → ∀ challenge,
    (performed lib db before).Accepts call challenge →
    ∀ userId, challenge.challengerId = userId ∨ challenge.targetId = userId →
      Machine.Since (perform lib) (Frees db.nextMatchId userId)
        (fun server call => ¬server.Occupies userId call) (openedOn db) before

def pairedRow (env : Env) (challenge : PendingChallenge) : Match :=
  ⟨challenge.challengerId, challenge.targetId, 0, .waiting, env.now, 0⟩

structure Pairs (server : Server) (env : Env) (challenge : PendingChallenge) (later : Server) :
    Prop where
  rows : later.db.matchRows =
    server.db.matchRows.insert server.db.nextMatchId (pairedRow env challenge)
  next : later.db.nextMatchId = server.db.nextMatchId + 1
  journal : later.journal = server.journal
  players : ∀ userId, ¬(challenge.challengerId = userId ∨ challenge.targetId = userId) →
    later.players[userId]? = server.players[userId]?

structure SameMatches (server later : Server) : Prop where
  rows : later.db.matchRows = server.db.matchRows
  next : later.db.nextMatchId = server.db.nextMatchId
  journal : later.journal = server.journal

structure Idles (server later : Server) : Prop extends SameMatches server later where
  players : later.players = server.players

section Effects

variable {lib : Externals} {server : Server} {call : Invocation} {first matchId : MatchId}
  {userId : UserId}

theorem playsIn_congr {later : Server} (rows : later.db.matchRows = server.db.matchRows)
    (journal : later.journal = server.journal) :
    PlaysIn first later userId matchId ↔ PlaysIn first server userId matchId := by
  rw [PlaysIn, PlaysIn, rows, endings, endings, effectsOf, effectsOf, journal]

theorem available_congr {later : Server} (players : later.players[userId]? = server.players[userId]?) :
    later.Available userId ↔ server.Available userId := by
  rw [Available, Available, isPlayerOnline, isPlayerOnline, getPlayerStatus, getPlayerStatus, players]

theorem free_congr {later : Server} (players : later.players[userId]? = server.players[userId]?)
    (rows : later.db.matchRows = server.db.matchRows) (journal : later.journal = server.journal) :
    Free first later userId ↔ Free first server userId := by
  simp only [Free, available_congr players, playsIn_congr rows journal]

theorem available_iff : server.Available userId ↔
    ∃ data, server.players[userId]? = some data ∧ data.status = .available := by
  rw [Available, isPlayerOnline, getPlayerStatus]
  cases server.players[userId]? with
  | none => simp
  | some data => simp

theorem addPlayer_available (env : Env) (conn : ConnId) (added : UserId)
    (username displayName : Text) (eloRating : Int) :
    (server.addPlayer env conn added username displayName eloRating).Available userId ↔
      added = userId ∨ server.Available userId := by
  rw [available_iff, available_iff]
  simp only [addPlayer, broadcastPlayerStatusUpdate, Table.lookup_insert]
  by_cases same : added = userId <;> simp [same]

theorem removePlayer_available (env : Env) (removed : UserId) :
    (server.removePlayer env removed).Available userId ↔
      removed ≠ userId ∧ server.Available userId := by
  rw [available_iff, available_iff]
  simp only [removePlayer, broadcastIf, Table.lookup_erase]
  by_cases same : removed = userId <;> simp [same]

theorem updatePlayerStatus_available (env : Env) (updated : UserId) (status : PlayerStatus) :
    (server.updatePlayerStatus env updated status).Available userId ↔
      if updated = userId then server.isPlayerOnline userId = true ∧ status = .available
      else server.Available userId := by
  rw [available_iff, available_iff]
  simp only [updatePlayerStatus, broadcastIf, isPlayerOnline, Table.lookup_modify]
  by_cases same : updated = userId
  · cases server.players[userId]? <;> simp [same]
  · simp [same]

theorem sendChallenge_idles (server : Server) (env : Env) (challengerId : UserId) (request : ChallengeRequest) :
    Idles server (server.sendChallenge env challengerId request) := by
  unfold sendChallenge
  split <;> exact ⟨⟨rfl, rfl, rfl⟩, rfl⟩

theorem checkExpiredChallenges_eq (server : Server) (env : Env) : ∃ net, server.checkExpiredChallenges env =
    { server with manager := (server.manager.expireChallenges env.now).1, net := net } := by
  refine List.foldlRecOn (motive := fun later => ∃ net, later =
    { server with manager := (server.manager.expireChallenges env.now).1, net := net }) _ _
    ⟨server.net, rfl⟩ ?_
  rintro later ⟨net, rfl⟩ challenge _
  exact ⟨_, rfl⟩

theorem checkExpiredChallenges_idles (server : Server) (env : Env) :
    Idles server (server.checkExpiredChallenges env) := by
  obtain ⟨net, shape⟩ := server.checkExpiredChallenges_eq env
  rw [shape]
  exact ⟨⟨rfl, rfl, rfl⟩, rfl⟩

theorem acceptChallenge_pairs (env : Env) (good : server.db.WellFormed)
    {challenge : PendingChallenge} (challenger : server.db.HasUser challenge.challengerId)
    (target : server.db.HasUser challenge.targetId) :
    Pairs server env challenge (server.acceptChallenge env challenge) := by
  have known : ¬((server.db.users[challenge.challengerId]?).isNone ||
      (server.db.users[challenge.targetId]?).isNone) = true := by
    simp only [Database.HasUser] at challenger target
    simp only [Option.isNone_iff_eq_none, Bool.or_eq_true, not_or, ← Option.isSome_iff_ne_none]
    exact ⟨challenger, target⟩
  have created : server.db.createMatch env.now challenge.challengerId challenge.targetId =
      ({ server.db with
          matchRows := server.db.matchRows.insert server.db.nextMatchId (pairedRow env challenge)
          nextMatchId := server.db.nextMatchId + 1 }, server.db.nextMatchId) := if_neg known
  unfold acceptChallenge
  simp only [created, good.nextMatch, if_true]
  refine ⟨rfl, rfl, rfl, ?_⟩
  intro userId other
  obtain ⟨notChallenger, notTarget⟩ := not_or.mp other
  simp only [announceMatch, updatePlayerStatus, broadcastIf, tellPlayer, Table.lookup_modify,
    if_neg notChallenger, if_neg notTarget]

theorem acceptChallenge_idles (env : Env) {challenge : PendingChallenge}
    (unknown : ¬(server.db.HasUser challenge.challengerId ∧ server.db.HasUser challenge.targetId)) :
    Idles server (server.acceptChallenge env challenge) := by
  have missing : ((server.db.users[challenge.challengerId]?).isNone ||
      (server.db.users[challenge.targetId]?).isNone) = true := by
    simp only [Database.HasUser, Option.isSome_iff_ne_none] at unknown
    simp only [Option.isNone_iff_eq_none, Bool.or_eq_true]
    tauto
  have refused : server.db.createMatch env.now challenge.challengerId challenge.targetId =
      (server.db, 0) := if_pos missing
  unfold acceptChallenge
  simp only [refused, gt_iff_lt, lt_irrefl, if_false]
  exact ⟨⟨rfl, rfl, rfl⟩, rfl⟩

theorem respondToChallenge_pairs (good : server.WellFormed) {responderId : UserId}
    {response : ChallengeResponse} {challenge : PendingChallenge}
    (operation : call.operation = .respondToChallenge responderId response)
    (accepts : server.Accepts call challenge) :
    Pairs server call.env challenge
      (server.respondToChallenge call.env responderId response) := by
  obtain ⟨given, same, accepted, pending, challenger, target⟩ := accepts
  obtain ⟨rfl, rfl⟩ := Operation.respondToChallenge.inj (operation.symm.trans same)
  have taken := ChallengeManager.takeChallenge_of_pending pending
  simp only [respondToChallenge, taken, accepted, if_true]
  let server' : Server := { server with
    manager := { server.manager with
      challenges := server.manager.challenges.erase response.challengeId } }
  have pairs : Pairs server' call.env challenge (server'.acceptChallenge call.env challenge) :=
    acceptChallenge_pairs call.env (show server'.db.WellFormed from good.db) challenger target
  exact ⟨pairs.rows, pairs.next, pairs.journal, pairs.players⟩

theorem Accepts.pairs (good : server.WellFormed) {challenge : PendingChallenge}
    (accepts : server.Accepts call challenge) :
    Pairs server call.env challenge (server.perform lib call) := by
  obtain ⟨response, operation, rest⟩ := accepts
  have pairs := respondToChallenge_pairs good operation ⟨response, operation, rest⟩
  simpa only [perform, operation] using pairs

theorem respondToChallenge_idles (env : Env) (responderId : UserId) (response : ChallengeResponse)
    (operation : call.operation = .respondToChallenge responderId response)
    (none : ∀ challenge, ¬server.Accepts call challenge) :
    Idles server (server.respondToChallenge env responderId response) := by
  unfold respondToChallenge
  dsimp only
  split
  · exact ⟨⟨rfl, rfl, rfl⟩, rfl⟩
  · exact ⟨⟨rfl, rfl, rfl⟩, rfl⟩
  next challenge taken =>
    obtain ⟨pending, rfl⟩ := ChallengeManager.takeChallenge_taken taken
    split
    next accepted =>
      let server' : Server := { server with
        manager := (server.manager.takeChallenge challenge.targetId response.challengeId).1 }
      have idles : Idles server' (server'.acceptChallenge env challenge) :=
        acceptChallenge_idles env fun known => none challenge
          ⟨response, operation, accepted, pending, known.1, known.2⟩
      exact ⟨⟨idles.rows, idles.next, idles.journal⟩, idles.players⟩
    · exact ⟨⟨rfl, rfl, rfl⟩, rfl⟩

theorem Accepts.unique {challenge other : PendingChallenge}
    (accepts : server.Accepts call challenge) (again : server.Accepts call other) :
    other = challenge := by
  obtain ⟨response, operation, _, pending, _⟩ := accepts
  obtain ⟨response', operation', _, pending', _⟩ := again
  obtain ⟨_, rfl⟩ := Operation.respondToChallenge.inj (operation.symm.trans operation')
  exact Option.some.inj (pending'.symm.trans pending)

theorem Idles.free_iff {later : Server} (idles : Idles server later) :
    Free first later userId ↔ Free first server userId :=
  free_congr (by rw [idles.players]) idles.rows idles.journal

structure Steady (first : MatchId) (server : Server) : Prop where
  good : server.WellFormed
  recorded : ∀ matchId, server.endings matchId ≠ [] →
    (server.db.matchRows[matchId]?).isSome = true
  next : first ≤ server.db.nextMatchId

theorem Steady.unused (steady : Steady first server) :
    server.db.matchRows[server.db.nextMatchId]? = none := by
  rw [Option.eq_none_iff_forall_ne_some]
  exact fun row found => lt_irrefl _ (steady.good.db.matchIds _ row found).2

theorem Pairs.playsIn_iff {later : Server} {env : Env} {challenge : PendingChallenge}
    (steady : Steady first server) (pairs : Pairs server env challenge later) :
    PlaysIn first later userId matchId ↔ PlaysIn first server userId matchId ∨
      matchId = server.db.nextMatchId ∧
        (challenge.challengerId = userId ∨ challenge.targetId = userId) := by
  have endings : later.endings matchId = server.endings matchId := by
    rw [Server.endings, Server.endings, effectsOf, effectsOf, pairs.journal]
  have unended : server.endings server.db.nextMatchId = [] := by
    by_contra ended
    simpa [steady.unused] using steady.recorded _ ended
  rw [PlaysIn, PlaysIn, endings, pairs.rows, Table.lookup_insert]
  by_cases new : server.db.nextMatchId = matchId
  · subst new
    simp [steady.unused, steady.next, unended, pairedRow, Match.Seats]
  · simp [new, Ne.symm new]

theorem Pairs.not_free {later : Server} {env : Env} {challenge : PendingChallenge}
    (steady : Steady first server) (pairs : Pairs server env challenge later)
    (paired : challenge.challengerId = userId ∨ challenge.targetId = userId) :
    ¬Free first later userId := by
  intro free
  exact free.2 server.db.nextMatchId ((pairs.playsIn_iff steady).mpr (Or.inr ⟨rfl, paired⟩))

theorem Pairs.free_iff {later : Server} {env : Env} {challenge : PendingChallenge}
    (steady : Steady first server) (pairs : Pairs server env challenge later)
    (other : ¬(challenge.challengerId = userId ∨ challenge.targetId = userId)) :
    Free first later userId ↔ Free first server userId := by
  simp only [Free, available_congr (pairs.players userId other), pairs.playsIn_iff steady, other,
    and_false, or_false]

theorem playsIn_of_ending {later : Server} {ended : MatchId} {added : List MatchEffect}
    (rows : later.db.matchRows = server.db.matchRows)
    (journal : later.journal = server.journal ++ added)
    (only : ∀ effect ∈ added, effect.matchId = ended)
    (ending : added.filterMap MatchEffect.ending? ≠ []) :
    PlaysIn first later userId matchId ↔
      PlaysIn first server userId matchId ∧ matchId ≠ ended := by
  rw [PlaysIn, PlaysIn, rows]
  by_cases same : matchId = ended
  · subst same
    rw [endings_of_added journal only]
    simp [ending]
  · have other : ∀ effect ∈ added, effect.matchId ≠ matchId := by
      intro effect member equal
      exact same (equal.symm.trans (only effect member))
    rw [endings, endings, effectsOf_of_other journal other]
    simp [same]

theorem respondToChallenge_free_iff (steady : Steady first server) (env : Env)
    (responderId : UserId) (response : ChallengeResponse) :
    Free first (server.respondToChallenge env responderId response) userId ↔
      Free first server userId ∧
        ¬server.Occupies userId ⟨env, .respondToChallenge responderId response⟩ := by
  by_cases accepting : ∃ challenge, server.Accepts ⟨env, .respondToChallenge responderId response⟩
      challenge
  · obtain ⟨challenge, accepts⟩ := accepting
    have pairs : Pairs server env challenge (server.respondToChallenge env responderId response) :=
      respondToChallenge_pairs steady.good rfl accepts
    by_cases paired : challenge.challengerId = userId ∨ challenge.targetId = userId
    · refine iff_of_false (pairs.not_free steady paired) ?_
      exact fun free => free.2 ⟨challenge, accepts, paired⟩
    · refine (pairs.free_iff steady paired).trans (and_iff_left ?_).symm
      rintro ⟨other, again, seat⟩
      obtain rfl := accepts.unique again
      exact paired seat
  · have idles : Idles server (server.respondToChallenge env responderId response) :=
      respondToChallenge_idles env responderId response rfl fun challenge accepts =>
        accepting ⟨challenge, accepts⟩
    refine idles.free_iff.trans (and_iff_left ?_).symm
    rintro ⟨challenge, accepts, _⟩
    exact accepting ⟨challenge, accepts⟩

theorem sendMatchEnd_free_iff (env : Env) (ended player1Id player2Id winnerId : UserId)
    (reason : MatchEndReason) (reasonText : String) (totalMoves : Int) (duration : Nat) :
    Free first (server.sendMatchEnd lib env ended player1Id player2Id winnerId reason reasonText
      totalMoves duration) userId ↔
      server.Available userId ∧ ∀ matchId, PlaysIn first server userId matchId → matchId = ended := by
  let later := server.sendMatchEnd lib env ended player1Id player2Id winnerId reason reasonText
    totalMoves duration
  have available : later.Available userId ↔ server.Available userId := available_congr rfl
  have plays (matchId : MatchId) : PlaysIn first later userId matchId ↔
      PlaysIn first server userId matchId ∧ matchId ≠ ended :=
    playsIn_of_ending rfl (sendMatchEnd_journal ..) (by simp [MatchEffect.matchId])
      (by simp [MatchEffect.ending?])
  show Free first later userId ↔ _
  simp only [Free, available, plays, not_and, not_not]

variable (lib) in
/-- A call leaves the user free exactly if it frees the user, or the user was
free and is not occupied by it. -/
theorem perform_free_iff (steady : Steady first server) (call : Invocation) :
    Free first (server.perform lib call) userId ↔
      server.Frees first userId call ∨ Free first server userId ∧ ¬server.Occupies userId call := by
  obtain ⟨env, operation⟩ := call
  cases operation with
  | addPlayer conn added username displayName eloRating =>
      have same (matchId : MatchId) : PlaysIn first
          (server.addPlayer env conn added username displayName eloRating) userId matchId ↔
          PlaysIn first server userId matchId := playsIn_congr rfl rfl
      simp only [perform, Frees, Occupies, Free, addPlayer_available, same, not_false_eq_true,
        and_true]
      tauto
  | removePlayer removed =>
      have same (matchId : MatchId) : PlaysIn first (server.removePlayer env removed) userId
          matchId ↔ PlaysIn first server userId matchId := playsIn_congr rfl rfl
      simp only [perform, Frees, Occupies, Free, removePlayer_available, same, false_or]
      tauto
  | updatePlayerStatus updated status =>
      have same (matchId : MatchId) : PlaysIn first
          (server.updatePlayerStatus env updated status) userId matchId ↔
          PlaysIn first server userId matchId := playsIn_congr rfl rfl
      simp only [perform, Frees, Occupies, Free, updatePlayerStatus_available, same]
      by_cases chosen : updated = userId
      · simp only [chosen, if_true, true_and, Available]
        tauto
      · simp only [chosen, if_false, false_and, false_or, not_false_eq_true, and_true]
  | sendChallenge challengerId request =>
      have idles := server.sendChallenge_idles env challengerId request
      simp only [perform, Frees, Occupies, idles.free_iff, false_or, not_false_eq_true, and_true]
  | respondToChallenge responderId response =>
      simp only [perform, Frees, false_or]
      exact respondToChallenge_free_iff steady env responderId response
  | cancelChallenge challengeId =>
      have idles : Idles server (server.cancelChallenge challengeId) := ⟨⟨rfl, rfl, rfl⟩, rfl⟩
      simp only [perform, Frees, Occupies, idles.free_iff, false_or, not_false_eq_true, and_true]
  | checkExpiredChallenges =>
      have idles := server.checkExpiredChallenges_idles env
      simp only [perform, Frees, Occupies, idles.free_iff, false_or, not_false_eq_true, and_true]
  | removePlayerChallenges removed =>
      have idles : Idles server (server.removePlayerChallenges removed) := ⟨⟨rfl, rfl, rfl⟩, rfl⟩
      simp only [perform, Frees, Occupies, idles.free_iff, false_or, not_false_eq_true, and_true]
  | sendMatchEnd ended winnerId reason reasonText totalMoves duration =>
      simp only [perform, Frees, Occupies, not_false_eq_true, and_true]
      split
      next missing =>
        refine ⟨Or.inr, ?_⟩
        rintro (⟨available, only⟩ | free)
        · refine ⟨available, ?_⟩
          intro matchId plays
          obtain ⟨_, _, row, found, _⟩ := only matchId plays ▸ plays
          simp [missing] at found
        · exact free
      next row found =>
        rw [sendMatchEnd_free_iff]
        refine ⟨Or.inl, ?_⟩
        rintro (only | ⟨online, none⟩)
        · exact only
        · exact ⟨online, fun matchId plays => absurd plays (none matchId)⟩

theorem perform_rows (none : ∀ challenge, ¬server.Accepts call challenge) :
    (server.perform lib call).db.matchRows = server.db.matchRows := by
  obtain ⟨env, operation⟩ := call
  cases operation with
  | sendChallenge challengerId request => exact (server.sendChallenge_idles env challengerId request).rows
  | respondToChallenge responderId response =>
      exact (respondToChallenge_idles env responderId response rfl none).rows
  | checkExpiredChallenges => exact (server.checkExpiredChallenges_idles env).rows
  | sendMatchEnd ended winnerId reason reasonText totalMoves duration =>
      simp only [perform]
      split <;> rfl
  | addPlayer | removePlayer | updatePlayerStatus | cancelChallenge | removePlayerChallenges => rfl

theorem WellFormed.of_narrows (good : server.WellFormed) {manager : ChallengeManager}
    (narrows : server.manager.Narrows manager) (net : Network) :
    WellFormed { server with manager := manager, net := net } :=
  ⟨good.db, good.games, fun challengeId challenge found =>
    good.challenges challengeId challenge (narrows challengeId challenge found)⟩

variable (lib) in
theorem perform_wellFormed (good : server.WellFormed) (call : Invocation) :
    (server.perform lib call).WellFormed := by
  obtain ⟨env, operation⟩ := call
  have kept := KeepsMatches.refl server
  cases operation with
  | addPlayer conn userId username displayName eloRating =>
      exact good.of_keepsMatches (kept.addPlayer env ..) rfl
  | removePlayer userId => exact good.of_keepsMatches (kept.removePlayer env userId) rfl
  | updatePlayerStatus userId status =>
      exact good.of_keepsMatches (kept.updatePlayerStatus env userId status) rfl
  | sendChallenge challengerId request => exact sendChallenge_wellFormed env good challengerId request
  | respondToChallenge responderId response =>
      exact respondToChallenge_wellFormed env good responderId response
  | cancelChallenge challengeId =>
      exact good.of_narrows (server.manager.cancelChallenge_narrows challengeId) server.net
  | checkExpiredChallenges =>
      obtain ⟨net, shape⟩ := server.checkExpiredChallenges_eq env
      simp only [perform, shape]
      exact good.of_narrows (server.manager.expireChallenges_narrows env.now) net
  | removePlayerChallenges userId =>
      exact good.of_narrows (server.manager.removePlayerChallenges_narrows userId) server.net
  | sendMatchEnd ended winnerId reason reasonText totalMoves duration =>
      simp only [perform]
      split
      · exact good
      next row _ =>
        obtain ⟨db, grows⟩ := (sendMatchEnd_db lib env ended server row.player1Id row.player2Id
          winnerId reason reasonText totalMoves duration).keeps good.db
        exact ⟨db, good.games.grows good.db grows, good.challenges⟩

theorem Steady.of_sameMatches {later : Server} (steady : Steady first server)
    (good : later.WellFormed) (same : SameMatches server later) : Steady first later where
  good := good
  recorded := by
    intro matchId ended
    rw [same.rows]
    exact steady.recorded matchId (by rwa [endings, effectsOf, same.journal] at ended)
  next := same.next ▸ steady.next

variable (lib) in
theorem perform_steady (steady : Steady first server) (call : Invocation) :
    Steady first (server.perform lib call) := by
  have good := perform_wellFormed lib steady.good call
  by_cases accepting : ∃ challenge, server.Accepts call challenge
  · obtain ⟨challenge, accepts⟩ := accepting
    have pairs : Pairs server call.env challenge (server.perform lib call) :=
      accepts.pairs steady.good
    refine ⟨good, ?_, pairs.next ▸ steady.next.trans (Nat.le_succ _)⟩
    intro matchId ended
    rw [endings, effectsOf, pairs.journal] at ended
    rw [pairs.rows, Table.lookup_insert]
    split
    · rfl
    · exact steady.recorded matchId ended
  have none (challenge : PendingChallenge) : ¬server.Accepts call challenge :=
    fun accepts => accepting ⟨challenge, accepts⟩
  obtain ⟨env, operation⟩ := call
  cases operation with
  | sendChallenge challengerId request =>
      exact steady.of_sameMatches good (server.sendChallenge_idles env challengerId request).toSameMatches
  | respondToChallenge responderId response =>
      exact steady.of_sameMatches good
        (respondToChallenge_idles env responderId response rfl none).toSameMatches
  | checkExpiredChallenges =>
      exact steady.of_sameMatches good (server.checkExpiredChallenges_idles env).toSameMatches
  | sendMatchEnd ended winnerId reason reasonText totalMoves duration =>
      simp only [perform] at good ⊢
      split at good
      · exact steady
      next row found =>
        refine ⟨good, ?_, steady.next⟩
        intro matchId recorded
        by_cases same : ended = matchId
        · subst same
          exact Option.isSome_of_eq_some found
        · have journal := sendMatchEnd_journal lib env ended server row.player1Id row.player2Id
            winnerId reason reasonText totalMoves duration
          rw [endings, effectsOf_of_other journal (by simp [MatchEffect.matchId, same])] at recorded
          exact steady.recorded matchId recorded
  | addPlayer | removePlayer | updatePlayerStatus | cancelChallenge | removePlayerChallenges =>
      exact steady.of_sameMatches good ⟨rfl, rfl, rfl⟩

end Effects

section Runs

variable (lib : Externals) {db : Database}

theorem openedOn_steady (good : db.WellFormed) : Steady db.nextMatchId (openedOn db) where
  good := ⟨good, gamesHold_none db, by simp [openedOn, init]⟩
  recorded := by simp [openedOn, init, endings, effectsOf]
  next := le_rfl

theorem performed_steady (good : db.WellFormed) (calls : List Invocation) :
    Steady db.nextMatchId (performed lib db calls) :=
  Machine.invariant (perform lib) (openedOn_steady good)
    (fun _ call steady => perform_steady lib steady call) calls

theorem performed_concat (calls : List Invocation) (call : Invocation) :
    performed lib db (calls ++ [call]) = (performed lib db calls).perform lib call := by
  simp [performed]

theorem since_iff_free (good : db.WellFormed) (userId : UserId) (calls : List Invocation) :
    Machine.Since (perform lib) (Frees db.nextMatchId userId)
      (fun server call => ¬server.Occupies userId call) (openedOn db) calls ↔
      Free db.nextMatchId (performed lib db calls) userId := by
  have never : ¬Free db.nextMatchId (openedOn db) userId := by
    intro free
    obtain ⟨data, known, _⟩ := available_iff.mp free.1
    simp [openedOn, init] at known
  refine Machine.since_iff_holds (perform lib) (motive := fun server =>
    Free db.nextMatchId server userId) (openedOn_steady good) ?_ never ?_
  · exact fun server call steady => perform_steady lib steady call
  · exact fun server call _ steady => perform_free_iff lib steady call

/-- Matches are created for free users only, exactly when challenges are
accepted only while both users are still or again free. -/
theorem pairsFreeUsers_iff (good : db.WellFormed) (calls : List Invocation) :
    PairsFreeUsers lib db calls ↔ AcceptedWhileFree lib db calls := by
  constructor
  · intro paired before call taken challenge accepts userId seat
    have steady := performed_steady lib good before
    have pairs : Pairs (performed lib db before) call.env challenge
        ((performed lib db before).perform lib call) := accepts.pairs steady.good
    rw [since_iff_free lib good]
    refine paired before call taken (performed lib db before).db.nextMatchId
      (pairedRow call.env challenge) steady.unused ?_ userId seat
    rw [pairs.rows, Table.lookup_insert, if_pos rfl]
  · intro accepted before call taken matchId row absent created userId seat
    have steady := performed_steady lib good before
    by_cases accepting : ∃ challenge, (performed lib db before).Accepts call challenge
    · obtain ⟨challenge, accepts⟩ := accepting
      have pairs : Pairs (performed lib db before) call.env challenge
          ((performed lib db before).perform lib call) := accepts.pairs steady.good
      rw [pairs.rows, Table.lookup_insert] at created
      split at created
      · obtain rfl := Option.some.inj created
        exact (since_iff_free lib good userId before).mp
          (accepted before call taken challenge accepts userId seat)
      · simp [absent] at created
    · rw [perform_rows fun challenge accepts => accepting ⟨challenge, accepts⟩, absent] at created
      simp at created

end Runs

end Server

namespace Script

open Server

def logsIn (userId : UserId) (name : String) : Invocation :=
  ⟨env 1, .addPlayer (userId - 1) userId name.toList name.toList 1000⟩

def bothAccept : List Invocation := [
  logsIn alice "alice", logsIn bob "bob", logsIn carol "carol",
  ⟨env 2, .sendChallenge alice ⟨bob, 60, false⟩⟩, ⟨env 2, .sendChallenge alice ⟨carol, 60, false⟩⟩,
  ⟨env 3, .respondToChallenge bob ⟨1, true⟩⟩]

def carolAccepts : Invocation := ⟨env 4, .respondToChallenge carol ⟨2, true⟩⟩

theorem lobby_wellFormed : (after lib lobby).db.WellFormed := (after_wellFormed lib lobby).db

theorem bothAccept_pairsFreeUsers_iff :
    PairsFreeUsers lib (after lib lobby).db (bothAccept ++ [carolAccepts]) ↔
      AcceptedWhileFree lib (after lib lobby).db (bothAccept ++ [carolAccepts]) :=
  pairsFreeUsers_iff lib lobby_wellFormed (bothAccept ++ [carolAccepts])

/-- Alice is put into a second match while she plays the first one. -/
theorem bothAccept_pairs_twice :
    ¬PairsFreeUsers lib (after lib lobby).db (bothAccept ++ [carolAccepts]) := by
  intro paired
  have absent : (performed lib (after lib lobby).db bothAccept).db.matchRows[2]? = none := by
    decide +kernel
  have created : ((performed lib (after lib lobby).db bothAccept).perform lib
      carolAccepts).db.matchRows[2]? = some ⟨alice, carol, 0, .waiting, start + 4, 0⟩ := by
    decide +kernel
  have free := paired bothAccept carolAccepts (Machine.stepOf_last bothAccept carolAccepts) 2 _
    absent created alice (Or.inl rfl)
  have playing : (performed lib (after lib lobby).db bothAccept).getPlayerStatus alice = .inGame := by
    decide +kernel
  have available := free.1.2
  rw [playing] at available
  cases available

end Script

end Battleship
