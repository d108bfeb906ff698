import Battleship.Database
import Mathlib.Logic.Function.Basic

/-! What the statements of the server keep true of the tables: ids are positive
and used once, references are to existing rows, rows are never lost. -/

namespace Battleship

open Decimal (Text)

namespace Match

def Seats (row : Match) (userId : UserId) : Prop := row.player1Id = userId ∨ row.player2Id = userId

instance (row : Match) (userId : UserId) : Decidable (row.Seats userId) :=
  inferInstanceAs (Decidable (_ ∨ _))

def other (row : Match) (userId : UserId) : UserId :=
  if userId = row.player1Id then row.player2Id else row.player1Id

theorem other_ne {row : Match} (distinct : row.player1Id ≠ row.player2Id) (userId : UserId) :
    row.other userId ≠ userId := by
  unfold other
  split
  next same => exact fun equal => distinct (same.symm.trans equal.symm)
  next different => exact fun equal => different equal.symm

end Match

namespace Database

def HasUser (db : Database) (userId : UserId) : Prop := (db.users[userId]?).isSome = true

instance (db : Database) (userId : UserId) : Decidable (db.HasUser userId) :=
  inferInstanceAs (Decidable (_ = true))

structure WellFormed (db : Database) : Prop where
  users : ∀ userId, db.HasUser userId → 0 < userId ∧ userId < db.nextUserId
  nextUser : 0 < db.nextUserId
  sessions : ∀ session ∈ db.sessions, db.HasUser session.userId
  matchIds : ∀ (matchId : MatchId) (row : Match), db.matchRows[matchId]? = some row →
    0 < matchId ∧ matchId < db.nextMatchId
  nextMatch : 0 < db.nextMatchId
  players : ∀ (matchId : MatchId) (row : Match), db.matchRows[matchId]? = some row →
    row.player1Id ≠ row.player2Id ∧ db.HasUser row.player1Id ∧ db.HasUser row.player2Id

structure Grows (db later : Database) : Prop where
  users : ∀ (userId : UserId) (user : User), db.users[userId]? = some user →
    ∃ user' : User, later.users[userId]? = some user' ∧ user'.username = user.username
  matchRows : ∀ (matchId : MatchId) (row : Match), db.matchRows[matchId]? = some row →
    ∃ row' : Match, later.matchRows[matchId]? = some row' ∧ row'.player1Id = row.player1Id ∧
      row'.player2Id = row.player2Id
  boards : ∃ saved, later.matchBoards = db.matchBoards ++ saved

theorem Grows.refl (db : Database) : db.Grows db :=
  ⟨fun _ user known => ⟨user, known, rfl⟩, fun _ row found => ⟨row, found, rfl, rfl⟩, ⟨[], by simp⟩⟩

theorem Grows.trans {first second third : Database} (early : first.Grows second)
    (late : second.Grows third) : first.Grows third := by
  refine ⟨?_, ?_, ?_⟩
  · intro userId user known
    obtain ⟨middle, knownMiddle, same⟩ := early.users userId user known
    obtain ⟨last, knownLast, same'⟩ := late.users userId middle knownMiddle
    exact ⟨last, knownLast, same'.trans same⟩
  · intro matchId row found
    obtain ⟨middle, foundMiddle, player1, player2⟩ := early.matchRows matchId row found
    obtain ⟨last, foundLast, same1, same2⟩ := late.matchRows matchId middle foundMiddle
    exact ⟨last, foundLast, same1.trans player1, same2.trans player2⟩
  · obtain ⟨saved1, split1⟩ := early.boards
    obtain ⟨saved2, split2⟩ := late.boards
    exact ⟨saved1 ++ saved2, by rw [split2, split1, List.append_assoc]⟩

structure Sound (db later : Database) : Prop where
  keeps : db.WellFormed → later.WellFormed ∧ db.Grows later

theorem Sound.refl (db : Database) : db.Sound db := ⟨fun good => ⟨good, Grows.refl db⟩⟩

theorem Sound.trans {first second third : Database} (early : first.Sound second)
    (late : second.Sound third) : first.Sound third := by
  refine ⟨fun good => ?_⟩
  obtain ⟨middle, grows1⟩ := early.keeps good
  obtain ⟨last, grows2⟩ := late.keeps middle
  exact ⟨last, grows1.trans grows2⟩

theorem wellFormed_initializeSchema : initializeSchema.WellFormed := by
  constructor <;> simp [initializeSchema, HasUser]

section Statements

variable {db : Database}

theorem hasUser_modify (userId other : UserId) (change : User → User) :
    { db with users := db.users.modify userId change }.HasUser other ↔ db.HasUser other := by
  simp only [HasUser, Table.lookup_modify]
  split <;> simp

theorem sound_modifyUser (userId : UserId) {change : User → User}
    (renames : ∀ user, (change user).username = user.username) :
    db.Sound { db with users := db.users.modify userId change } := by
  refine ⟨fun good => ?_⟩
  refine ⟨⟨fun other known => good.users other ((hasUser_modify ..).mp known), good.nextUser, ?_,
    good.matchIds, good.nextMatch, ?_⟩, ⟨?_,
    fun _ row found => ⟨row, found, rfl, rfl⟩, ⟨[], by simp⟩⟩⟩
  · exact fun session member => (hasUser_modify ..).mpr (good.sessions session member)
  · intro matchId row found
    obtain ⟨distinct, known1, known2⟩ := good.players matchId row found
    exact ⟨distinct, (hasUser_modify ..).mpr known1, (hasUser_modify ..).mpr known2⟩
  · intro other user known
    simp only [Table.lookup_modify, known]
    split
    · exact ⟨change user, rfl, renames user⟩
    · exact ⟨user, rfl, rfl⟩

theorem sound_updateLastLogin (now : Nat) (userId : UserId) :
    db.Sound (db.updateLastLogin now userId) := sound_modifyUser userId fun _ => rfl

theorem sound_updateEloRating (userId : UserId) (newElo : Int) :
    db.Sound (db.updateEloRating userId newElo) := sound_modifyUser userId fun _ => rfl

theorem hasUser_insert (userId other : UserId) (user : User) (nextUserId : UserId) :
    { db with users := db.users.insert userId user, nextUserId := nextUserId }.HasUser other ↔
      other = userId ∨ db.HasUser other := by
  simp only [HasUser, Table.lookup_insert]
  by_cases same : userId = other
  · simp [same]
  · simp [same, Ne.symm same]

theorem sound_createUser (now : Nat) (username passwordHash displayName : Text) :
    db.Sound (db.createUser now username passwordHash displayName).1 := by
  unfold createUser
  split
  · exact Sound.refl db
  refine ⟨fun good => ?_⟩
  refine ⟨⟨?_, Nat.succ_pos _, ?_, good.matchIds, good.nextMatch, ?_⟩,
    ⟨?_, fun _ row found => ⟨row, found, rfl, rfl⟩, ⟨[], by simp⟩⟩⟩
  · intro other known
    have positive := good.nextUser
    rcases (hasUser_insert ..).mp known with rfl | old
    · exact ⟨positive, Nat.lt_succ_self _⟩
    · have bounds := good.users other old
      exact ⟨bounds.1, Nat.lt_succ_of_lt bounds.2⟩
  · exact fun session member => (hasUser_insert ..).mpr (Or.inr (good.sessions session member))
  · intro matchId row found
    obtain ⟨distinct, known1, known2⟩ := good.players matchId row found
    exact ⟨distinct, (hasUser_insert ..).mpr (Or.inr known1),
      (hasUser_insert ..).mpr (Or.inr known2)⟩
  · intro other user known
    have old := (good.users other (by rw [HasUser, known]; rfl)).2
    exact ⟨user, (Table.lookup_insert_ne _ _ (Nat.ne_of_gt old)).trans known, rfl⟩

theorem sound_sessions (sessions : List Session) (nextSessionId : Nat)
    (referenced : ∀ session ∈ sessions, session ∈ db.sessions ∨ db.HasUser session.userId) :
    db.Sound { db with sessions := sessions, nextSessionId := nextSessionId } := by
  refine ⟨fun good => ?_⟩
  refine ⟨⟨good.users, good.nextUser, ?_, good.matchIds, good.nextMatch, good.players⟩,
    ⟨fun _ user known => ⟨user, known, rfl⟩, fun _ row found => ⟨row, found, rfl, rfl⟩, ⟨[], by simp⟩⟩⟩
  intro session member
  rcases referenced session member with old | known
  · exact good.sessions session old
  · exact known

theorem sound_createSession (now : Nat) (userId : UserId) (token : Text) (durationHours : Int) :
    db.Sound (db.createSession now userId token durationHours).1 := by
  unfold createSession
  split
  · exact Sound.refl db
  next free =>
    apply sound_sessions
    intro session member
    simp only [Bool.or_eq_true, not_or, Option.isNone_iff_eq_none] at free
    rcases List.mem_append.mp member with old | new
    · exact Or.inl old
    · right
      rw [List.mem_singleton.mp new]
      exact Option.isSome_iff_ne_none.mpr free.2

theorem sound_deleteSession (token : Text) : db.Sound (db.deleteSession token) :=
  sound_sessions _ _ fun _ member => Or.inl (List.mem_of_mem_filter member)

theorem sound_validateSession (now : Nat) (token : Text) :
    db.Sound (db.validateSession now token).1 := by
  unfold validateSession
  split
  · exact Sound.refl db
  split
  · exact sound_deleteSession token
  · exact Sound.refl db

theorem WellFormed.validateSession_user (good : db.WellFormed) {now : Nat} {token : Text}
    (valid : (db.validateSession now token).2 ≠ 0) :
    db.HasUser (db.validateSession now token).2 := by
  unfold validateSession getSessionByToken at valid ⊢
  cases found : db.sessions.find? fun session => session.sessionToken = token with
  | none => simp [found] at valid
  | some session =>
      by_cases expired : session.isExpired now = true
      · simp [found, expired] at valid
      · simp only [expired]
        exact good.sessions session (List.mem_of_find?_eq_some found)

theorem sound_createMatch (now : Nat) {player1Id player2Id : UserId}
    (distinct : player1Id ≠ player2Id) : db.Sound (db.createMatch now player1Id player2Id).1 := by
  unfold createMatch
  split
  · exact Sound.refl db
  next known =>
    simp only [Bool.or_eq_true, not_or, Bool.not_eq_true, Option.isNone_eq_false_iff] at known
    refine ⟨fun good => ?_⟩
    have fresh : ∀ (matchId : MatchId) (row : Match), db.matchRows[matchId]? = some row →
        db.nextMatchId ≠ matchId := by
      intro matchId row found
      exact Nat.ne_of_gt (good.matchIds matchId row found).2
    refine ⟨⟨good.users, good.nextUser, good.sessions, ?_, Nat.succ_pos _, ?_⟩,
      ⟨fun _ user known => ⟨user, known, rfl⟩, ?_, ⟨[], by simp⟩⟩⟩
    · intro matchId row found
      have positive := good.nextMatch
      simp only [Table.lookup_insert] at found
      split at found
      next same => exact ⟨same ▸ positive, same ▸ Nat.lt_succ_self _⟩
      next other =>
        have bounds := good.matchIds matchId row found
        exact ⟨bounds.1, Nat.lt_succ_of_lt bounds.2⟩
    · intro matchId row found
      simp only [Table.lookup_insert] at found
      split at found
      next same =>
        simp only [Option.some.injEq] at found
        subst found
        exact ⟨distinct, known⟩
      next other => exact good.players matchId row found
    · intro matchId row found
      refine ⟨row, ?_, rfl, rfl⟩
      simp only [Table.lookup_insert, if_neg (fresh matchId row found)]
      exact found

theorem sound_endMatch (now : Nat) (matchId : MatchId) (winnerId : UserId) :
    db.Sound (db.endMatch now matchId winnerId) := by
  unfold endMatch
  split
  · exact Sound.refl db
  refine ⟨fun good => ?_⟩
  have kept : ∀ (other : MatchId) (row : Match), (db.matchRows.modify matchId fun row =>
      { row with status := .completed, winnerId := winnerId, endedAt := now })[other]? = some row →
      ∃ old : Match, db.matchRows[other]? = some old ∧ row.player1Id = old.player1Id ∧
        row.player2Id = old.player2Id := by
    intro other row found
    simp only [Table.lookup_modify] at found
    split at found
    · obtain ⟨old, known, rfl⟩ := Option.map_eq_some_iff.mp found
      exact ⟨old, known, rfl, rfl⟩
    · exact ⟨row, found, rfl, rfl⟩
  refine ⟨⟨good.users, good.nextUser, good.sessions, ?_, good.nextMatch, ?_⟩,
    ⟨fun _ user known => ⟨user, known, rfl⟩, ?_, ⟨[], by simp⟩⟩⟩
  · intro other row found
    obtain ⟨old, known, _⟩ := kept other row found
    exact good.matchIds other old known
  · intro other row found
    obtain ⟨old, known, same1, same2⟩ := kept other row found
    rw [same1, same2]
    exact good.players other old known
  · intro other row found
    simp only [Table.lookup_modify]
    split
    · rw [found]
      exact ⟨_, rfl, rfl, rfl⟩
    · exact ⟨row, found, rfl, rfl⟩

theorem sound_saveShipPlacement (matchId : MatchId) (userId : UserId) (shipData : Text) :
    db.Sound (db.saveShipPlacement matchId userId shipData).1 := by
  unfold saveShipPlacement
  split
  · exact Sound.refl db
  refine ⟨fun good => ?_⟩
  exact ⟨⟨good.users, good.nextUser, good.sessions, good.matchIds, good.nextMatch, good.players⟩,
    ⟨fun _ user known => ⟨user, known, rfl⟩, fun _ row found => ⟨row, found, rfl, rfl⟩, ⟨_, rfl⟩⟩⟩

theorem sound_saveMove (now : Nat) (matchId : MatchId) (playerId : UserId) (moveNumber x y : Int)
    (result : ShotResult) : db.Sound (db.saveMove now matchId playerId moveNumber x y result).1 := by
  unfold saveMove
  split
  · exact Sound.refl db
  refine ⟨fun good => ?_⟩
  exact ⟨⟨good.users, good.nextUser, good.sessions, good.matchIds, good.nextMatch, good.players⟩,
    ⟨fun _ user known => ⟨user, known, rfl⟩, fun _ row found => ⟨row, found, rfl, rfl⟩, ⟨[], by simp⟩⟩⟩

/-- The rating of a user; a new user starts with the one that unknown users have here. -/
def rating (db : Database) (userId : UserId) : Int := ((db.users[userId]?).map User.eloRating).getD 1000

def result (db : Database) (matchId : MatchId) : UserId × MatchStatus :=
  ((db.matchRows[matchId]?).map fun row => (row.winnerId, row.status)).getD (0, .waiting)

structure Retains (db later : Database) : Prop where
  ratings : later.rating = db.rating
  results : later.result = db.result

theorem Retains.of_same {later : Database} (users : later.users = db.users)
    (rows : later.matchRows = db.matchRows) : db.Retains later :=
  ⟨by funext userId; rw [rating, users, rating], by funext matchId; rw [result, rows, result]⟩

theorem Retains.trans {first second third : Database} (early : first.Retains second)
    (late : second.Retains third) : first.Retains third :=
  ⟨late.ratings.trans early.ratings, late.results.trans early.results⟩

structure Kept (db later : Database) : Prop extends Sound db later where
  retains : db.WellFormed → db.Retains later

theorem Kept.refl (db : Database) : db.Kept db :=
  ⟨Sound.refl db, fun _ => Retains.of_same rfl rfl⟩

theorem Kept.trans {first second third : Database} (early : first.Kept second)
    (late : second.Kept third) : first.Kept third := by
  refine ⟨early.toSound.trans late.toSound, fun good => ?_⟩
  exact (early.retains good).trans (late.retains (early.keeps good).1)

theorem kept_of_same {later : Database} (sound : db.Sound later) (users : later.users = db.users)
    (rows : later.matchRows = db.matchRows) : db.Kept later :=
  ⟨sound, fun _ => Retains.of_same users rows⟩

theorem kept_updateLastLogin (now : Nat) (userId : UserId) :
    db.Kept (db.updateLastLogin now userId) := by
  refine ⟨sound_updateLastLogin now userId, fun _ => ⟨?_, rfl⟩⟩
  funext other
  simp only [rating, updateLastLogin, Table.lookup_modify]
  split
  · rw [Option.map_map]
    rfl
  · rfl

theorem kept_createUser (now : Nat) (username passwordHash displayName : Text) :
    db.Kept (db.createUser now username passwordHash displayName).1 := by
  refine ⟨sound_createUser now username passwordHash displayName, fun good => ?_⟩
  unfold createUser
  split
  · exact Retains.of_same rfl rfl
  refine ⟨?_, rfl⟩
  funext userId
  simp only [rating, Table.lookup_insert]
  split
  next new =>
    have unknown : db.users[userId]? = none := by
      by_contra known
      have old := (good.users userId (Option.isSome_iff_ne_none.mpr known)).2
      exact absurd new (Nat.ne_of_gt old)
    rw [unknown]
    rfl
  · rfl

theorem kept_createMatch (now : Nat) {player1Id player2Id : UserId}
    (distinct : player1Id ≠ player2Id) : db.Kept (db.createMatch now player1Id player2Id).1 := by
  refine ⟨sound_createMatch now distinct, fun good => ?_⟩
  unfold createMatch
  split
  · exact Retains.of_same rfl rfl
  refine ⟨rfl, ?_⟩
  funext matchId
  simp only [result, Table.lookup_insert]
  split
  next new =>
    have unknown : db.matchRows[matchId]? = none := by
      by_contra known
      obtain ⟨row, found⟩ := Option.ne_none_iff_exists'.mp known
      exact absurd new (Nat.ne_of_gt (good.matchIds matchId row found).2)
    rw [unknown]
    rfl
  · rfl

theorem kept_createSession (now : Nat) (userId : UserId) (token : Text) (durationHours : Int) :
    db.Kept (db.createSession now userId token durationHours).1 := by
  apply kept_of_same (sound_createSession now userId token durationHours)
  all_goals
    unfold createSession
    split <;> rfl

theorem kept_deleteSession (token : Text) : db.Kept (db.deleteSession token) :=
  kept_of_same (sound_deleteSession token) rfl rfl

theorem saveShipPlacement_saved (db : Database) (matchId : MatchId) (userId : UserId)
    (shipData : Text) :
    (db.saveShipPlacement matchId userId shipData).2 = true ↔
      (db.matchRows[matchId]?).isSome = true ∧ db.HasUser userId := by
  unfold saveShipPlacement HasUser
  split
  next missing =>
    simp only [Bool.or_eq_true, Option.isNone_iff_eq_none] at missing
    rcases missing with none | none <;> simp [none]
  next known =>
    simp only [Bool.or_eq_true, not_or, Bool.not_eq_true, Option.isNone_eq_false_iff] at known
    simp [known]

theorem mem_saveShipPlacement {matchId : MatchId} {userId : UserId} {shipData : Text}
    (saved : (db.saveShipPlacement matchId userId shipData).2 = true) :
    ⟨matchId, userId, shipData⟩ ∈ (db.saveShipPlacement matchId userId shipData).1.matchBoards := by
  unfold saveShipPlacement at saved ⊢
  split
  next missing => simp [missing] at saved
  next => simp

structure Aside (db later : Database) : Prop where
  matchRows : later.matchRows = db.matchRows
  matchBoards : later.matchBoards = db.matchBoards
  matchMoves : later.matchMoves = db.matchMoves

theorem Aside.refl (db : Database) : db.Aside db := ⟨rfl, rfl, rfl⟩

theorem Aside.trans {first second third : Database} (early : first.Aside second)
    (late : second.Aside third) : first.Aside third :=
  ⟨late.matchRows.trans early.matchRows, late.matchBoards.trans early.matchBoards,
    late.matchMoves.trans early.matchMoves⟩

theorem validateSession_aside (now : Nat) (token : Text) :
    db.Aside (db.validateSession now token).1 := by
  unfold validateSession
  split
  · exact Aside.refl db
  · split <;> exact ⟨rfl, rfl, rfl⟩

theorem createUser_aside (now : Nat) (username passwordHash displayName : Text) :
    db.Aside (db.createUser now username passwordHash displayName).1 := by
  unfold createUser
  split <;> exact ⟨rfl, rfl, rfl⟩

theorem createSession_aside (now : Nat) (userId : UserId) (token : Text) (hours : Int) :
    db.Aside (db.createSession now userId token hours).1 := by
  unfold createSession
  split <;> exact ⟨rfl, rfl, rfl⟩

@[simp] theorem validateSession_matchRows (now : Nat) (token : Text) :
    (db.validateSession now token).1.matchRows = db.matchRows :=
  (validateSession_aside now token).matchRows

@[simp] theorem saveShipPlacement_matchRows (matchId : MatchId) (userId : UserId)
    (shipData : Text) : (db.saveShipPlacement matchId userId shipData).1.matchRows = db.matchRows := by
  unfold saveShipPlacement
  split <;> rfl

@[simp] theorem saveShipPlacement_users (matchId : MatchId) (userId : UserId) (shipData : Text) :
    (db.saveShipPlacement matchId userId shipData).1.users = db.users := by
  unfold saveShipPlacement
  split <;> rfl

@[simp] theorem validateSession_hasUser (now : Nat) (token : Text) (userId : UserId) :
    (db.validateSession now token).1.HasUser userId ↔ db.HasUser userId := by
  rw [HasUser, HasUser]
  unfold validateSession
  split
  · rfl
  split <;> rfl

@[simp] theorem validateSession_users (now : Nat) (token : Text) :
    (db.validateSession now token).1.users = db.users := by
  unfold validateSession
  split
  · rfl
  split <;> rfl

theorem kept_validateSession (now : Nat) (token : Text) :
    db.Kept (db.validateSession now token).1 :=
  kept_of_same (sound_validateSession now token) (validateSession_users ..)
    (validateSession_matchRows ..)

theorem kept_saveShipPlacement (matchId : MatchId) (userId : UserId) (shipData : Text) :
    db.Kept (db.saveShipPlacement matchId userId shipData).1 :=
  kept_of_same (sound_saveShipPlacement matchId userId shipData) (saveShipPlacement_users ..)
    (saveShipPlacement_matchRows ..)

theorem kept_saveMove (now : Nat) (matchId : MatchId) (playerId : UserId) (moveNumber x y : Int)
    (result : ShotResult) : db.Kept (db.saveMove now matchId playerId moveNumber x y result).1 := by
  apply kept_of_same (sound_saveMove now matchId playerId moveNumber x y result)
  all_goals
    unfold saveMove
    split <;> rfl

theorem updateEloRating_rating {userId : UserId} (known : db.HasUser userId) (newElo : Int) :
    (db.updateEloRating userId newElo).rating = Function.update db.rating userId newElo := by
  obtain ⟨user, found⟩ := Option.isSome_iff_exists.mp known
  have changed := Table.read_modify db.users (fun user => (user.map User.eloRating).getD 1000)
    userId fun user => { user with eloRating := newElo }
  rw [found] at changed
  exact changed

theorem updateEloRating_twice {first second : UserId} (known1 : db.HasUser first)
    (known2 : db.HasUser second) (elo1 elo2 : Int) :
    ((db.updateEloRating first elo1).updateEloRating second elo2).rating =
      Function.update (Function.update db.rating first elo1) second elo2 := by
  have also : (db.updateEloRating first elo1).HasUser second := (hasUser_modify ..).mpr known2
  rw [updateEloRating_rating also, updateEloRating_rating known1]

theorem endMatch_result (now : Nat) {matchId : MatchId} {winnerId : UserId} {row : Match}
    (found : db.matchRows[matchId]? = some row) (known : db.HasUser winnerId) :
    (db.endMatch now matchId winnerId).result =
      Function.update db.result matchId (winnerId, .completed) := by
  have unfailing : ¬(db.users[winnerId]?).isNone = true := by
    simpa [HasUser, Option.isSome_iff_ne_none] using known
  have changed := Table.read_modify db.matchRows
    (fun row => (row.map fun row => (row.winnerId, row.status)).getD (0, .waiting)) matchId
    fun row => { row with winnerId := winnerId, status := .completed, endedAt := now }
  rw [found] at changed
  simp only [endMatch, if_neg unfailing]
  exact changed

theorem endMatch_users (now : Nat) (matchId : MatchId) (winnerId : UserId) :
    (db.endMatch now matchId winnerId).users = db.users := by
  unfold endMatch
  split <;> rfl

theorem endMatch_rating (now : Nat) (matchId : MatchId) (winnerId : UserId) :
    (db.endMatch now matchId winnerId).rating = db.rating := by
  unfold endMatch
  split <;> rfl

theorem endMatch_unknown (now : Nat) (matchId : MatchId) {winnerId : UserId}
    (unknown : ¬db.HasUser winnerId) : db.endMatch now matchId winnerId = db := by
  unfold endMatch
  rw [if_pos]
  simpa [HasUser] using unknown

end Statements

theorem Grows.getShipPlacement {db later : Database} (grows : db.Grows later) {matchId : MatchId}
    {userId : UserId}
    (saved : ∃ row ∈ db.matchBoards, row.matchId = matchId ∧ row.userId = userId) :
    later.getShipPlacement matchId userId = db.getShipPlacement matchId userId := by
  obtain ⟨rows, split⟩ := grows.boards
  obtain ⟨row, member, same⟩ := saved
  have found : (db.matchBoards.find? fun row => row.matchId = matchId ∧ row.userId = userId).isSome := by
    rw [List.find?_isSome]
    exact ⟨row, member, by simpa using same⟩
  unfold Database.getShipPlacement
  rw [split, List.find?_append, Option.or_of_isSome found]

end Database

end Battleship
