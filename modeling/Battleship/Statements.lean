import Battleship.DatabaseFacts

/-! The statements that are made outside the authentication and the pairing of
players. The credentials stay, only expired sessions are deleted, and no match gets
a row. -/

namespace Battleship

open Decimal (Text)

/-- What the server is at when it makes a statement: it pairs players, takes a placement or
a move, or does something else. -/
inductive Duty
  | pairing | placing | moving | other
deriving DecidableEq

namespace Database

def credentials (db : Database) (userId : UserId) : Option (Text × Text) :=
  db.users[userId]?.map fun user => (user.username, user.passwordHash)

structure Leaves (now : Nat) (db later : Database) : Prop where
  credentials : later.credentials = db.credentials
  nextUser : later.nextUserId = db.nextUserId
  sessions : later.sessions.Sublist db.sessions
  live : ∀ (token : Text) (session : Session), db.getSessionByToken token = some session →
    session.isExpired now = false → later.getSessionByToken token = some session
  nextSession : later.nextSessionId = db.nextSessionId

def hasMatch (db : Database) (matchId : MatchId) : Bool := (db.matchRows[matchId]?).isSome

inductive Statement (duty : Duty) (now : Nat) (db : Database) : Database → Prop
  | validateSession (token : Text) : Statement duty now db (db.validateSession now token).1
  | updateEloRating (userId : UserId) (newElo : Int) :
      Statement duty now db (db.updateEloRating userId newElo)
  | endMatch (matchId : MatchId) (winnerId : UserId) :
      Statement duty now db (db.endMatch now matchId winnerId)
  | saveShipPlacement (places : duty = .placing) (matchId : MatchId) (userId : UserId)
      (shipData : Text) :
      Statement duty now db (db.saveShipPlacement matchId userId shipData).1
  | saveMove (moves : duty = .moving) (matchId : MatchId) (playerId : UserId)
      (moveNumber x y : Int) (result : ShotResult) :
      Statement duty now db (db.saveMove now matchId playerId moveNumber x y result).1

variable (now : Nat)

theorem Leaves.refl (db : Database) : db.Leaves now db :=
  ⟨rfl, rfl, List.Sublist.refl _, fun _ _ found _ => found, rfl⟩

theorem Leaves.trans {now : Nat} {first second third : Database} (early : first.Leaves now second)
    (late : second.Leaves now third) : first.Leaves now third :=
  ⟨late.credentials.trans early.credentials, late.nextUser.trans early.nextUser,
    late.sessions.trans early.sessions,
    fun token session found unexpired =>
      late.live token session (early.live token session found unexpired) unexpired,
    late.nextSession.trans early.nextSession⟩

section Statements

variable (db : Database)

theorem modify_leaves (userId : UserId) {change : User → User}
    (username : ∀ user, (change user).username = user.username)
    (passwordHash : ∀ user, (change user).passwordHash = user.passwordHash) :
    db.Leaves now { db with users := db.users.modify userId change } := by
  refine ⟨funext fun other => ?_, rfl, List.Sublist.refl _, fun _ _ found _ => found, rfl⟩
  simp only [Database.credentials, Table.lookup_modify]
  split
  · cases db.users[other]? <;> simp [username, passwordHash]
  · rfl

theorem updateLastLogin_leaves (userId : UserId) : db.Leaves now (db.updateLastLogin now userId) :=
  modify_leaves now db userId (fun _ => rfl) fun _ => rfl

theorem deleteSession_other {token other : Text} (different : token ≠ other) :
    (db.deleteSession token).getSessionByToken other = db.getSessionByToken other := by
  simp only [deleteSession, getSessionByToken, List.find?_filter]
  congr 1
  funext session
  by_cases same : session.sessionToken = other
  · simp [same, Ne.symm different]
  · simp [same]

theorem validateSession_leaves (token : Text) :
    db.Leaves now (db.validateSession now token).1 := by
  unfold validateSession
  split
  · exact Leaves.refl now db
  next session found =>
    split
    next expired =>
      refine ⟨rfl, rfl, List.filter_sublist, ?_, rfl⟩
      intro other kept foundOther unexpired
      rw [deleteSession_other db]
      · exact foundOther
      · rintro rfl
        obtain rfl := Option.some.inj (found.symm.trans foundOther)
        rw [unexpired] at expired
        cases expired
    · exact Leaves.refl now db

theorem leaves_of_same {later : Database} (users : later.users = db.users)
    (nextUser : later.nextUserId = db.nextUserId) (sessions : later.sessions = db.sessions)
    (nextSession : later.nextSessionId = db.nextSessionId) : db.Leaves now later := by
  refine ⟨?_, nextUser, sessions ▸ List.Sublist.refl _, ?_, nextSession⟩
  · funext userId
    rw [credentials, credentials, users]
  · intro token session found _
    rwa [getSessionByToken, sessions]

theorem createMatch_boards (player1Id player2Id : UserId) :
    (db.createMatch now player1Id player2Id).1.matchBoards = db.matchBoards := by
  unfold createMatch
  split <;> rfl

theorem createMatch_moves (player1Id player2Id : UserId) :
    (db.createMatch now player1Id player2Id).1.matchMoves = db.matchMoves := by
  unfold createMatch
  split <;> rfl

theorem endMatch_moves (matchId : MatchId) (winnerId : UserId) :
    (db.endMatch now matchId winnerId).matchMoves = db.matchMoves := by
  unfold Database.endMatch
  split <;> rfl

theorem saveShipPlacement_moves (matchId : MatchId) (userId : UserId) (shipData : Text) :
    (db.saveShipPlacement matchId userId shipData).1.matchMoves = db.matchMoves := by
  unfold saveShipPlacement
  split <;> rfl

theorem saveMove_boards (matchId : MatchId) (playerId : UserId) (moveNumber x y : Int)
    (result : ShotResult) :
    (db.saveMove now matchId playerId moveNumber x y result).1.matchBoards = db.matchBoards := by
  unfold saveMove
  split <;> rfl

theorem createMatch_leaves (player1Id player2Id : UserId) :
    db.Leaves now (db.createMatch now player1Id player2Id).1 := by
  unfold createMatch
  split
  · exact Leaves.refl now db
  · exact leaves_of_same now db rfl rfl rfl rfl

variable {now db} {duty : Duty} {later : Database}

theorem Statement.leaves (made : db.Statement duty now later) : db.Leaves now later := by
  cases made with
  | validateSession token => exact validateSession_leaves now db token
  | updateEloRating userId newElo => exact modify_leaves now db userId (fun _ => rfl) fun _ => rfl
  | endMatch matchId winnerId =>
      unfold Database.endMatch
      split
      · exact Leaves.refl now db
      · exact leaves_of_same now db rfl rfl rfl rfl
  | saveShipPlacement places matchId userId shipData =>
      unfold Database.saveShipPlacement
      split
      · exact Leaves.refl now db
      · exact leaves_of_same now db rfl rfl rfl rfl
  | saveMove moves matchId playerId moveNumber x y result =>
      unfold Database.saveMove
      split
      · exact Leaves.refl now db
      · exact leaves_of_same now db rfl rfl rfl rfl

theorem hasMatch_of_rows (rows : later.matchRows = db.matchRows) :
    later.hasMatch = db.hasMatch := by
  funext matchId
  rw [hasMatch, rows, hasMatch]

theorem Statement.hasMatch (made : db.Statement duty now later) : later.hasMatch = db.hasMatch := by
  cases made with
  | validateSession token => exact hasMatch_of_rows (validateSession_matchRows now token)
  | updateEloRating userId newElo => rfl
  | endMatch matchId winnerId =>
      unfold Database.endMatch
      split
      · rfl
      · funext other
        simp only [Database.hasMatch, Table.lookup_modify]
        split <;> simp
  | saveShipPlacement places matchId userId shipData =>
      exact hasMatch_of_rows (saveShipPlacement_matchRows ..)
  | saveMove moves matchId playerId moveNumber x y result =>
      unfold Database.saveMove
      split <;> rfl

theorem Statement.matchBoards (made : db.Statement duty now later) (other : duty ≠ .placing) :
    later.matchBoards = db.matchBoards := by
  cases made with
  | validateSession token => exact (validateSession_aside now token).matchBoards
  | updateEloRating userId newElo => rfl
  | endMatch matchId winnerId =>
      unfold Database.endMatch
      split <;> rfl
  | saveShipPlacement places => exact absurd places other
  | saveMove => exact saveMove_boards ..

theorem Statement.matchMoves (made : db.Statement duty now later) (other : duty ≠ .moving) :
    later.matchMoves = db.matchMoves := by
  cases made with
  | validateSession token => exact (validateSession_aside now token).matchMoves
  | updateEloRating userId newElo => rfl
  | endMatch => exact endMatch_moves ..
  | saveShipPlacement => exact saveShipPlacement_moves ..
  | saveMove moves => exact absurd moves other

end Statements

end Database

end Battleship
