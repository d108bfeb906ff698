import Battleship.MatchRun
import Battleship.ServerFrames

/-! What is true of every active match of a reachable server: it runs between
the two players of its row, both of whom are still in its ready set, and as long
as no move has been made it is the match that its placements started. -/

namespace Battleship

open Decimal (Text)

def Database.usernameOf (db : Database) (userId : UserId) : Text :=
  match db.getUserById userId with
  | none => []
  | some user => user.username

def openedMatch (db : Database) (matchId : MatchId) (player1Id player2Id first : UserId)
    (startTime : Nat) : MatchState :=
  { MatchState.new (Decimal.write matchId) player1Id player2Id (db.usernameOf player1Id)
      (db.usernameOf player2Id) with
    player1Board := loadedBoard db matchId player1Id Board.new
    player2Board := loadedBoard db matchId player2Id Board.new
    currentTurnPlayerId := first
    turnNumber := 1
    turnStartTime := startTime
    startTime := startTime
    isActive := true }

structure ActiveMatch (db : Database) (games : Games) (matchId : MatchId) (game : MatchState) :
    Prop where
  row : ∃ row : Match, db.matchRows[matchId]? = some row ∧
    game.player1Id = row.player1Id ∧ game.player2Id = row.player2Id
  active : game.isActive = true
  unpaused : game.isPaused = false
  turn : game.currentTurnPlayerId = game.player1Id ∨ game.currentTurnPlayerId = game.player2Id
  ready1 : game.player1Id ∈ games.readySet matchId
  ready2 : game.player2Id ∈ games.readySet matchId
  unplayed : game.moveHistory = [] → game = openedMatch db matchId game.player1Id game.player2Id
    game.currentTurnPlayerId game.startTime

structure GamesHold (db : Database) (games : Games) : Prop where
  active : ∀ (matchId : MatchId) (game : MatchState), games.activeMatches[matchId]? = some game →
    ActiveMatch db games matchId game
  saved : ∀ matchId userId, userId ∈ games.readySet matchId →
    ∃ row ∈ db.matchBoards, row.matchId = matchId ∧ row.userId = userId

theorem readySet_erase (games : Games) (matchId other : MatchId)
    (activeMatches : Table MatchId MatchState) :
    (Games.mk activeMatches (games.readyPlayers.erase matchId)).readySet other =
      if matchId = other then ∅ else games.readySet other := by
  simp only [Games.readySet, Table.lookup_erase]
  split <;> rfl

theorem readySet_insert (games : Games) (matchId other : MatchId) (players : Finset UserId) :
    { games with readyPlayers := games.readyPlayers.insert matchId players }.readySet other =
      if matchId = other then players else games.readySet other := by
  simp only [Games.readySet, Table.lookup_insert]
  split <;> rfl

theorem gamesHold_none (db : Database) : GamesHold db ⟨∅, ∅⟩ := by
  constructor <;> simp [Games.readySet]

theorem Database.Grows.loadedBoard {db later : Database} (grows : db.Grows later)
    {matchId : MatchId} {userId : UserId} (board : Board)
    (saved : ∃ row ∈ db.matchBoards, row.matchId = matchId ∧ row.userId = userId) :
    loadedBoard later matchId userId board = Battleship.loadedBoard db matchId userId board := by
  rw [Battleship.loadedBoard, Battleship.loadedBoard, grows.getShipPlacement saved]

theorem Database.Grows.usernameOf {db later : Database} (grows : db.Grows later) {userId : UserId}
    (known : db.HasUser userId) : later.usernameOf userId = db.usernameOf userId := by
  obtain ⟨user, found⟩ := Option.isSome_iff_exists.mp known
  obtain ⟨user', found', same⟩ := grows.users userId user found
  simp only [Database.usernameOf, Database.getUserById, found, found', same]

theorem Database.Grows.openedMatch {db later : Database} (grows : db.Grows later)
    {matchId : MatchId} {player1Id player2Id : UserId} (known1 : db.HasUser player1Id)
    (known2 : db.HasUser player2Id)
    (saved1 : ∃ row ∈ db.matchBoards, row.matchId = matchId ∧ row.userId = player1Id)
    (saved2 : ∃ row ∈ db.matchBoards, row.matchId = matchId ∧ row.userId = player2Id)
    (first : UserId) (startTime : Nat) :
    openedMatch later matchId player1Id player2Id first startTime =
      Battleship.openedMatch db matchId player1Id player2Id first startTime := by
  simp only [Battleship.openedMatch, grows.usernameOf known1, grows.usernameOf known2,
    grows.loadedBoard _ saved1, grows.loadedBoard _ saved2]

theorem GamesHold.grows {db later : Database} {games : Games} (hold : GamesHold db games)
    (good : db.WellFormed) (grows : db.Grows later) : GamesHold later games := by
  constructor
  · intro matchId game found
    obtain ⟨row, active, unpaused, turn, ready1, ready2, unplayed⟩ := hold.active matchId game found
    obtain ⟨old, known, same1, same2⟩ := row
    refine ⟨?_, active, unpaused, turn, ready1, ready2, ?_⟩
    · obtain ⟨new, knownNew, kept1, kept2⟩ := grows.matchRows matchId old known
      exact ⟨new, knownNew, same1.trans kept1.symm, same2.trans kept2.symm⟩
    · obtain ⟨_, known1, known2⟩ := good.players matchId old known
      rw [grows.openedMatch (same1 ▸ known1) (same2 ▸ known2) (hold.saved matchId _ ready1)
        (hold.saved matchId _ ready2)]
      exact unplayed
  · intro matchId userId ready
    obtain ⟨row, member, same⟩ := hold.saved matchId userId ready
    obtain ⟨rows, split⟩ := grows.boards
    exact ⟨row, by rw [split]; exact List.mem_append_left _ member, same⟩

theorem GamesHold.removeMatch {db : Database} {games : Games} (hold : GamesHold db games)
    (matchId : MatchId) :
    GamesHold db ⟨games.activeMatches.erase matchId, games.readyPlayers.erase matchId⟩ := by
  constructor
  · intro other game found
    simp only [Table.lookup_erase] at found
    split at found
    · simp at found
    next different =>
      obtain ⟨row, active, unpaused, turn, ready1, ready2, unplayed⟩ := hold.active other game found
      have same := (readySet_erase games matchId other (games.activeMatches.erase matchId)).trans
        (if_neg different)
      exact ⟨row, active, unpaused, turn, same ▸ ready1, same ▸ ready2, unplayed⟩
  · intro other userId ready
    rw [readySet_erase] at ready
    split at ready
    · simp at ready
    · exact hold.saved other userId ready

theorem GamesHold.setMatch {db : Database} {games : Games} (hold : GamesHold db games)
    {matchId : MatchId} {game : MatchState} (fine : ActiveMatch db games matchId game) :
    GamesHold db { games with activeMatches := games.activeMatches.insert matchId game } := by
  constructor
  · intro other found known
    simp only [Table.lookup_insert] at known
    split at known
    next same =>
      simp only [Option.some.injEq] at known
      subst same known
      exact ⟨fine.row, fine.active, fine.unpaused, fine.turn, fine.ready1, fine.ready2,
        fine.unplayed⟩
    next different =>
      have old := hold.active other found known
      exact ⟨old.row, old.active, old.unpaused, old.turn, old.ready1, old.ready2, old.unplayed⟩
  · exact hold.saved

theorem GamesHold.markReady {db : Database} {games : Games} (hold : GamesHold db games)
    {matchId : MatchId} {userId : UserId}
    (saved : ∃ row ∈ db.matchBoards, row.matchId = matchId ∧ row.userId = userId) :
    GamesHold db { games with
      readyPlayers := games.readyPlayers.insert matchId
        (insert userId (games.readySet matchId)) } := by
  have grown : ∀ other player, player ∈ games.readySet other →
      player ∈ ({ games with
        readyPlayers := games.readyPlayers.insert matchId
          (insert userId (games.readySet matchId)) } : Games).readySet other := by
    intro other player member
    rw [readySet_insert]
    split
    next same =>
      subst same
      exact Finset.mem_insert_of_mem member
    · exact member
  constructor
  · intro other game found
    obtain ⟨row, active, unpaused, turn, ready1, ready2, unplayed⟩ := hold.active other game found
    exact ⟨row, active, unpaused, turn, grown _ _ ready1, grown _ _ ready2, unplayed⟩
  · intro other player ready
    rw [readySet_insert] at ready
    split at ready
    next same =>
      subst same
      rcases Finset.mem_insert.mp ready with rfl | old
      · exact saved
      · exact hold.saved _ player old
    · exact hold.saved other player ready

namespace Server

structure WellFormed (server : Server) : Prop where
  db : server.db.WellFormed
  games : GamesHold server.db server.games
  challenges : ∀ (challengeId : ChallengeId) (challenge : PendingChallenge),
    server.manager.challenges[challengeId]? = some challenge →
    challenge.challengerId ≠ challenge.targetId

theorem wellFormed_init : init.WellFormed :=
  ⟨Database.wellFormed_initializeSchema, gamesHold_none _, by simp [init]⟩

theorem WellFormed.of_keepsMatches {server later : Server} (good : server.WellFormed)
    (kept : server.KeepsMatches later) (manager : later.manager = server.manager) :
    later.WellFormed := by
  obtain ⟨db, grows⟩ := kept.db.keeps good.db
  refine ⟨db, ?_, ?_⟩
  · rw [kept.games]
    exact good.games.grows good.db grows
  · rw [manager]
    exact good.challenges

theorem WellFormed.of_aside {server later : Server} (good : server.WellFormed)
    (aside : server.Aside later) : later.WellFormed :=
  good.of_keepsMatches aside.keepsMatches aside.manager

end Server

end Battleship
