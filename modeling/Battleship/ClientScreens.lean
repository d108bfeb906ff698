import Battleship.ClientNetwork
import Battleship.Library.Machine
import Battleship.PlacementAgreement
import Battleship.UIManager

/-! The screens of the client, the dialogs over them and the two kinds of game that share
the game screen: against another player and against the bot. -/

namespace Battleship.ClientScreens

inductive UIScreen
  | login | register | mainMenu | lobby | shipPlacement | game | replay | profile
deriving DecidableEq

/-- A modal dialog, by what follows when it closes: nothing, the login screen, the lobby, or
what the answer to VICTORY and DEFEAT asks for. -/
inductive Dialog
  | message | registered | result | gameOver
deriving DecidableEq

/-- What the client sends and does about matches, in order; the source has no such record. -/
inductive Entry
  | placement (matchId : MatchId)
  | move (matchId : MatchId) (target : Coordinate)
  | resign (matchId : MatchId)
  | shot (inBotMode onBoard : Bool)
  | matchEnd (matchId : MatchId)
deriving DecidableEq

theorem numShips_pos : 0 < numShips := by decide

/-- The first button of the placement screen. -/
def shipCarrier : Fin numShips := ⟨0, numShips_pos⟩

structure Client where
  ui : UIManager
  shipsPlaced : Fin numShips → Bool
  selectedShipType : Fin numShips
  currentOrientation : Orientation
  screen : UIScreen
  /-- The dialog on top is the first one, and the only one that takes input. -/
  dialogs : List Dialog
  isBotMode : Bool
  waitingForMatchEnd : Bool
  fireButton : Bool
  /-- The lobby screen was created, which sets the callbacks for the messages of a match. -/
  subscribed : Bool
  status : ConnectionStatus
  botTurns : Nat
  log : List Entry

namespace Client

variable (client : Client)

def isConnected : Bool := client.status = .connected || client.status = .authenticated

def isAuthenticated : Bool := client.status = .authenticated

def note (entry : Entry) : Client := { client with log := client.log ++ [entry] }

section Showing

def showScreen (screen : UIScreen) : Client :=
  let shown := { client with ui := client.ui.stopTurnTimer, screen := screen }
  match screen with
  | .game => { shown with ui := shown.ui.showGameScreen, fireButton := true }
  | .lobby => { shown with subscribed := true }
  | _ => shown

def openDialog (dialog : Dialog) : Client := { client with dialogs := dialog :: client.dialogs }

/-- `randomPlacement` never comes to `none`. -/
def placeOpponent (rand : Nat → Nat) : Client :=
  { client with
    ui.opponentBoard := (client.ui.opponentBoard.randomPlacement rand).getD client.ui.opponentBoard }

def resetGame : Client :=
  { client with ui.shotsFired := 0, ui.hitsCount := 0, ui.isPlayerTurn := true,
                ui.playerBoard := client.ui.playerBoard.clearBoard }

def playVsBot (rand : Nat → Nat) : Client :=
  (({ client with isBotMode := true }.resetGame).placeOpponent rand).showScreen .shipPlacement

def multiplayer : Client := { client with isBotMode := false }.showScreen .lobby

inductive DialogResponse
  | ok | cancel | closed
deriving DecidableEq

def afterGame (rand : Nat → Nat) : DialogResponse → Client
  | .cancel => client.showScreen .lobby
  | .ok =>
      { (client.placeOpponent rand).resetGame with shipsPlaced := fun _ => false }.showScreen
        .shipPlacement
  | .closed => client

def respond (response : DialogResponse) (rand : Nat → Nat) : Client :=
  match client.dialogs with
  | [] => client
  | .message :: below => { client with dialogs := below }
  | .registered :: below => { client with dialogs := below }.showScreen .login
  | .result :: below => { client with dialogs := below }.showScreen .lobby
  | .gameOver :: below => { client with dialogs := below }.afterGame rand response

end Showing

section Shooting

def markSunkShip (type : UInt8) (board : Board) : Board :=
  let sunk := (List.finRange numShips).find? fun i =>
    (Board.shipAt board.ships i).type = type && (Board.shipAt board.ships i).isSunk
  match sunk with
  | none => board
  | some i =>
      let ship := Board.shipAt board.ships i
      (List.range ship.length.toNat).foldl (fun board j =>
        board.setCell (cellRow ship.position ship.direction j)
          (cellCol ship.position ship.direction j) .sunk) board

def markSunkShips (target : Coordinate) (board : Board) : Board :=
  (List.finRange numShips).foldl (fun board i =>
    let ship := Board.shipAt board.ships i
    if ship.isSunk && Board.covers ship target then markSunkShip ship.type board else board) board

def scheduleBot : Client :=
  if client.isBotMode && !client.ui.isPlayerTurn then
    { client with botTurns := client.botTurns + 1 }
  else { client with ui := client.ui.startTurnTimer 20 }

def recordShot (target : Coordinate) : Client × ShotResult :=
  let shot := client.ui.opponentBoard.processShot target
  let ui := { client.ui with
    opponentBoard := if shot.2 = ShotResult.sunk then markSunkShips target shot.1 else shot.1
    shotsFired := client.ui.shotsFired + 1
    hitsCount := if shot.2 = ShotResult.miss then client.ui.hitsCount else client.ui.hitsCount + 1 }
  ({ client with ui := ui.clearTargetSelection, fireButton := false }.note
    (.shot client.isBotMode true), shot.2)

def afterShot (result : ShotResult) : Client :=
  if client.ui.opponentBoard.allShipsSunk then
    { client with ui := client.ui.stopTurnTimer }.openDialog .gameOver
  else if result = .miss then { client with ui := client.ui.switchTurn }.scheduleBot
  else { client with ui := client.ui.stopTurnTimer.startTurnTimer 20 }

/-- The offline path of `executeFireAtTarget`. -/
def shootLocally (target : Coordinate) : Client :=
  let shot := client.recordShot target
  shot.1.afterShot shot.2

/-- `sendMessage` is taken to succeed, as in the two functions below. -/
def sendMove (matchId : MatchId) (target : Coordinate) : Client :=
  if client.isAuthenticated then client.note (.move matchId target) else client

def sendResign (matchId : MatchId) : Client :=
  if client.isAuthenticated then client.note (.resign matchId) else client

def sendShipPlacement (matchId : MatchId) : Client :=
  if client.isAuthenticated then client.note (.placement matchId) else client

def executeFireAtTarget : Client × Bool :=
  match client.ui.executeFireAtTarget with
  | (_, none) => (client, false)
  | (ui, some target) =>
      -- a match that was played online, and not `isBotMode`, decides where the shot goes
      if client.isConnected && 0 < client.ui.currentMatchId then
        (({ client with ui := ui, fireButton := false }.sendMove client.ui.currentMatchId
          target).note (.shot client.isBotMode false), true)
      else (client.shootLocally target, true)

def onFireClicked : Client :=
  if !client.ui.isPlayerTurn then client.openDialog .message
  else if client.ui.selectedTarget = none then client.openDialog .message
  else
    match client.executeFireAtTarget with
    | (client, true) => client
    | (client, false) => client.openDialog .message

def resignMatch : Client :=
  if client.isConnected && 0 < client.ui.currentMatchId then
    ({ client with waitingForMatchEnd := true }.sendResign client.ui.currentMatchId).openDialog
      .message
  else client

end Shooting

section Bot

def botTarget (rand : Nat → Nat) (board : Board) : Nat → Nat → Option Coordinate
  | 0, _ => none
  | attempts + 1, next =>
      let row := rand next % boardSize
      let col := rand (next + 1) % boardSize
      if board.getCell row col = .empty ∨ board.getCell row col = .ship then
        some ⟨.ofNat row, .ofNat col⟩
      else botTarget rand board attempts (next + 2)

def botTakeTurn (rand : Nat → Nat) : Client :=
  if client.ui.isPlayerTurn || !client.isBotMode then client
  else
    match botTarget rand client.ui.playerBoard 100 0 with
    | none => { client with ui := client.ui.switchTurn }
    | some target =>
        let shot := client.ui.playerBoard.processShot target
        let client := { client with ui.playerBoard := shot.1 }
        let client := if shot.2 = .miss then { client with ui := client.ui.switchTurn }
          else { client with botTurns := client.botTurns + 1 }
        if shot.1.allShipsSunk then client.openDialog .gameOver else client

def botTurnCallback (rand : Nat → Nat) : Client :=
  if client.botTurns = 0 then client
  else { client with botTurns := client.botTurns - 1 }.botTakeTurn rand

def turnTimerCallback : Client :=
  if client.ui.expires then
    { client with ui := client.ui.turnTimerCallback, fireButton := false }.scheduleBot
  else { client with ui := client.ui.turnTimerCallback }

end Bot

section Messages

def onMatchStart (matchId : MatchId) : Client :=
  { client with
    ui.currentMatchId := matchId
    ui.playerBoard := client.ui.playerBoard.clearBoard
    ui.opponentBoard := client.ui.opponentBoard.clearBoard
    ui.shotsFired := 0
    ui.hitsCount := 0
    shipsPlaced := fun _ => false
    selectedShipType := shipCarrier
    currentOrientation := .horizontal }.showScreen .shipPlacement

/-- The FIRE button after a result; `none` of `UIManager` is an access outside the boards. -/
def onMoveResult (shooterId : UserId) (target : Coordinate) (result : ShotResult)
    (shipSunk : ShipType) (gameOver : Bool) : Client :=
  let fireButton := if shooterId = client.ui.userId then decide (result ≠ .miss)
    else client.fireButton
  { client with
    ui := (client.ui.onMoveResult shooterId target result shipSunk).getD client.ui
    fireButton := fireButton && !gameOver }

def onTurnUpdate (currentPlayerId : UserId) (timeLeft : Nat) : Client :=
  let ui := client.ui.onTurnUpdate currentPlayerId timeLeft
  { client with ui := ui, fireButton := ui.isPlayerTurn }

def onMatchEnd : Client :=
  { client with ui := client.ui.stopTurnTimer, waitingForMatchEnd := false }.openDialog .result

def callback : Payload → Client
  | .matchStart matchId _ _ _ _ _ => client.onMatchStart matchId
  | .matchState _ _ _ currentTurnPlayerId _ _ _ =>
      { client with ui.isPlayerTurn := currentTurnPlayerId = client.ui.userId }.showScreen .game
  | .moveResult _ shooterId target result shipSunk _ gameOver _ =>
      client.onMoveResult shooterId target result shipSunk gameOver
  | .turnUpdate _ currentPlayerId _ timeLeft => client.onTurnUpdate currentPlayerId timeLeft
  | .matchEnd .. => client.onMatchEnd
  | _ => client

/-- The message when the main loop comes to it: its handler has queued the callback, if there
is one. -/
def receive (payload : Payload) : Client :=
  let client := match payload.endedMatch? with
    | some matchId => client.note (.matchEnd matchId)
    | none => client
  if client.subscribed then client.callback payload else client

end Messages

section Presses

inductive Press
  | playVsBot (rand : Nat → Nat)
  | multiplayer
  | register
  | back
  | arrange (action : PlacementScreen.ScreenAction)
  | ready
  | cell (row col : Int)
  | fire
  | surrender
  | exit

def placementScreen : PlacementScreen where
  playerBoard := client.ui.playerBoard
  shipsPlaced := client.shipsPlaced
  selectedShipType := client.selectedShipType
  currentOrientation := client.currentOrientation

/-- `none` of the placement screen is an access outside the board. -/
def arrange (action : PlacementScreen.ScreenAction) : Client :=
  match client.placementScreen.press action with
  | none => client
  | some placement =>
      { client with
        ui.playerBoard := placement.playerBoard
        shipsPlaced := placement.shipsPlaced
        selectedShipType := placement.selectedShipType
        currentOrientation := placement.currentOrientation }

def onBoardButtonPress (row col : Int) : Client :=
  let clicked := { client with ui := client.ui.onBoardButtonPress row col }
  if clicked.ui.selectedTarget = some (row, col) ∧ client.ui.isPlayerTurn ∧
      (client.ui.opponentBoard.getCell row col = .empty ∨
        client.ui.opponentBoard.getCell row col = .ship) then
    { clicked with fireButton := true }
  else clicked

/-- EXIT in the lobby asks for a logout, and the answer changes the screen. -/
def pressed : UIScreen → Press → Client
  | .login, .register => client.showScreen .register
  | .register, .back => client.showScreen .login
  | .mainMenu, .playVsBot rand => client.playVsBot rand
  | .mainMenu, .multiplayer => client.multiplayer
  | .shipPlacement, .arrange action => client.arrange action
  | .shipPlacement, .ready =>
      if client.placementScreen.allShipsPlaced then
        client.sendShipPlacement client.ui.currentMatchId
      else client
  | .shipPlacement, .exit => client.showScreen .lobby
  | .game, .cell row col => client.onBoardButtonPress row col
  | .game, .fire => if client.fireButton then client.onFireClicked else client
  | .game, .surrender => client.resignMatch
  | .game, .exit => client.showScreen .lobby
  | .replay, .back => client.showScreen .mainMenu
  | .profile, .back => client.showScreen .mainMenu
  | _, _ => client

def press (press : Press) : Client :=
  if client.dialogs = [] then client.pressed client.screen press else client

end Presses

end Client

open Client (Press DialogResponse)

/-- What the main loop handles: input, the answers to requests about the account, the
messages of a match, and timeouts; `status` is set by the thread that receives. -/
inductive Event
  | press (press : Press)
  | respond (response : DialogResponse) (rand : Nat → Nat)
  | signedIn (userId : UserId)
  | signedOut
  | registered
  | message
  | receive (payload : Payload)
  | status (status : ConnectionStatus)
  | second
  | botTurn (rand : Nat → Nat)

def step (client : Client) : Event → Client
  | .press press => client.press press
  | .respond response rand => client.respond response rand
  | .signedIn userId => { client with ui.userId := userId }.showScreen .mainMenu
  | .signedOut => client.showScreen .login
  | .registered => client.openDialog .registered
  | .message => client.openDialog .message
  | .receive payload => client.receive payload
  | .status status => { client with status := status }
  | .second => client.turnTimerCallback
  | .botTurn rand => client.botTurnCallback rand

def start (rand : Nat → Nat) : Client where
  ui :=
    { userId := 0
      playerBoard := Board.new
      opponentBoard := (Board.new.randomPlacement rand).getD Board.new
      isPlayerTurn := true
      turnTimeRemaining := 20
      turnTimerOn := false
      selectedTarget := none
      currentMatchId := 0
      shotsFired := 0
      hitsCount := 0 }
  shipsPlaced := fun _ => false
  selectedShipType := shipCarrier
  currentOrientation := .horizontal
  screen := .login
  dialogs := []
  isBotMode := false
  waitingForMatchEnd := false
  fireButton := false
  subscribed := false
  status := .disconnected
  botTurns := 0
  log := []

abbrev after (rand : Nat → Nat) (events : List Event) : Client :=
  Machine.exec step (start rand) events

section Property

def Entry.names : Entry → Option MatchId
  | .move matchId _ => some matchId
  | .resign matchId => some matchId
  | _ => none

def Stale (earlier later : Entry) : Prop := later.names.map .matchEnd = some earlier

instance (earlier later : Entry) : Decidable (Stale earlier later) :=
  inferInstanceAs (Decidable (_ = _))

/-- Nothing is sent about a match that has ended, and in bot mode every shot is processed on
the board of the opponent. -/
structure Honest (log : List Entry) : Prop where
  final : log.Pairwise fun earlier later => ¬Stale earlier later
  onBoard : .shot true false ∉ log

instance (log : List Entry) : Decidable (Honest log) :=
  decidable_of_iff ((log.Pairwise fun earlier later => ¬Stale earlier later) ∧
    .shot true false ∉ log) ⟨fun both => ⟨both.1, both.2⟩, fun honest => ⟨honest.1, honest.2⟩⟩

/-- The match of `current_match_id` has not ended and is what is being played, or there has
been no match. -/
def Client.Current (client : Client) : Prop :=
  client.ui.currentMatchId = 0 ∨
    client.isBotMode = false ∧ .matchEnd client.ui.currentMatchId ∉ client.log

instance (client : Client) : Decidable client.Current :=
  inferInstanceAs (Decidable (_ ∨ _ ∧ _))

def Event.opensGame : Event → Bool
  | .receive (.matchState ..) => true
  | _ => false

def Sound (client : Client) (event : Event) : Prop := event.opensGame → client.Current

instance (client : Client) (event : Event) : Decidable (Sound client event) :=
  inferInstanceAs (Decidable (_ → _))

end Property

section Records

theorem honest_concat {log : List Entry} {entry : Entry} : Honest (log ++ [entry]) ↔
    Honest log ∧ (∀ matchId, entry.names = some matchId → .matchEnd matchId ∉ log) ∧
      entry ≠ .shot true false := by
  constructor
  · rintro ⟨final, onBoard⟩
    rw [List.pairwise_append] at final
    obtain ⟨early, -, late⟩ := final
    rw [List.mem_append, not_or, List.mem_singleton] at onBoard
    refine ⟨⟨early, onBoard.1⟩, fun matchId named ended => ?_, Ne.symm onBoard.2⟩
    exact late _ ended entry (List.mem_singleton_self entry) (by rw [Stale, named, Option.map_some])
  · rintro ⟨⟨early, onBoard⟩, fresh, shot⟩
    refine ⟨List.pairwise_append.mpr ⟨early, List.pairwise_singleton _ _, ?_⟩, ?_⟩
    · intro earlier member later last stale
      obtain rfl := List.mem_singleton.mp last
      obtain ⟨matchId, named, rfl⟩ := Option.map_eq_some_iff.mp stale
      exact fresh matchId named member
    · rw [List.mem_append, not_or, List.mem_singleton]
      exact ⟨onBoard, Ne.symm shot⟩

theorem honest_nil : Honest [] := ⟨List.Pairwise.nil, List.not_mem_nil⟩

/-- An entry that is neither sent about a match nor a shot of the player. -/
theorem Honest.note {client : Client} (honest : Honest client.log) {entry : Entry}
    (unnamed : entry.names = none) (shot : entry ≠ .shot true false) :
    Honest (client.note entry).log :=
  honest_concat.mpr ⟨honest, by simp [unnamed], shot⟩

end Records

namespace Client

variable {client : Client}

section Fields

variable (client)

@[simp] theorem note_ui (entry : Entry) : (client.note entry).ui = client.ui := rfl

@[simp] theorem note_mode (entry : Entry) : (client.note entry).isBotMode = client.isBotMode := rfl

@[simp] theorem note_log (entry : Entry) : (client.note entry).log = client.log ++ [entry] := rfl

theorem showScreen_log (screen : UIScreen) : (client.showScreen screen).log = client.log := by
  cases screen <;> rfl

theorem showScreen_screen (screen : UIScreen) : (client.showScreen screen).screen = screen := by
  cases screen <;> rfl

theorem showScreen_matchId (screen : UIScreen) :
    (client.showScreen screen).ui.currentMatchId = client.ui.currentMatchId := by
  cases screen <;> rfl

theorem showScreen_subscribed {screen : UIScreen} (subscribed : client.subscribed = true) :
    (client.showScreen screen).subscribed = true := by
  cases screen <;> first | exact subscribed | rfl

end Fields

structure Recorded (client : Client) : Prop where
  honest : Honest client.log
  subscribed : client.ui.currentMatchId ≠ 0 → client.subscribed = true

structure Settled (client : Client) : Prop extends Recorded client where
  current : client.screen = .game → .result ∉ client.dialogs → client.Current

structure Kept (client later : Client) : Prop where
  log : later.log = client.log
  matchId : later.ui.currentMatchId = client.ui.currentMatchId
  mode : later.isBotMode = client.isBotMode
  subscribed : later.subscribed = client.subscribed
  screen : later.screen = client.screen
  leaving : .result ∈ client.dialogs → .result ∈ later.dialogs

theorem Kept.refl (client : Client) : Kept client client := ⟨rfl, rfl, rfl, rfl, rfl, id⟩

theorem Kept.trans {middle later : Client} (first : Kept client middle)
    (second : Kept middle later) : Kept client later :=
  ⟨second.log.trans first.log, second.matchId.trans first.matchId, second.mode.trans first.mode,
    second.subscribed.trans first.subscribed, second.screen.trans first.screen,
    fun leaving => second.leaving (first.leaving leaving)⟩

theorem Settled.kept {later : Client} (settled : client.Settled) (kept : Kept client later) :
    later.Settled := by
  refine ⟨⟨?_, ?_⟩, ?_⟩
  · rw [kept.log]
    exact settled.honest
  · rw [kept.matchId, kept.subscribed]
    exact settled.subscribed
  · intro game staying
    rw [kept.screen] at game
    have current := settled.current game fun leaving => staying (kept.leaving leaving)
    rwa [Current, kept.matchId, kept.mode, kept.log]

theorem Recorded.showScreen {screen : UIScreen} (recorded : client.Recorded)
    (other : screen ≠ .game) : (client.showScreen screen).Settled := by
  refine ⟨⟨?_, ?_⟩, fun game => absurd ?_ other⟩
  · rw [showScreen_log]
    exact recorded.honest
  · intro matched
    rw [showScreen_matchId] at matched
    exact showScreen_subscribed client (recorded.subscribed matched)
  · rwa [showScreen_screen] at game

theorem Settled.note (settled : client.Settled) {entry : Entry}
    (fresh : ∀ matchId, entry.names = some matchId → .matchEnd matchId ∉ client.log)
    (shot : entry ≠ .shot true false) (going : ∀ matchId, entry ≠ .matchEnd matchId) :
    (client.note entry).Settled := by
  refine ⟨⟨honest_concat.mpr ⟨settled.honest, fresh, shot⟩, settled.subscribed⟩, ?_⟩
  intro game staying
  refine (settled.current game staying).imp id fun online => ⟨online.1, ?_⟩
  rw [note_log, List.mem_append, not_or, List.mem_singleton]
  exact ⟨online.2, fun last => going _ last.symm⟩

section Keeping

variable (client)

theorem kept_ui {ui : UIManager} (same : ui.currentMatchId = client.ui.currentMatchId) :
    Kept client { client with ui := ui } :=
  ⟨rfl, same, rfl, rfl, rfl, id⟩

theorem kept_arrange (action : PlacementScreen.ScreenAction) :
    Kept client (client.arrange action) := by
  rw [arrange]
  split
  · exact Kept.refl client
  · exact ⟨rfl, rfl, rfl, rfl, rfl, id⟩

theorem kept_openDialog (dialog : Dialog) : Kept client (client.openDialog dialog) :=
  ⟨rfl, rfl, rfl, rfl, rfl, List.mem_cons_of_mem _⟩

theorem kept_scheduleBot : Kept client client.scheduleBot := by
  rw [scheduleBot]
  split
  · exact ⟨rfl, rfl, rfl, rfl, rfl, id⟩
  · exact kept_ui client rfl

theorem kept_recordShot (target : Coordinate) :
    Kept (client.note (.shot client.isBotMode true)) (client.recordShot target).1 :=
  ⟨rfl, rfl, rfl, rfl, rfl, id⟩

theorem kept_afterShot (result : ShotResult) : Kept client (client.afterShot result) := by
  rw [afterShot]
  split
  · exact ⟨rfl, rfl, rfl, rfl, rfl, List.mem_cons_of_mem _⟩
  · split
    · have switched : Kept client { client with ui := client.ui.switchTurn } := kept_ui client rfl
      exact switched.trans (kept_scheduleBot _)
    · exact kept_ui client rfl

theorem kept_shootLocally (target : Coordinate) :
    Kept (client.note (.shot client.isBotMode true)) (client.shootLocally target) :=
  (kept_recordShot client target).trans (kept_afterShot _ _)

theorem kept_botTakeTurn (rand : Nat → Nat) : Kept client (client.botTakeTurn rand) := by
  rw [botTakeTurn]
  split
  · exact Kept.refl client
  · generalize botTarget rand client.ui.playerBoard 100 0 = aimed
    cases aimed with
    | none => exact kept_ui client rfl
    | some target =>
        simp only []
        split <;> split <;> exact ⟨rfl, rfl, rfl, rfl, rfl, by simp [openDialog]⟩

theorem kept_botTurnCallback (rand : Nat → Nat) : Kept client (client.botTurnCallback rand) := by
  rw [botTurnCallback]
  split
  · exact Kept.refl client
  · have waited : Kept client { client with botTurns := client.botTurns - 1 } :=
      ⟨rfl, rfl, rfl, rfl, rfl, id⟩
    exact waited.trans (kept_botTakeTurn _ rand)

theorem turnTimerCallback_matchId (ui : UIManager) :
    ui.turnTimerCallback.currentMatchId = ui.currentMatchId := by
  rw [UIManager.turnTimerCallback]
  split
  · rfl
  · split <;> rfl

theorem kept_turnTimerCallback : Kept client client.turnTimerCallback := by
  have counted : Kept client { client with ui := client.ui.turnTimerCallback } :=
    kept_ui client (turnTimerCallback_matchId client.ui)
  rw [turnTimerCallback]
  split
  · have cleared : Kept client
        { client with ui := client.ui.turnTimerCallback, fireButton := false } :=
      counted.trans ⟨rfl, rfl, rfl, rfl, rfl, id⟩
    exact cleared.trans (kept_scheduleBot _)
  · exact counted

theorem onMoveResult_matchId (ui : UIManager) (shooterId : UserId) (target : Coordinate)
    (result : ShotResult) (shipSunk : ShipType) :
    ((ui.onMoveResult shooterId target result shipSunk).getD ui).currentMatchId =
      ui.currentMatchId := by
  rw [UIManager.onMoveResult]
  split
  · simp only [UIManager.onOwnShot]
    cases result with
    | miss => rfl
    | hit => rfl
    | sunk => cases ui.opponentBoard.revealSunk target.row.toInt target.col.toInt shipSunk <;> rfl
  · rfl

theorem onTurnUpdate_matchId (ui : UIManager) (currentPlayerId : UserId) (timeLeft : Nat) :
    (ui.onTurnUpdate currentPlayerId timeLeft).currentMatchId = ui.currentMatchId := by
  simp only [UIManager.onTurnUpdate]
  split <;> rfl

theorem onBoardButtonPress_matchId (ui : UIManager) (row col : Int) :
    (ui.onBoardButtonPress row col).currentMatchId = ui.currentMatchId := by
  rw [UIManager.onBoardButtonPress]
  split
  · rfl
  · split
    · rfl
    · split <;> rfl

theorem kept_onBoardButtonPress (row col : Int) :
    Kept client (client.onBoardButtonPress row col) := by
  have same := onBoardButtonPress_matchId client.ui row col
  simp only [onBoardButtonPress]
  split <;> exact ⟨rfl, same, rfl, rfl, rfl, id⟩

end Keeping

section Shots

/-- On the game screen with no dialog over it, what is sent is about a match that goes on. -/
theorem Settled.online (settled : client.Settled) (game : client.screen = .game)
    (bare : client.dialogs = []) (matched : 0 < client.ui.currentMatchId) :
    client.isBotMode = false ∧ .matchEnd client.ui.currentMatchId ∉ client.log := by
  have current := settled.current game (by simp [bare])
  exact current.resolve_left (Nat.ne_of_gt matched)

theorem Settled.sendMove (settled : client.Settled) (target : Coordinate)
    (going : .matchEnd client.ui.currentMatchId ∉ client.log) :
    (client.sendMove client.ui.currentMatchId target).Settled := by
  rw [Client.sendMove]
  split
  · refine settled.note ?_ nofun nofun
    rintro _ ⟨⟩
    exact going
  · exact settled

theorem Settled.sendResign (settled : client.Settled)
    (going : .matchEnd client.ui.currentMatchId ∉ client.log) :
    (client.sendResign client.ui.currentMatchId).Settled := by
  rw [Client.sendResign]
  split
  · refine settled.note ?_ nofun nofun
    rintro _ ⟨⟩
    exact going
  · exact settled

theorem Settled.sendShipPlacement (settled : client.Settled) (matchId : MatchId) :
    (client.sendShipPlacement matchId).Settled := by
  rw [Client.sendShipPlacement]
  split
  · exact settled.note nofun nofun nofun
  · exact settled

theorem executeFireAtTarget_matchId (ui : UIManager) :
    ui.executeFireAtTarget.1.currentMatchId = ui.currentMatchId := by
  rw [UIManager.executeFireAtTarget]
  split
  · rfl
  · split <;> rfl

theorem Settled.executeFireAtTarget (settled : client.Settled) (game : client.screen = .game)
    (bare : client.dialogs = []) : client.executeFireAtTarget.1.Settled := by
  have same := executeFireAtTarget_matchId client.ui
  simp only [Client.executeFireAtTarget]
  cases aimed : client.ui.executeFireAtTarget with
  | mk ui aim =>
      rw [aimed] at same
      cases aim with
      | none => exact settled
      | some target =>
          simp only [Bool.and_eq_true, decide_eq_true_eq]
          split
          case isTrue online =>
            obtain ⟨mode, going⟩ := settled.online game bare online.2
            have cleared : Kept client { client with ui := ui, fireButton := false } :=
              ⟨rfl, same, rfl, rfl, rfl, id⟩
            have sent := (settled.kept cleared).sendMove target (by rw [cleared.matchId]; exact going)
            rw [cleared.matchId] at sent
            exact sent.note (by simp [Entry.names]) (by simp [mode]) (by simp)
          case isFalse =>
            have noted : (client.note (.shot client.isBotMode true)).Settled :=
              settled.note nofun (by simp) nofun
            exact noted.kept (kept_shootLocally client target)

theorem Settled.onFireClicked (settled : client.Settled) (game : client.screen = .game)
    (bare : client.dialogs = []) : client.onFireClicked.Settled := by
  have shot := settled.executeFireAtTarget game bare
  have told := settled.kept (kept_openDialog client .message)
  rw [Client.onFireClicked]
  split
  · exact told
  · split
    · exact told
    · cases fired : client.executeFireAtTarget with
      | mk later done =>
          rw [fired] at shot
          cases done with
          | true => exact shot
          | false => exact shot.kept (kept_openDialog later .message)

theorem Settled.resignMatch (settled : client.Settled) (game : client.screen = .game)
    (bare : client.dialogs = []) : client.resignMatch.Settled := by
  rw [Client.resignMatch]
  split
  case isTrue online =>
    rw [Bool.and_eq_true, decide_eq_true_eq] at online
    have waiting : Kept client { client with waitingForMatchEnd := true } :=
      ⟨rfl, rfl, rfl, rfl, rfl, id⟩
    have sent := (settled.kept waiting).sendResign (settled.online game bare online.2).2
    exact sent.kept (kept_openDialog _ .message)
  case isFalse => exact settled

end Shots

section Events

/-- `later` differs in no field that the records are read from. -/
theorem Recorded.same {later : Client} (recorded : client.Recorded) (log : later.log = client.log)
    (matchId : later.ui.currentMatchId = client.ui.currentMatchId)
    (subscribed : later.subscribed = client.subscribed) : later.Recorded := by
  refine ⟨?_, fun matched => ?_⟩
  · rw [log]
    exact recorded.honest
  · rw [matchId] at matched
    rw [subscribed]
    exact recorded.subscribed matched

theorem Recorded.shows {later : Client} {screen : UIScreen} (recorded : client.Recorded)
    (log : later.log = client.log)
    (matchId : later.ui.currentMatchId = client.ui.currentMatchId)
    (subscribed : later.subscribed = client.subscribed) (other : screen ≠ .game) :
    (later.showScreen screen).Settled :=
  (recorded.same log matchId subscribed).showScreen other

/-- What the dialogs below leave is kept when the one on top does not return to the lobby. -/
theorem Settled.close (settled : client.Settled) {top : Dialog} {below : List Dialog}
    (shown : client.dialogs = top :: below) (staying : top ≠ .result) :
    Settled { client with dialogs := below } := by
  refine ⟨settled.toRecorded.same rfl rfl rfl, fun game later => settled.current game ?_⟩
  rw [shown, List.mem_cons, not_or]
  exact ⟨Ne.symm staying, later⟩

theorem Settled.afterGame (settled : client.Settled) (rand : Nat → Nat) (response : DialogResponse) :
    (client.afterGame rand response).Settled := by
  cases response with
  | ok =>
      rw [Client.afterGame]
      exact settled.shows rfl rfl rfl nofun
  | cancel =>
      rw [Client.afterGame]
      exact settled.shows rfl rfl rfl nofun
  | closed => exact settled

theorem Settled.respond (settled : client.Settled) (response : DialogResponse) (rand : Nat → Nat) :
    (client.respond response rand).Settled := by
  rw [Client.respond]
  cases shown : client.dialogs with
  | nil => exact settled
  | cons top below =>
      cases top with
      | message => exact settled.close shown nofun
      | registered => exact settled.shows rfl rfl rfl nofun
      | result => exact settled.shows rfl rfl rfl nofun
      | gameOver => exact (settled.close shown nofun).afterGame rand response

theorem Settled.press (settled : client.Settled) (press : Press) : (client.press press).Settled := by
  have leave (screen : UIScreen) (other : screen ≠ .game) : (client.showScreen screen).Settled :=
    settled.showScreen other
  rw [Client.press]
  split
  case isFalse => exact settled
  case isTrue bare =>
    cases shown : client.screen with
    | login =>
        cases press with
        | register => exact leave .register nofun
        | _ => exact settled
    | register =>
        cases press with
        | back => exact leave .login nofun
        | _ => exact settled
    | mainMenu =>
        cases press with
        | playVsBot rand =>
            rw [pressed, playVsBot]
            exact settled.shows rfl rfl rfl nofun
        | multiplayer =>
            rw [pressed, multiplayer]
            exact settled.shows rfl rfl rfl nofun
        | _ => exact settled
    | lobby => cases press <;> exact settled
    | shipPlacement =>
        cases press with
        | arrange action => exact settled.kept (kept_arrange client action)
        | ready =>
            rw [pressed]
            split
            · exact settled.sendShipPlacement _
            · exact settled
        | exit => exact leave .lobby nofun
        | _ => exact settled
    | game =>
        cases press with
        | cell row col => exact settled.kept (kept_onBoardButtonPress client row col)
        | fire =>
            rw [pressed]
            split
            · exact settled.onFireClicked shown bare
            · exact settled
        | surrender => exact settled.resignMatch shown bare
        | exit => exact leave .lobby nofun
        | _ => exact settled
    | replay =>
        cases press with
        | back => exact leave .mainMenu nofun
        | _ => exact settled
    | profile =>
        cases press with
        | back => exact leave .mainMenu nofun
        | _ => exact settled

theorem Recorded.onMatchStart (recorded : client.Recorded) (subscribed : client.subscribed = true)
    (matchId : MatchId) : (client.onMatchStart matchId).Settled := by
  rw [Client.onMatchStart]
  apply Recorded.showScreen
  · exact ⟨recorded.honest, fun _ => subscribed⟩
  · decide

/-- MATCH_READY opens the game screen for whatever `current_match_id` and `is_bot_mode` are. -/
theorem Recorded.openGame (recorded : client.Recorded) (current : client.Current) {ui : UIManager}
    (matchId : ui.currentMatchId = client.ui.currentMatchId) :
    ({ client with ui := ui }.showScreen .game).Settled := by
  refine ⟨⟨recorded.honest, ?_⟩, fun _ _ => ?_⟩
  · intro matched
    rw [showScreen_matchId, matchId] at matched
    exact recorded.subscribed matched
  · rw [Current, showScreen_matchId, matchId, showScreen_log]
    exact current

theorem Settled.onMatchEnd (settled : client.Settled) (matchId : MatchId) :
    (client.note (.matchEnd matchId)).onMatchEnd.Settled := by
  refine ⟨⟨settled.honest.note rfl nofun, settled.subscribed⟩, fun _ staying => ?_⟩
  exact absurd List.mem_cons_self staying

/-- Without the callback there has been no match, and none can be stale. -/
theorem Settled.note_matchEnd (settled : client.Settled) (unheard : client.subscribed ≠ true)
    (matchId : MatchId) : (client.note (.matchEnd matchId)).Settled := by
  refine ⟨⟨settled.honest.note rfl nofun, settled.subscribed⟩, fun _ _ => Or.inl ?_⟩
  by_contra matched
  exact unheard (settled.subscribed matched)

theorem Settled.callback (settled : client.Settled) (subscribed : client.subscribed = true)
    {payload : Payload} (sound : Sound client (.receive payload))
    (running : payload.endedMatch? = none) : (client.callback payload).Settled := by
  cases payload with
  | matchStart matchId => exact settled.onMatchStart subscribed matchId
  | matchState => exact settled.openGame (sound rfl) rfl
  | moveResult _ shooterId target result shipSunk =>
      exact settled.kept ⟨rfl, onMoveResult_matchId client.ui shooterId target result shipSunk,
        rfl, rfl, rfl, id⟩
  | turnUpdate _ currentPlayerId _ timeLeft =>
      exact settled.kept ⟨rfl, onTurnUpdate_matchId client.ui currentPlayerId timeLeft,
        rfl, rfl, rfl, id⟩
  | matchEnd => simp [Payload.endedMatch?] at running
  | _ => exact settled

theorem Settled.receive (settled : client.Settled) {payload : Payload}
    (sound : Sound client (.receive payload)) : (client.receive payload).Settled := by
  cases ended : payload.endedMatch? with
  | some matchId =>
      simp only [Client.receive, ended]
      split
      · cases payload with
        | matchEnd => exact settled.onMatchEnd matchId
        | _ => simp [Payload.endedMatch?] at ended
      · exact settled.note_matchEnd ‹_› matchId
  | none =>
      simp only [Client.receive, ended]
      split
      · exact settled.callback ‹_› sound ended
      · exact settled

end Events

end Client

open Client (Settled Kept)

/-- What a step keeps when a MATCH_READY comes only for a match that goes on. -/
theorem step_settled {client : Client} {event : Event} (sound : Sound client event)
    (settled : client.Settled) : (step client event).Settled := by
  cases event with
  | press press => exact settled.press press
  | respond response rand => exact settled.respond response rand
  | signedIn userId =>
      rw [step]
      exact settled.shows rfl rfl rfl nofun
  | signedOut =>
      rw [step]
      exact settled.showScreen nofun
  | registered => exact settled.kept (Client.kept_openDialog client .registered)
  | message => exact settled.kept (Client.kept_openDialog client .message)
  | receive payload => exact settled.receive sound
  | status status => exact settled.kept ⟨rfl, rfl, rfl, rfl, rfl, id⟩
  | second => exact settled.kept (Client.kept_turnTimerCallback client)
  | botTurn rand => exact settled.kept (Client.kept_botTurnCallback client rand)

theorem start_settled (rand : Nat → Nat) : (start rand).Settled :=
  ⟨⟨honest_nil, fun matched => absurd rfl matched⟩, fun game => absurd game nofun⟩

theorem after_settled {rand : Nat → Nat} {events : List Event}
    (sound : Machine.Respects step Sound (start rand) events) : (after rand events).Settled :=
  Machine.invariant_of_respects step (start_settled rand)
    (fun _ _ permitted settled => step_settled permitted settled) events sound

section Exactness

structure Fires (client : Client) (row col : Int) : Prop where
  authenticated : client.status = .authenticated
  bare : client.dialogs = []
  inside : (0 ≤ row ∧ row < boardSize) ∧ 0 ≤ col ∧ col < boardSize
  untried : client.ui.opponentBoard.getCell row col = .empty ∨
    client.ui.opponentBoard.getCell row col = .ship

structure Aimed (client : Client) (target : Option (Int × Int)) : Prop where
  authenticated : client.status = .authenticated
  bare : client.dialogs = []
  game : client.screen = .game
  turn : client.ui.isPlayerTurn = true
  fireButton : client.fireButton = true
  selected : client.ui.selectedTarget = target

variable {client : Client} {row col : Int}

theorem step_opensGame {event : Event} (opens : event.opensGame)
    (subscribed : client.subscribed = true) :
    ∃ turn, step client event = { client with ui.isPlayerTurn := turn }.showScreen .game := by
  cases event with
  | receive payload =>
      cases payload with
      | matchState matchId player1Id player2Id currentTurnPlayerId =>
          refine ⟨currentTurnPlayerId = client.ui.userId, ?_⟩
          exact if_pos subscribed
      | _ => exact absurd opens Bool.false_ne_true
  | _ => exact absurd opens Bool.false_ne_true

theorem Fires.aims (fires : Fires client row col) (turn : Bool) :
    Aimed ({ client with ui.isPlayerTurn := turn }.showScreen .game) client.ui.selectedTarget :=
  ⟨fires.authenticated, fires.bare, rfl, rfl, rfl, rfl⟩

/-- A click on a free cell selects it and changes nothing that a shot is sent by. -/
theorem Aimed.press_cell {target : Option (Int × Int)} (aimed : Aimed client target)
    (inside : (0 ≤ row ∧ row < boardSize) ∧ 0 ≤ col ∧ col < boardSize)
    (untried : client.ui.opponentBoard.getCell row col = .empty ∨
      client.ui.opponentBoard.getCell row col = .ship) :
    client.press (.cell row col) =
      { client with ui := client.ui.selectTarget row col, fireButton := true } := by
  have clicked : client.ui.onBoardButtonPress row col = client.ui.selectTarget row col := by
    simp only [UIManager.onBoardButtonPress, inside, aimed.turn, untried]
    simp
  have taken : client.onBoardButtonPress row col =
      { client with ui := client.ui.selectTarget row col, fireButton := true } := by
    rw [Client.onBoardButtonPress, clicked]
    exact if_pos (And.intro rfl ⟨aimed.turn, untried⟩)
  have pressed : client.press (.cell row col) = client.onBoardButtonPress row col := by
    rw [Client.press, if_pos aimed.bare, aimed.game]
    rfl
  rw [pressed, taken]

/-- The shot is sent whenever there has been a match, in whatever mode. -/
theorem Aimed.press_fire (aimed : Aimed client (some (row, col)))
    (matched : 0 < client.ui.currentMatchId) : (client.press .fire).log = client.log ++
      [.move client.ui.currentMatchId ⟨Int8.ofInt row, Int8.ofInt col⟩,
        .shot client.isBotMode false] := by
  have target : client.ui.executeFireAtTarget =
      (client.ui.clearTargetSelection, some ⟨Int8.ofInt row, Int8.ofInt col⟩) := by
    simp [UIManager.executeFireAtTarget, aimed.selected, aimed.turn]
  have pressed : client.press .fire = client.onFireClicked := by
    rw [Client.press, if_pos aimed.bare, aimed.game]
    exact if_pos aimed.fireButton
  have fired : client.onFireClicked = client.executeFireAtTarget.1 := by
    simp [Client.onFireClicked, aimed.turn, aimed.selected, Client.executeFireAtTarget, target,
      Client.isConnected, aimed.authenticated, matched]
  rw [pressed, fired]
  simp [Client.executeFireAtTarget, target, Client.isConnected, aimed.authenticated, matched,
    Client.sendMove, Client.isAuthenticated]

/-- What the shot leaves in the record when the game screen opens for it. -/
theorem Fires.log (fires : Fires client row col) {event : Event} (opens : event.opensGame)
    (subscribed : client.subscribed = true) (matched : 0 < client.ui.currentMatchId) :
    (Machine.exec step client [event, .press (.cell row col), .press .fire]).log = client.log ++
      [.move client.ui.currentMatchId ⟨Int8.ofInt row, Int8.ofInt col⟩,
        .shot client.isBotMode false] := by
  obtain ⟨turn, opened⟩ := step_opensGame opens subscribed
  have aimed := fires.aims turn
  have selected := aimed.press_cell fires.inside fires.untried
  simp only [Machine.exec_cons, Machine.exec_nil, opened]
  rw [step, step, selected]
  exact Aimed.press_fire ⟨aimed.authenticated, aimed.bare, aimed.game, aimed.turn, rfl, rfl⟩ matched

theorem not_honest_of_stale {log : List Entry} {matchId : MatchId} {target : Coordinate}
    {inBotMode : Bool} (stale : inBotMode = true ∨ .matchEnd matchId ∈ log) :
    ¬Honest (log ++ [.move matchId target, .shot inBotMode false]) := by
  rw [List.append_cons, honest_concat, honest_concat]
  rintro ⟨⟨-, fresh, -⟩, -, shot⟩
  rcases stale with rfl | ended
  · exact shot rfl
  · exact fresh matchId rfl ended

end Exactness

theorem sound_concat {rand : Nat → Nat} {events : List Event} {event : Event}
    (sound : Machine.Respects step Sound (start rand) events)
    (permitted : Sound (after rand events) event) :
    Machine.Respects step Sound (start rand) (events ++ [event]) := by
  intro before later taken
  rcases Machine.stepOf_concat taken with ⟨rfl, rfl⟩ | early
  · exact permitted
  · exact sound before later early

/-- While each MATCH_READY comes for a match that goes on and out of bot mode, or before any
match, the record of the run is honest at each of its states. A MATCH_READY that comes
otherwise opens a screen on which the next shot breaks it. -/
theorem after_honest (rand : Nat → Nat) (events : List Event)
    (sound : Machine.Respects step Sound (start rand) events) :
    (∀ early, early <+: events → Honest (after rand early).log) ∧
      ∀ event row col, event.opensGame → Fires (after rand events) row col →
        (Honest (after rand (events ++ [event, .press (.cell row col), .press .fire])).log ↔
          (after rand events).Current) := by
  constructor
  · rintro early ⟨later, rfl⟩
    exact (after_settled sound.of_append).honest
  · intro event row col opens fires
    constructor
    · intro honest
      by_contra stale
      rw [Client.Current, not_or, not_and, not_not] at stale
      have settled := after_settled sound
      rw [after, Machine.exec_append, fires.log opens (settled.subscribed stale.1)
        (Nat.pos_of_ne_zero stale.1)] at honest
      refine not_honest_of_stale ?_ honest
      by_cases mode : (after rand events).isBotMode = true
      · exact Or.inl mode
      · exact Or.inr (stale.2 (by simpa using mode))
    · intro current
      have opened : Machine.Respects step Sound (start rand) (events ++ [event]) :=
        sound_concat sound fun _ => current
      have clicked : Machine.Respects step Sound (start rand)
          (events ++ [event] ++ [.press (.cell row col)]) := sound_concat opened nofun
      have fired : Machine.Respects step Sound (start rand)
          (events ++ [event] ++ [.press (.cell row col)] ++ [.press .fire]) :=
        sound_concat clicked nofun
      simpa using (after_settled fired).honest

section Runs

def rows (draw : Nat) : Nat := if draw % 3 = 0 then draw / 3 else 0

def matchReady (matchId : MatchId) : Payload := .matchState matchId 1 2 1 1 true false

def signIn : List Event := [.status .authenticated, .signedIn 1]

def playMatch (matchId : MatchId) : List Event := [
  .press .multiplayer,
  .receive (.matchStart matchId 2 [] 1200 60 true), .press (.arrange (.randomButton rows)),
  .press .ready,
  .receive (matchReady matchId), .press (.cell 0 0), .press .fire, .press .surrender,
  .receive (.matchEnd matchId .loss 2 .resign 0 1200 1 60 []), .respond .ok rows,
  .respond .ok rows]

theorem after_honest_oneMatch :
    Honest (after rows (signIn ++ playMatch 7)).log :=
  (after_honest rows (signIn ++ playMatch 7) (by decide)).1 _ (List.prefix_refl _)

/-- A game against the bot after it. READY names the match that has ended, and the server
answers with MATCH_READY when the other player does the same. -/
def playBot : List Event := [
  .signedOut, .status .connected, .status .authenticated, .signedIn 1, .press (.playVsBot rows),
  .press (.arrange (.randomButton rows)), .press .ready, .receive (matchReady 7),
  .press (.cell 0 0), .press .fire]

theorem bot_shot_is_sent :
    (after rows (signIn ++ playMatch 7 ++ playBot)).isBotMode = true ∧
    (after rows (signIn ++ playMatch 7 ++ playBot)).log =
      [.placement 7, .move 7 ⟨0, 0⟩, .shot false false, .resign 7, .matchEnd 7, .placement 7,
        .move 7 ⟨0, 0⟩, .shot true false] ∧
    ¬Honest (after rows (signIn ++ playMatch 7 ++ playBot)).log := by
  decide

end Runs

end Battleship.ClientScreens
