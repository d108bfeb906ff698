import Battleship.BoardCore
import Battleship.Library.Decimal

/-! The match state of `game_state.cpp`. Every `time(NULL)` is the argument
`now`, in seconds; ids are natural numbers. -/

namespace Battleship

open Decimal (Text)

abbrev UserId := Nat
abbrev MatchId := Nat

/-- Subtraction on `uint64_t` clock readings. -/
def secondsSince (now start : Nat) : Nat := (now + 2 ^ 64 - start) % 2 ^ 64

structure Move where
  moveNumber : Int
  playerId : UserId
  target : Coordinate
  result : ShotResult
  timestamp : Nat
  timeTakenMs : Nat
deriving DecidableEq

structure MatchState where
  matchId : Text
  player1Id : UserId
  player2Id : UserId
  player1Name : Text
  player2Name : Text
  player1Board : Board
  player2Board : Board
  currentTurnPlayerId : UserId
  turnNumber : Int
  turnTimeLimit : Nat
  turnStartTime : Nat
  moveHistory : List Move
  startTime : Nat
  endTime : Nat
  result : GameResult
  winnerId : UserId
  isActive : Bool
  isPaused : Bool

namespace MatchState

/-- The constructor; the ids and names it leaves unset are set by the caller. -/
def new (matchId : Text) (player1Id player2Id : UserId) (player1Name player2Name : Text) :
    MatchState where
  matchId := matchId
  player1Id := player1Id
  player2Id := player2Id
  player1Name := player1Name
  player2Name := player2Name
  player1Board := Board.new
  player2Board := Board.new
  currentTurnPlayerId := 0
  turnNumber := 0
  turnTimeLimit := 60
  turnStartTime := 0
  moveHistory := []
  startTime := 0
  endTime := 0
  result := .draw
  winnerId := 0
  isActive := false
  isPaused := false

def startMatch (game : MatchState) (now : Nat) : MatchState :=
  { game with isActive := true, startTime := now, turnStartTime := now, turnNumber := 1 }

def endMatch (game : MatchState) (now : Nat) (winner : UserId) : MatchState :=
  { game with
    isActive := false
    endTime := now
    winnerId := winner
    result :=
      if winner = game.player1Id then .win
      else if winner = game.player2Id then .loss
      else .draw }

def switchTurn (game : MatchState) (now : Nat) : MatchState :=
  { game with
    currentTurnPlayerId :=
      if game.currentTurnPlayerId = game.player1Id then game.player2Id else game.player1Id
    turnNumber := game.turnNumber + 1
    turnStartTime := now }

def addMoveToHistory (game : MatchState) (move : Move) : MatchState :=
  { game with moveHistory := game.moveHistory ++ [move] }

def opponent (game : MatchState) (playerId : UserId) : UserId :=
  if playerId = game.player1Id then game.player2Id else game.player1Id

def targetBoard (game : MatchState) (playerId : UserId) : Board :=
  if playerId = game.player1Id then game.player2Board else game.player1Board

def setTargetBoard (game : MatchState) (playerId : UserId) (board : Board) : MatchState :=
  if playerId = game.player1Id then { game with player2Board := board }
  else { game with player1Board := board }

def playMove (game : MatchState) (now : Nat) (playerId : UserId) (target : Coordinate) :
    MatchState × ShotResult :=
  let shot := (game.targetBoard playerId).processShot target
  let played := (game.setTargetBoard playerId shot.1).addMoveToHistory {
    moveNumber := game.turnNumber
    playerId := playerId
    target := target
    result := shot.2
    timestamp := now
    timeTakenMs := 0 }
  if shot.1.allShipsSunk then (played.endMatch now playerId, shot.2)
  else if shot.2 = .miss then (played.switchTurn now, shot.2)
  else (played, shot.2)

def processMove (game : MatchState) (now : Nat) (playerId : UserId) (target : Coordinate) :
    MatchState × ShotResult :=
  if !game.isActive || game.isPaused then (game, .miss)
  else if playerId ≠ game.currentTurnPlayerId then (game, .miss)
  else game.playMove now playerId target

def isTurnTimedOut (game : MatchState) (now : Nat) : Bool :=
  if !game.isActive || game.isPaused || game.turnStartTime = 0 then false
  else secondsSince now game.turnStartTime ≥ game.turnTimeLimit

def getTurnTimeRemaining (game : MatchState) (now : Nat) : Nat :=
  if !game.isActive || game.isPaused || game.turnStartTime = 0 then game.turnTimeLimit
  else if secondsSince now game.turnStartTime ≥ game.turnTimeLimit then 0
  else game.turnTimeLimit - secondsSince now game.turnStartTime

end MatchState

end Battleship
