import Battleship.PlacementCore
import Battleship.ServerCore

/-! The gameplay handlers of `gameplay_handler.cpp`. -/

namespace Battleship

open Decimal (Text)

/-- The board of a player, loaded from the saved placement. An exception while
loading is not modelled: no saved placement raises one. -/
def loadedBoard (db : Database) (matchId : MatchId) (userId : UserId) (board : Board) : Board :=
  (loadShips board (db.getShipPlacement matchId userId)).getD board

namespace Server

variable (lib : Externals) (env : Env)

def getMatch (server : Server) (matchId : MatchId) : Option MatchState :=
  server.games.activeMatches[matchId]?

def setMatch (matchId : MatchId) (game : MatchState) (server : Server) : Server :=
  { server with
    games := { server.games with
      activeMatches := server.games.activeMatches.insert matchId game } }

def username (server : Server) (userId : UserId) : Text :=
  match server.db.getUserById userId with
  | none => []
  | some user => user.username

def freshMatch (matchId : MatchId) (player1Id player2Id : UserId) (server : Server) : MatchState :=
  MatchState.new (Decimal.write matchId) player1Id player2Id (server.username player1Id)
    (server.username player2Id)

def createMatch (matchId : MatchId) (player1Id player2Id : UserId) (server : Server) : Server :=
  server.setMatch matchId (server.freshMatch matchId player1Id player2Id)

def removeMatch (matchId : MatchId) (server : Server) : Server :=
  { server with
    games := {
      activeMatches := server.games.activeMatches.erase matchId
      readyPlayers := server.games.readyPlayers.erase matchId } }

def sendMatchReady (matchId : MatchId) (player1Id player2Id : UserId) (server : Server) : Server :=
  let payload : Payload := .matchState matchId player1Id player2Id 0 1 true false
  let header := stampedHeader env .matchReady payload
  server
    |>.sendToPlayer env header payload player1Id
    |>.sendToPlayer env header payload player2Id

def sendMoveResult (matchId : MatchId) (shooterId targetId : UserId) (target : Coordinate)
    (result : ShotResult) (shipSunk : ShipType) (shipsRemaining : Int) (gameOver : Bool)
    (winnerId : UserId) (server : Server) : Server :=
  let payload : Payload := .moveResult matchId shooterId target result shipSunk shipsRemaining gameOver winnerId
  let header := stampedHeader env .moveResult payload
  server
    |>.sendToPlayer env header payload shooterId
    |>.sendToPlayer env header payload targetId

def sendTurnUpdate (matchId : MatchId) (currentPlayerId : UserId) (turnNumber : Int)
    (server : Server) : Server :=
  let payload : Payload := .turnUpdate matchId currentPlayerId turnNumber 20
  let header := stampedHeader env .turnUpdate payload
  { server with
    net :=
      match server.getMatch matchId with
      | none => server.net
      | some game =>
          (server
            |>.sendToPlayer env header payload game.player1Id
            |>.sendToPlayer env header payload game.player2Id).net }

def oldElo (server : Server) (userId : UserId) : Int :=
  match server.db.getUserById userId with
  | none => 1000
  | some user => user.eloRating

def newElos (player1Id player2Id winnerId : UserId) (old1 old2 : Int) : Int × Int :=
  if winnerId = 0 then (lib.computeElo old1 old2 .draw, lib.computeElo old2 old1 .draw)
  else if winnerId = player1Id then (lib.computeElo old1 old2 .win, lib.computeElo old2 old1 .loss)
  else if winnerId = player2Id then (lib.computeElo old1 old2 .loss, lib.computeElo old2 old1 .win)
  else (old1, old2)

def announcedResult (winnerId playerId : UserId) : GameResult :=
  if winnerId = 0 then .draw else if winnerId = playerId then .win else .loss

def updateEloRating (matchId : MatchId) (userId : UserId) (newElo : Int) (server : Server) : Server :=
  { server with
    db := server.db.updateEloRating userId newElo
    journal := server.journal ++ [.eloUpdated matchId userId newElo] }

/-- Records that a match is being concluded; the source has no such record. -/
def announceEnd (matchId : MatchId) (winnerId : UserId) (reason : MatchEndReason) (server : Server) :
    Server :=
  { server with journal := server.journal ++ [.concluded matchId winnerId reason] }

def sendMatchEnd (matchId : MatchId) (player1Id player2Id winnerId : UserId)
    (reason : MatchEndReason) (reasonText : String) (totalMoves : Int) (duration : Nat)
    (server : Server) : Server :=
  let old1 := server.oldElo player1Id
  let old2 := server.oldElo player2Id
  let new := newElos lib player1Id player2Id winnerId old1 old2
  let text := reasonText.toList.take 127
  let msg1 : Payload := .matchEnd matchId (announcedResult winnerId player1Id) winnerId reason (new.1 - old1)
    new.1 totalMoves duration text
  let msg2 : Payload := .matchEnd matchId (announcedResult winnerId player2Id) winnerId reason (new.2 - old2)
    new.2 totalMoves duration text
  server
    |>.announceEnd matchId winnerId reason
    |>.updateEloRating matchId player1Id new.1
    |>.updateEloRating matchId player2Id new.2
    |>.sendToPlayer env (stampedHeader env .matchEnd msg1) msg1 player1Id
    |>.sendToPlayer env (stampedHeader env .matchEnd msg2) msg2 player2Id

def endMatch (matchId : MatchId) (winnerId : UserId) (server : Server) : Server :=
  { server with
    db := server.db.endMatch env.now matchId winnerId
    journal := server.journal ++ [.recorded matchId winnerId] }

/-- How `handleMove`, `handleResign`, `handleDrawResponse` and
`checkTurnTimeouts` conclude a match. -/
def finishMatch (matchId : MatchId) (game : MatchState) (winnerId : UserId) (reason : MatchEndReason)
    (reasonText : String) (server : Server) : Server :=
  server
    |>.sendMatchEnd lib env matchId game.player1Id game.player2Id winnerId reason reasonText
      game.moveHistory.length (secondsSince env.now game.startTime)
    |>.endMatch env matchId winnerId
    |>.updatePlayerStatus env game.player1Id .available
    |>.updatePlayerStatus env game.player2Id .available
    |>.removeMatch matchId

def validateSession (token : Text) (server : Server) : Server × UserId :=
  let checked := server.db.validateSession env.now token
  ({ server with db := checked.1 }, checked.2)

section Placement

def acknowledge (matchId : MatchId) (valid : Bool) (message : String) (clientFd : Option Fd)
    (server : Server) : Server :=
  let payload : Payload := .shipPlacementAck matchId valid (message.toList)
  server.sendToClient env (stampedHeader env .shipPlacement payload) payload clientFd

def markReady (matchId : MatchId) (userId : UserId) (server : Server) : Server :=
  { server with
    games := { server.games with
      readyPlayers := server.games.readyPlayers.insert matchId
        (insert userId (server.games.readySet matchId)) } }

def startedMatch (matchId : MatchId) (player1Id player2Id : UserId) (game : MatchState)
    (server : Server) : MatchState :=
  let loaded := { game with
    player1Board := loadedBoard server.db matchId player1Id game.player1Board
    player2Board := loadedBoard server.db matchId player2Id game.player2Board }
  { loaded.startMatch env.now with
    currentTurnPlayerId := if env.coin then player1Id else player2Id }

def activateMatch (matchId : MatchId) (player1Id player2Id : UserId) (server : Server) : Server :=
  let server := server.createMatch matchId player1Id player2Id
  match server.getMatch matchId with
  | none => server
  | some game =>
      let started := server.startedMatch env matchId player1Id player2Id game
      server
        |>.setMatch matchId started
        |>.sendMatchReady env matchId player1Id player2Id
        |>.sendTurnUpdate env matchId started.currentTurnPlayerId 1

def placementReady (matchId : MatchId) (userId : UserId) (server : Server) : Server :=
  let server := server.markReady matchId userId
  match server.db.getMatchById matchId with
  | none => server
  | some row =>
      if row.player1Id ∈ server.games.readySet matchId ∧
          row.player2Id ∈ server.games.readySet matchId then
        server.activateMatch env matchId row.player1Id row.player2Id
      else server

def handleShipPlacement (token : Text) (matchId : MatchId) (ships : Vector Ship numShips)
    (clientFd : Option Fd) (server : Server) : Server :=
  let (server, userId) := server.validateSession env token
  if userId = 0 then server
  else if !validateShipPlacement ships then
    server.acknowledge env matchId false "Invalid ship placement" clientFd
  else
    let (db, saved) := server.db.saveShipPlacement matchId userId (encodeShips ships)
    let server := { server with db := db }
    if !saved then server.acknowledge env matchId false "Failed to save board data" clientFd
    else
      (server.acknowledge env matchId true "Ship placement accepted" clientFd).placementReady env
        matchId userId

end Placement

section Moves

def shipSunk (board : Board) (result : ShotResult) (target : Coordinate) : ShipType :=
  if result = .sunk then
    board.ships.toList.foldl (fun found ship =>
      if ship.isSunk ∧ ship.hits ≥ ship.length ∧ Board.covers ship target then ship.shipType
      else found) .carrier
  else .carrier

def playMove (matchId : MatchId) (game : MatchState) (userId : UserId) (target : Coordinate)
    (server : Server) : Server :=
  let (played, result) := game.processMove env.now userId target
  let targetBoard := played.targetBoard userId
  let gameOver := targetBoard.allShipsSunk
  let winnerId := if gameOver then userId else 0
  let server := server
    |>.setMatch matchId played
    |>.sendMoveResult env matchId userId (game.opponent userId) target result
      (shipSunk targetBoard result target) targetBoard.shipsRemaining gameOver winnerId
  let server := { server with
    db := (server.db.saveMove env.now matchId userId played.turnNumber target.col.toInt
      target.row.toInt result).1 }
  if gameOver then
    server.finishMatch lib env matchId played winnerId .normal "All ships destroyed"
  else server.sendTurnUpdate env matchId played.currentTurnPlayerId played.turnNumber

def handleMove (token : Text) (matchId : MatchId) (target : Coordinate) (server : Server) : Server :=
  let (server, userId) := server.validateSession env token
  if userId = 0 then server
  else
    match server.getMatch matchId with
    | none => server
    | some game =>
        if game.currentTurnPlayerId ≠ userId then server
        else server.playMove lib env matchId game userId target

def handleResign (token : Text) (matchId : MatchId) (server : Server) : Server :=
  let (server, userId) := server.validateSession env token
  if userId = 0 then server
  else
    match server.getMatch matchId with
    | none => server
    | some game =>
        server.finishMatch lib env matchId game (game.opponent userId) .resign "Opponent resigned"

def handleDrawOffer (token : Text) (matchId : MatchId) (server : Server) : Server :=
  let (server, userId) := server.validateSession env token
  if userId = 0 then server
  else
    match server.getMatch matchId with
    | none => server
    | some game =>
        server.sendToPlayer env (stampedHeader env .drawOffer (.drawOffer matchId))
          (.drawOffer matchId) (game.opponent userId)

def handleDrawResponse (token : Text) (matchId : MatchId) (accepted : Bool) (server : Server) :
    Server :=
  let (server, userId) := server.validateSession env token
  if userId = 0 then server
  else
    match server.getMatch matchId with
    | none => server
    | some game =>
        if accepted then
          server.finishMatch lib env matchId game 0 .drawAgreed "Draw agreed by both players"
        else
          server.sendToPlayer env (stampedHeader env .drawResponse (.drawResponse matchId accepted))
            (.drawResponse matchId accepted) (game.opponent userId)

/-- Nothing but the session is looked at; the rest is not written yet in the source. -/
def handleRematchRequest (token : Text) (server : Server) : Server :=
  (server.validateSession env token).1

def handleRematchResponse (token : Text) (server : Server) : Server :=
  (server.validateSession env token).1

end Moves

section Endings

def timeOutMatch (matchId : MatchId) (server : Server) : Server :=
  match server.getMatch matchId with
  | none => server
  | some game =>
      server.finishMatch lib env matchId game
        (game.opponent game.currentTurnPlayerId)
        .timeout "Turn time limit exceeded"

def checkTurnTimeouts (server : Server) : Server :=
  (server.games.activeMatches.keysWhere fun game => game.isTurnTimedOut env.now).foldl
    (fun server matchId => server.timeOutMatch lib env matchId) server

def abandonMatch (disconnectedUserId : UserId) (matchId : MatchId) (server : Server) : Server :=
  match server.getMatch matchId with
  | none => server
  | some game =>
      let opponentId := game.opponent disconnectedUserId
      let duration := if game.startTime > 0 then secondsSince env.now game.startTime else 0
      server
        |>.endMatch env matchId opponentId
        |>.sendMatchEnd lib env matchId game.player1Id game.player2Id opponentId .disconnect
          "Opponent disconnected" game.turnNumber duration
        |>.removeMatch matchId
        |>.updatePlayerStatus env opponentId .available

def handlePlayerDisconnect (disconnectedUserId : UserId) (server : Server) : Server :=
  (server.games.activeMatches.keysWhere fun game =>
      decide (game.player1Id = disconnectedUserId ∨ game.player2Id = disconnectedUserId)).foldl
    (fun server matchId => server.abandonMatch lib env disconnectedUserId matchId) server

end Endings

end Server

end Battleship
