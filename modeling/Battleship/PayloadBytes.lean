import Battleship.RequestBytes

/-! The packed structs of the responses and notifications, as the server fills them in. -/

namespace Battleship

/-! The enumerations go by the numbers that `protocol.h` gives them. -/

def PlayerStatus.code : PlayerStatus → Nat
  | .offline => 0
  | .online => 1
  | .available => 2
  | .inGame => 3
  | .busy => 4

def PlayerStatus.ofCode : Nat → Option PlayerStatus
  | 0 => some .offline
  | 1 => some .online
  | 2 => some .available
  | 3 => some .inGame
  | 4 => some .busy
  | _ => none

def ShotResult.code : ShotResult → Nat
  | .miss => 0
  | .hit => 1
  | .sunk => 2

def ShotResult.ofCode : Nat → Option ShotResult
  | 0 => some .miss
  | 1 => some .hit
  | 2 => some .sunk
  | _ => none

def GameResult.code : GameResult → Nat
  | .win => 0
  | .loss => 1
  | .draw => 2

def GameResult.ofCode : Nat → Option GameResult
  | 0 => some .win
  | 1 => some .loss
  | 2 => some .draw
  | _ => none

def MatchEndReason.code : MatchEndReason → Nat
  | .normal => 0
  | .resign => 1
  | .disconnect => 2
  | .timeout => 3
  | .drawAgreed => 4

def MatchEndReason.ofCode : Nat → Option MatchEndReason
  | 0 => some .normal
  | 1 => some .resign
  | 2 => some .disconnect
  | 3 => some .timeout
  | 4 => some .drawAgreed
  | _ => none

def PlayerInfo.new : PlayerInfo := ⟨0, [], [], 1000, .offline⟩

namespace PayloadBytes

open Decimal (Text)
open Layout (word signed flag enumeration)
open Structs

section Enumerations

def playerStatus : Layout PlayerStatus :=
  enumeration 4 PlayerStatus.code PlayerStatus.ofCode .offline fun status => by
    cases status <;> exact ⟨by decide, rfl⟩

def shotResult : Layout ShotResult :=
  enumeration 4 ShotResult.code ShotResult.ofCode .miss fun result => by
    cases result <;> exact ⟨by decide, rfl⟩

def gameResult : Layout GameResult :=
  enumeration 4 GameResult.code GameResult.ofCode .win fun result => by
    cases result <;> exact ⟨by decide, rfl⟩

def matchEndReason : Layout MatchEndReason :=
  enumeration 4 MatchEndReason.code MatchEndReason.ofCode .normal fun reason => by
    cases reason <;> exact ⟨by decide, rfl⟩

def shipType : Layout ShipType :=
  (signed 4).map ShipType.ofInt ShipType.toInt fun value fits => by
    rw [ShipType.toInt_ofInt]
    exact ⟨fits, rfl⟩

def counter : Layout Int :=
  (word 4).map Int.ofNat Int.toNat fun _ fits => ⟨fits, rfl⟩

end Enumerations

section Structs

def registerResponse : Layout (Bool × UserId × Text) :=
  flag.pair ((word 4).pair chars128)

def loginResponse : Layout (Bool × UserId × Text × Text × Int × Text) :=
  flag.pair ((word 4).pair (chars64.pair (chars64.pair ((signed 4).pair chars128))))

def logoutResponse : Layout Bool := flag

def sessionValidateResponse : Layout (Bool × UserId × Text × Text × Int × Text) :=
  flag.pair ((word 4).pair (chars32.pair (chars64.pair ((signed 4).pair chars128))))

def playerInfo : Layout PlayerInfo :=
  ((word 4).pair (chars32.pair (chars64.pair
    ((signed 4).pair playerStatus)))).map
    (fun (userId, username, displayName, eloRating, status) =>
      ⟨userId, username, displayName, eloRating, status⟩)
    (fun player =>
      (player.userId, player.username, player.displayName, player.eloRating, player.status))
    fun _ fits => ⟨fits, rfl⟩

def playersArray : Layout (Nat × Vector PlayerInfo 100) := (word 4).pair (playerInfo.vector 100)

/-- The players that a list counts, and those of the array behind them as they are made. -/
def counted (players : List PlayerInfo) : Nat × Vector PlayerInfo 100 :=
  (players.length, Vector.ofFn fun index => players.getD index PlayerInfo.new)

def playerStatusUpdate : Layout (UserId × PlayerStatus × Text × Int) :=
  (word 4).pair (playerStatus.pair (chars64.pair (signed 4)))

def challengeReceived : Layout (ChallengeId × UserId × Text × Int × Nat × Bool × Nat) :=
  uint32.pair ((word 4).pair (chars64.pair ((signed 4).pair ((word 4).pair
    (flag.pair (word 8))))))

def challengeResult : Layout (ChallengeId × Bool × MatchId × Text) :=
  uint32.pair (flag.pair ((word 4).pair chars128))

def matchStart : Layout (MatchId × UserId × Text × Int × Nat × Bool) :=
  (word 4).pair ((word 4).pair (chars64.pair ((signed 4).pair
    ((word 4).pair flag))))

def shipPlacementAck : Layout (MatchId × Bool × Text) :=
  (word 4).pair (flag.pair chars128)

def matchState : Layout (MatchId × UserId × UserId × UserId × Int × Bool × Bool) :=
  (word 4).pair ((word 4).pair ((word 4).pair ((word 4).pair (counter.pair (flag.pair flag)))))

def moveResult :
    Layout (MatchId × UserId × Coordinate × ShotResult × ShipType × Int × Bool × UserId) :=
  (word 4).pair ((word 4).pair (coordinate.pair (shotResult.pair (shipType.pair (counter.pair
    (flag.pair (word 4)))))))

def turnUpdate : Layout (MatchId × UserId × Int × Nat) :=
  (word 4).pair ((word 4).pair (counter.pair (word 4)))

def matchEnd :
    Layout (MatchId × GameResult × UserId × MatchEndReason × Int × Int × Int × Nat × Text) :=
  (word 4).pair (gameResult.pair ((word 4).pair (matchEndReason.pair ((signed 4).pair
    ((signed 4).pair (counter.pair ((word 8).pair chars128)))))))

def drawOffer : Layout MatchId := word 4

def drawResponse : Layout (MatchId × Bool) := (word 4).pair flag

end Structs

def serialize : Payload → List UInt8
  | .none => []
  | .registerResponse success userId errorMessage =>
      registerResponse.encode (success, userId, errorMessage)
  | .loginResponse success userId sessionToken displayName eloRating errorMessage =>
      loginResponse.encode (success, userId, sessionToken, displayName, eloRating, errorMessage)
  | .logoutResponse success => logoutResponse.encode success
  | .sessionValidateResponse valid userId username displayName eloRating errorMessage =>
      sessionValidateResponse.encode
        (valid, userId, username, displayName, eloRating, errorMessage)
  | .playerListResponse players => playersArray.encode (counted players)
  | .playerStatusUpdate userId status displayName eloRating =>
      playerStatusUpdate.encode (userId, status, displayName, eloRating)
  | .challengeReceived challengeId challengerId challengerName challengerElo timeLimit
      randomPlacement expiresAt =>
      challengeReceived.encode (challengeId, challengerId, challengerName, challengerElo,
        timeLimit, randomPlacement, expiresAt)
  | .challengeResult challengeId success matchId errorMessage =>
      challengeResult.encode (challengeId, success, matchId, errorMessage)
  | .matchStart matchId opponentId opponentName opponentElo timeLimit youGoFirst =>
      matchStart.encode (matchId, opponentId, opponentName, opponentElo, timeLimit, youGoFirst)
  | .shipPlacementAck matchId valid errorMessage =>
      shipPlacementAck.encode (matchId, valid, errorMessage)
  | .matchState matchId player1Id player2Id currentTurnPlayerId turnNumber isActive isPaused =>
      matchState.encode
        (matchId, player1Id, player2Id, currentTurnPlayerId, turnNumber, isActive, isPaused)
  | .moveResult matchId shooterId target result shipSunk shipsRemaining gameOver winnerId =>
      moveResult.encode
        (matchId, shooterId, target, result, shipSunk, shipsRemaining, gameOver, winnerId)
  | .turnUpdate matchId currentPlayerId turnNumber timeLeft =>
      turnUpdate.encode (matchId, currentPlayerId, turnNumber, timeLeft)
  | .matchEnd matchId result winnerId reason eloChange newElo totalMoves duration reasonText =>
      matchEnd.encode
        (matchId, result, winnerId, reason, eloChange, newElo, totalMoves, duration, reasonText)
  | .drawOffer matchId => drawOffer.encode matchId
  | .drawResponse matchId accepted => drawResponse.encode (matchId, accepted)

/-- The sizes of the structs are those that the server gives in its headers. -/
theorem length_serialize (payload : Payload) : (serialize payload).length = payload.size := by
  cases payload with
  | none => rfl
  | _ => exact Layout.length_encode ..

def Fits : Payload → Prop
  | .none => True
  | .registerResponse success userId errorMessage =>
      registerResponse.Fits (success, userId, errorMessage)
  | .loginResponse success userId sessionToken displayName eloRating errorMessage =>
      loginResponse.Fits (success, userId, sessionToken, displayName, eloRating, errorMessage)
  | .logoutResponse success => logoutResponse.Fits success
  | .sessionValidateResponse valid userId username displayName eloRating errorMessage =>
      sessionValidateResponse.Fits
        (valid, userId, username, displayName, eloRating, errorMessage)
  | .playerListResponse players =>
      playersArray.Fits (counted players)
  | .playerStatusUpdate userId status displayName eloRating =>
      playerStatusUpdate.Fits (userId, status, displayName, eloRating)
  | .challengeReceived challengeId challengerId challengerName challengerElo timeLimit
      randomPlacement expiresAt =>
      challengeReceived.Fits (challengeId, challengerId, challengerName, challengerElo,
        timeLimit, randomPlacement, expiresAt)
  | .challengeResult challengeId success matchId errorMessage =>
      challengeResult.Fits (challengeId, success, matchId, errorMessage)
  | .matchStart matchId opponentId opponentName opponentElo timeLimit youGoFirst =>
      matchStart.Fits (matchId, opponentId, opponentName, opponentElo, timeLimit, youGoFirst)
  | .shipPlacementAck matchId valid errorMessage =>
      shipPlacementAck.Fits (matchId, valid, errorMessage)
  | .matchState matchId player1Id player2Id currentTurnPlayerId turnNumber isActive isPaused =>
      matchState.Fits
        (matchId, player1Id, player2Id, currentTurnPlayerId, turnNumber, isActive, isPaused)
  | .moveResult matchId shooterId target result shipSunk shipsRemaining gameOver winnerId =>
      moveResult.Fits
        (matchId, shooterId, target, result, shipSunk, shipsRemaining, gameOver, winnerId)
  | .turnUpdate matchId currentPlayerId turnNumber timeLeft =>
      turnUpdate.Fits (matchId, currentPlayerId, turnNumber, timeLeft)
  | .matchEnd matchId result winnerId reason eloChange newElo totalMoves duration reasonText =>
      matchEnd.Fits
        (matchId, result, winnerId, reason, eloChange, newElo, totalMoves, duration, reasonText)
  | .drawOffer matchId => drawOffer.Fits matchId
  | .drawResponse matchId accepted => drawResponse.Fits (matchId, accepted)

/-- The payload is of the struct that the type of the message stands for, and a list counts no
more players than the array has. -/
def Typed : MessageType → Payload → Prop
  | .authResponse, .registerResponse .. => True
  | .authResponse, .loginResponse .. => True
  | .authResponse, .logoutResponse _ => True
  | .authResponse, .sessionValidateResponse .. => True
  | .playerList, .playerListResponse players => players.length ≤ 100
  | .playerStatusUpdate, .playerStatusUpdate .. => True
  | .challengeReceived, .challengeReceived .. => True
  | .challengeResponse, .challengeResult .. => True
  | .matchStart, .matchStart .. => True
  | .matchReady, .matchState .. => True
  | .shipPlacement, .shipPlacementAck .. => True
  | .moveResult, .moveResult .. => True
  | .turnUpdate, .turnUpdate .. => True
  | .matchEnd, .matchEnd .. => True
  | .drawOffer, .drawOffer _ => True
  | .drawResponse, .drawResponse .. => True
  | .pong, .none => True
  | _, _ => False

end PayloadBytes

end Battleship
