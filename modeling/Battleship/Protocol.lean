import Mathlib.Data.UInt

/-! The enumerations and packed records of `protocol.h`. A C++ enumeration is an
inductive type; where the code casts an arbitrary integer to it, the value
without an enumerator keeps that integer. -/

namespace Battleship

inductive MessageType
  | authRegister | authLogin | authLogout | authResponse | validateSession
  | playerListRequest | playerList | playerStatusUpdate
  | challengeSend | challengeReceived | challengeResponse | matchStart | matchReady
  | shipPlacement | move | moveResult | turnUpdate | matchState | matchEnd
  | pauseRequest | pauseResponse | drawOffer | drawResponse | resign
  | rematchRequest | rematchResponse
  | replayRequest | replayData | statsRequest | statsData | eloUpdate
  | chatMessage | error | notification | ping | pong
deriving DecidableEq, Repr

inductive PlayerStatus
  | offline | online | available | inGame | busy
deriving DecidableEq, Repr

inductive GameResult
  | win | loss | draw
deriving DecidableEq, Repr

inductive MatchEndReason
  | normal | resign | disconnect | timeout | drawAgreed
deriving DecidableEq, Repr

inductive ShotResult
  | miss | hit | sunk
deriving DecidableEq, Repr

inductive ShipType
  | carrier | battleship | cruiser | submarine | destroyer
  | unlisted (value : Int)
deriving DecidableEq, Repr

namespace ShipType

/-- `static_cast<ShipType>`. -/
def ofInt : Int → ShipType
  | 0 => carrier
  | 1 => battleship
  | 2 => cruiser
  | 3 => submarine
  | 4 => destroyer
  | value => unlisted value

def toInt : ShipType → Int
  | carrier => 0
  | battleship => 1
  | cruiser => 2
  | submarine => 3
  | destroyer => 4
  | unlisted value => value

def all : List ShipType := [carrier, battleship, cruiser, submarine, destroyer]

@[simp] theorem toInt_ofInt (value : Int) : (ofInt value).toInt = value := by
  unfold ofInt
  split <;> rfl

end ShipType

inductive Orientation
  | horizontal | vertical
  | unlisted (value : Int)
deriving DecidableEq, Repr

namespace Orientation

/-- `static_cast<Orientation>`. -/
def ofInt : Int → Orientation
  | 0 => horizontal
  | 1 => vertical
  | value => unlisted value

def toInt : Orientation → Int
  | horizontal => 0
  | vertical => 1
  | unlisted value => value

def Listed (orientation : Orientation) : Prop :=
  orientation = horizontal ∨ orientation = vertical

instance (orientation : Orientation) : Decidable orientation.Listed :=
  inferInstanceAs (Decidable (_ ∨ _))

@[simp] theorem toInt_ofInt (value : Int) : (ofInt value).toInt = value := by
  unfold ofInt
  split <;> rfl

end Orientation

def getShipLength : ShipType → Nat
  | .carrier => 5
  | .battleship => 4
  | .cruiser => 3
  | .submarine => 3
  | .destroyer => 2
  | .unlisted _ => 0

theorem getShipLength_le (type : ShipType) : getShipLength type ≤ 5 := by
  cases type <;> simp [getShipLength]

theorem getShipLength_of_mem {type : ShipType} (listed : type ∈ ShipType.all) :
    2 ≤ getShipLength type := by
  simp only [ShipType.all, List.mem_cons, List.not_mem_nil, or_false] at listed
  rcases listed with rfl | rfl | rfl | rfl | rfl <;> simp [getShipLength]

structure Coordinate where
  row : Int8
  col : Int8
deriving DecidableEq, Repr

structure Ship where
  type : UInt8
  orientation : UInt8
  position : Coordinate
  length : UInt8
  hits : UInt8
  isSunk : Bool
deriving DecidableEq, Repr

/-- The record `memset` leaves. -/
def Ship.zero : Ship := ⟨0, 0, ⟨0, 0⟩, 0, 0, false⟩

def Ship.shipType (ship : Ship) : ShipType := .ofInt ship.type.toNat

def Ship.direction (ship : Ship) : Orientation := .ofInt ship.orientation.toNat

end Battleship
