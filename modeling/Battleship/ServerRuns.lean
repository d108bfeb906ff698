import Battleship.PlacementCheck
import Battleship.ServerInvariant

/-! Runs of the server: what was done on account of a match is never undone, and
a handled message is one call of `routeMessage`. The run at the end takes two
players through a challenge and their placements; runs that break a promise of
the server extend it. -/

namespace Battleship

open Decimal (Text)

namespace Server

variable (lib : Externals)

theorem Handles.step_eq {server : Server} {event : Event} {token : Text} {request : Request}
    (handled : server.Handles event token request) :
    ∃ conn client, event.action = .message conn token request ∧
      server.net.connections[conn]? = some client ∧
      server.step lib event = server.routeMessage lib event.env conn client token request := by
  obtain ⟨conn, client, acted, known, serving, connected⟩ := handled
  refine ⟨conn, client, acted, known, ?_⟩
  simp only [step, acted, known, serving, connected, and_self, if_true]

abbrev after (events : List Event) : Server := Machine.exec (step lib) init events

theorem after_reachable (events : List Event) : (after lib events).Reachable lib := ⟨events, rfl⟩

theorem after_wellFormed (events : List Event) : (after lib events).WellFormed :=
  (after_reachable lib events).wellFormed

theorem after_concat (events : List Event) (event : Event) :
    after lib (events ++ [event]) = (after lib events).step lib event := by
  simp [after]

def isLive (server : Server) (conn : ConnId) : Bool :=
  server.net.connections[conn]?.any fun client => client.serving && client.socketFd.isSome

theorem handles_of_isLive {server : Server} {conn : ConnId} (live : server.isLive conn = true)
    (env : Env) (token : Text) (request : Request) :
    server.Handles ⟨env, .message conn token request⟩ token request := by
  simp only [isLive, Option.any_eq_true, Bool.and_eq_true] at live
  obtain ⟨client, known, serving, connected⟩ := live
  exact ⟨conn, client, rfl, known, serving, connected⟩

end Server

/-! ### Two players and a bystander -/

namespace Script

open Server

def hex (value : Nat) : Text := Nat.toDigits 16 value

def salt : Text := hex 0xf0e1d2c3b4a5968778695a4b3c2d1e0f

def sha256 (text : Text) : Text :=
  if text = salt ++ "alice-pw".toList then
    hex 0xffc8f11a08e744a9359a4a61269bb1067c2a6a78c078ca32bcabe9d061f3ada2
  else if text = salt ++ "bob-pw".toList then
    hex 0xf8a7ea2dcf07cc04486388530f0d2c13ea209ff6d6b583f9800c20afa6ff95ee
  else if text = salt ++ "carol-pw".toList then
    hex 0xa51eecc2fb22d3ed49db8ed06e1400bb9fa9db2a6e00262ce6895ff96a1a452f
  else []

def computeElo (own _other : Int) : GameResult → Int
  | .win => own + 15
  | .loss => own - 15
  | .draw => own

def lib : Externals := ⟨sha256, computeElo⟩

def start : Nat := 1700000000

/-- At the seconds used here the first player drawn is `player1`. -/
def env (second : Nat) : Env where
  now := start + second
  coin := true
  salt := salt
  tokenSuffix := hex 0xa0112233445566778899aabbccddeeff
  broken := []

def token (userId : UserId) : Text := generateSessionToken (env 0) userId

def sends (second : Nat) (userId : UserId) (request : Request) : Event :=
  ⟨env second, .message (userId - 1) (token userId) request⟩

def alice : UserId := 1
def bob : UserId := 2
def carol : UserId := 3

def lobby : List Event := [
  ⟨env 0, .accept 5⟩, ⟨env 0, .accept 6⟩, ⟨env 0, .accept 7⟩,
  sends 0 alice (.register "alice".toList "alice-pw".toList "Alice".toList),
  sends 0 bob (.register "bob".toList "bob-pw".toList "Bob".toList),
  sends 0 carol (.register "carol".toList "carol-pw".toList "Carol".toList),
  sends 1 alice (.login "alice".toList "alice-pw".toList),
  sends 1 bob (.login "bob".toList "bob-pw".toList),
  sends 1 carol (.login "carol".toList "carol-pw".toList)]

def paired : List Event := lobby ++ [
  sends 2 alice (.challengeSend bob 60 false), sends 3 bob (.challengeResponse 1 true)]

def duel : List Event := paired ++ [
  sends 4 alice (.shipPlacement 1 rowShips), sends 4 bob (.shipPlacement 1 rowShips)]

example : ((after lib duel).getMatch 1).map MatchState.currentTurnPlayerId = some alice := by
  decide +kernel

end Script

end Battleship
