import Battleship.GamesInvariant

/-! The life of one match under the operations of the gameplay handler: which
of them touch it, start it or conclude it. -/

namespace Battleship

open Decimal (Text)

def MatchEffect.ending? : MatchEffect → Option (UserId × MatchEndReason)
  | concluded _ winnerId reason => some (winnerId, reason)
  | _ => none

namespace Server

def effectsOf (server : Server) (matchId : MatchId) : List MatchEffect :=
  server.journal.filter fun effect => effect.matchId = matchId

def endings (server : Server) (matchId : MatchId) : List (UserId × MatchEndReason) :=
  (server.effectsOf matchId).filterMap MatchEffect.ending?

structure Quiet (matchId : MatchId) (server later : Server) : Prop where
  effects : later.effectsOf matchId = server.effectsOf matchId
  matchEnds : later.net.matchEnds matchId = server.net.matchEnds matchId

structure Untouched (matchId : MatchId) (server later : Server) : Prop extends
    Quiet matchId server later where
  game : later.getMatch matchId = server.getMatch matchId

structure Concludes (matchId : MatchId) (game : MatchState) (winnerId : UserId)
    (reason : MatchEndReason) (server later : Server) : Prop where
  was : server.getMatch matchId = some game
  gone : later.getMatch matchId = none
  endings : later.endings matchId = server.endings matchId ++ [(winnerId, reason)]

theorem Quiet.refl (matchId : MatchId) (server : Server) : Quiet matchId server server := ⟨rfl, rfl⟩

theorem Quiet.trans {matchId : MatchId} {first second third : Server}
    (early : Quiet matchId first second) (late : Quiet matchId second third) :
    Quiet matchId first third :=
  ⟨late.effects.trans early.effects, late.matchEnds.trans early.matchEnds⟩

theorem Quiet.endings {matchId : MatchId} {server later : Server}
    (quiet : Quiet matchId server later) : later.endings matchId = server.endings matchId := by
  rw [Server.endings, Server.endings, quiet.effects]

theorem Untouched.refl (matchId : MatchId) (server : Server) : Untouched matchId server server :=
  ⟨Quiet.refl matchId server, rfl⟩

theorem Untouched.trans {matchId : MatchId} {first second third : Server}
    (early : Untouched matchId first second) (late : Untouched matchId second third) :
    Untouched matchId first third :=
  ⟨early.toQuiet.trans late.toQuiet, late.game.trans early.game⟩

theorem KeepsMatches.untouched {server later : Server} (kept : server.KeepsMatches later)
    (matchId : MatchId) : Untouched matchId server later where
  effects := by rw [effectsOf, effectsOf, kept.journal]
  matchEnds := kept.matchEnds matchId
  game := by rw [getMatch, getMatch, kept.games]

theorem Untouched.concludes {matchId : MatchId} {game : MatchState} {winnerId : UserId}
    {reason : MatchEndReason} {first second third : Server} (early : Untouched matchId first second)
    (late : Concludes matchId game winnerId reason second third) :
    Concludes matchId game winnerId reason first third :=
  ⟨early.game ▸ late.was, late.gone, by rw [late.endings, early.toQuiet.endings]⟩

theorem Concludes.untouched {matchId : MatchId} {game : MatchState} {winnerId : UserId}
    {reason : MatchEndReason} {first second third : Server}
    (early : Concludes matchId game winnerId reason first second)
    (late : Untouched matchId second third) :
    Concludes matchId game winnerId reason first third :=
  ⟨early.was, late.game.trans early.gone, by rw [late.toQuiet.endings, early.endings]⟩

theorem effectsOf_of_other {server later : Server} {added : List MatchEffect} {matchId : MatchId}
    (journal : later.journal = server.journal ++ added)
    (other : ∀ effect ∈ added, effect.matchId ≠ matchId) :
    later.effectsOf matchId = server.effectsOf matchId := by
  have none : added.filter (fun effect => effect.matchId = matchId) = [] := by
    rw [List.filter_eq_nil_iff]
    exact fun effect member => by simpa using other effect member
  rw [effectsOf, effectsOf, journal, List.filter_append, none, List.append_nil]

theorem endings_of_added {server later : Server} {added : List MatchEffect} {matchId : MatchId}
    (journal : later.journal = server.journal ++ added)
    (same : ∀ effect ∈ added, effect.matchId = matchId) :
    later.endings matchId = server.endings matchId ++ added.filterMap MatchEffect.ending? := by
  have all : added.filter (fun effect => effect.matchId = matchId) = added := by
    rw [List.filter_eq_self]
    exact fun effect member => by simpa using same effect member
  rw [endings, endings, effectsOf, effectsOf, journal, List.filter_append, all,
    List.filterMap_append]

def EndsOnly (matchId : MatchId) (message : Sent) : Prop :=
  ∀ ended, message.payload.endedMatch? = some ended → ended = matchId

theorem NoMatchEnd.endsOnly {message : Sent} (none : NoMatchEnd message) (matchId : MatchId) :
    EndsOnly matchId message := by
  intro ended named
  simp only [NoMatchEnd] at none
  simp [none] at named

theorem matchEnds_of_endsOnly {server later : Server} {matchId other : MatchId}
    (transmits : server.net.Transmits (EndsOnly matchId) later.net) (different : matchId ≠ other) :
    later.net.matchEnds other = server.net.matchEnds other :=
  (transmits.mono fun _ only named => different (only other named).symm).matchEnds

section Ending

variable (lib : Externals) (env : Env) (matchId : MatchId) (server : Server)

section SendMatchEnd

variable (player1Id player2Id winnerId : UserId) (reason : MatchEndReason) (reasonText : String)
  (totalMoves : Int) (duration : Nat)

theorem sendMatchEnd_transmits :
    server.net.Transmits (EndsOnly matchId) (server.sendMatchEnd lib env matchId player1Id player2Id
      winnerId reason reasonText totalMoves duration).net := by
  have permitted (message : Sent) (ended : message.payload.endedMatch? = some matchId) :
      EndsOnly matchId message := fun other named => Option.some.inj (named.symm.trans ended)
  unfold sendMatchEnd
  dsimp only
  exact (sendToPlayer_transmits env (((server.announceEnd matchId winnerId reason).updateEloRating
    matchId player1Id _).updateEloRating matchId player2Id _) fun _ => permitted _ rfl).trans
    (sendToPlayer_transmits env _ fun _ => permitted _ rfl)

def ratings : Int × Int :=
  newElos lib player1Id player2Id winnerId (server.oldElo player1Id) (server.oldElo player2Id)

theorem sendMatchEnd_journal :
    (server.sendMatchEnd lib env matchId player1Id player2Id winnerId reason reasonText totalMoves
      duration).journal = server.journal ++ [.concluded matchId winnerId reason,
        .eloUpdated matchId player1Id (server.ratings lib player1Id player2Id winnerId).1,
        .eloUpdated matchId player2Id (server.ratings lib player1Id player2Id winnerId).2] := by
  simp only [sendMatchEnd, sendToPlayer, updateEloRating, announceEnd, ratings, List.append_assoc,
    List.cons_append, List.nil_append]

theorem sendMatchEnd_db :
    server.db.Sound (server.sendMatchEnd lib env matchId player1Id player2Id winnerId reason
      reasonText totalMoves duration).db :=
  (Database.sound_updateEloRating player1Id _).trans (Database.sound_updateEloRating player2Id _)

end SendMatchEnd

variable (game : MatchState) (winnerId : UserId) (reason : MatchEndReason) (reasonText : String)

theorem finishMatch_journal : ∃ newElo1 newElo2,
    (server.finishMatch lib env matchId game winnerId reason reasonText).journal =
      server.journal ++ [.concluded matchId winnerId reason,
        .eloUpdated matchId game.player1Id newElo1, .eloUpdated matchId game.player2Id newElo2,
        .recorded matchId winnerId] := by
  refine ⟨(server.ratings lib game.player1Id game.player2Id winnerId).1,
    (server.ratings lib game.player1Id game.player2Id winnerId).2, ?_⟩
  simp only [finishMatch, removeMatch, updatePlayerStatus, broadcastIf, endMatch,
    sendMatchEnd_journal, List.append_assoc, List.cons_append, List.nil_append]

theorem finishMatch_db :
    server.db.Sound (server.finishMatch lib env matchId game winnerId reason reasonText).db :=
  (sendMatchEnd_db ..).trans (Database.sound_endMatch ..)

theorem finishMatch_transmits : server.net.Transmits (EndsOnly matchId)
    (server.finishMatch lib env matchId game winnerId reason reasonText).net := by
  let announced := server.sendMatchEnd lib env matchId game.player1Id game.player2Id winnerId reason
    reasonText game.moveHistory.length (secondsSince env.now game.startTime)
  have sent : server.net.Transmits (EndsOnly matchId) announced.net := sendMatchEnd_transmits ..
  have released := ((KeepsMatches.refl (announced.endMatch env matchId winnerId)).updatePlayerStatus
    env game.player1Id .available).updatePlayerStatus env game.player2Id .available
  exact sent.trans (released.net.mono fun _ none => NoMatchEnd.endsOnly none matchId)

theorem finishMatch_untouched {other : MatchId} (different : matchId ≠ other) :
    Untouched other server
      (server.finishMatch lib env matchId game winnerId reason reasonText) := by
  obtain ⟨newElo1, newElo2, journal⟩ :=
    finishMatch_journal lib env matchId server game winnerId reason reasonText
  refine ⟨⟨effectsOf_of_other journal ?_, ?_⟩, ?_⟩
  · simp [MatchEffect.matchId, different]
  · exact matchEnds_of_endsOnly
      (finishMatch_transmits lib env matchId server game winnerId reason reasonText) different
  · exact Table.lookup_erase_ne _ different

theorem finishMatch_concludes (was : server.getMatch matchId = some game) :
    Concludes matchId game winnerId reason server
      (server.finishMatch lib env matchId game winnerId reason reasonText) := by
  obtain ⟨newElo1, newElo2, journal⟩ :=
    finishMatch_journal lib env matchId server game winnerId reason reasonText
  refine ⟨was, ?_, ?_⟩
  · exact (Table.lookup_erase _ matchId matchId).trans (if_pos rfl)
  · rw [endings_of_added journal (by simp [MatchEffect.matchId])]
    rfl

theorem finishMatch_wellFormed (good : server.WellFormed) :
    (server.finishMatch lib env matchId game winnerId reason reasonText).WellFormed := by
  obtain ⟨db, grows⟩ :=
    (finishMatch_db lib env matchId server game winnerId reason reasonText).keeps good.db
  exact ⟨db, (good.games.grows good.db grows).removeMatch matchId, good.challenges⟩

end Ending

section Disconnect

variable (lib : Externals) (env : Env) (userId : UserId) (server : Server)

theorem abandonMatch_of_none {matchId : MatchId} (absent : server.getMatch matchId = none) :
    server.abandonMatch lib env userId matchId = server := by
  simp [abandonMatch, absent]

variable {game : MatchState}

theorem abandonMatch_of_some {matchId : MatchId} (was : server.getMatch matchId = some game) :
    ∃ duration, server.abandonMatch lib env userId matchId =
      (((server.endMatch env matchId (game.opponent userId)).sendMatchEnd lib env matchId
        game.player1Id game.player2Id (game.opponent userId) .disconnect "Opponent disconnected"
        game.turnNumber duration).removeMatch matchId).updatePlayerStatus env
        (game.opponent userId) .available := by
  refine ⟨if game.startTime > 0 then secondsSince env.now game.startTime else 0, ?_⟩
  simp only [abandonMatch, was]

theorem abandonMatch_journal {matchId : MatchId} (was : server.getMatch matchId = some game) :
    ∃ newElo1 newElo2, (server.abandonMatch lib env userId matchId).journal =
      server.journal ++ [.recorded matchId (game.opponent userId),
        .concluded matchId (game.opponent userId) .disconnect,
        .eloUpdated matchId game.player1Id newElo1, .eloUpdated matchId game.player2Id newElo2] := by
  obtain ⟨duration, shape⟩ := abandonMatch_of_some lib env userId server was
  let recorded := server.endMatch env matchId (game.opponent userId)
  refine ⟨(recorded.ratings lib game.player1Id game.player2Id (game.opponent userId)).1,
    (recorded.ratings lib game.player1Id game.player2Id (game.opponent userId)).2, ?_⟩
  rw [shape]
  simp only [updatePlayerStatus, broadcastIf, removeMatch, sendMatchEnd_journal, recorded, endMatch,
    List.append_assoc, List.cons_append, List.nil_append]

theorem abandonMatch_db (matchId : MatchId) :
    server.db.Sound (server.abandonMatch lib env userId matchId).db := by
  cases was : server.getMatch matchId with
  | none =>
      rw [abandonMatch_of_none lib env userId server was]
      exact Database.Sound.refl _
  | some game =>
      obtain ⟨duration, shape⟩ := abandonMatch_of_some lib env userId server was
      rw [shape]
      have announced := sendMatchEnd_db lib env matchId (server.endMatch env matchId
        (game.opponent userId)) game.player1Id game.player2Id (game.opponent userId) .disconnect
        "Opponent disconnected" game.turnNumber duration
      exact (Database.sound_endMatch env.now matchId (game.opponent userId)).trans announced

theorem abandonMatch_transmits (matchId : MatchId) : server.net.Transmits (EndsOnly matchId)
    (server.abandonMatch lib env userId matchId).net := by
  cases was : server.getMatch matchId with
  | none =>
      rw [abandonMatch_of_none lib env userId server was]
      exact Network.Transmits.refl _
  | some game =>
      obtain ⟨duration, shape⟩ := abandonMatch_of_some lib env userId server was
      rw [shape]
      let announced := (server.endMatch env matchId (game.opponent userId)).sendMatchEnd lib env
        matchId game.player1Id game.player2Id (game.opponent userId) .disconnect
        "Opponent disconnected" game.turnNumber duration
      have sent : server.net.Transmits (EndsOnly matchId) announced.net :=
        sendMatchEnd_transmits lib env matchId (server.endMatch env matchId _) ..
      have released := (KeepsMatches.refl (announced.removeMatch matchId)).updatePlayerStatus env
        (game.opponent userId) .available
      exact sent.trans (released.net.mono fun _ none => NoMatchEnd.endsOnly none matchId)

theorem abandonMatch_untouched {matchId other : MatchId} (different : matchId ≠ other) :
    Untouched other server (server.abandonMatch lib env userId matchId) := by
  cases was : server.getMatch matchId with
  | none =>
      rw [abandonMatch_of_none lib env userId server was]
      exact Untouched.refl other server
  | some game =>
      obtain ⟨newElo1, newElo2, journal⟩ := abandonMatch_journal lib env userId server was
      refine ⟨⟨effectsOf_of_other journal ?_, ?_⟩, ?_⟩
      · simp [MatchEffect.matchId, different]
      · exact matchEnds_of_endsOnly (abandonMatch_transmits lib env userId server matchId) different
      · obtain ⟨duration, shape⟩ := abandonMatch_of_some lib env userId server was
        rw [shape]
        exact Table.lookup_erase_ne _ different

theorem abandonMatch_concludes {matchId : MatchId} (was : server.getMatch matchId = some game) :
    Concludes matchId game (game.opponent userId) .disconnect server
      (server.abandonMatch lib env userId matchId) := by
  obtain ⟨newElo1, newElo2, journal⟩ := abandonMatch_journal lib env userId server was
  refine ⟨was, ?_, ?_⟩
  · obtain ⟨duration, shape⟩ := abandonMatch_of_some lib env userId server was
    rw [shape]
    exact (Table.lookup_erase _ matchId matchId).trans (if_pos rfl)
  · rw [endings_of_added journal (by simp [MatchEffect.matchId])]
    rfl

theorem abandonMatch_wellFormed (matchId : MatchId) (good : server.WellFormed) :
    (server.abandonMatch lib env userId matchId).WellFormed := by
  obtain ⟨db, grows⟩ := (abandonMatch_db lib env userId server matchId).keeps good.db
  cases was : server.getMatch matchId with
  | none =>
      rw [abandonMatch_of_none lib env userId server was]
      exact good
  | some game =>
      obtain ⟨duration, shape⟩ := abandonMatch_of_some lib env userId server was
      rw [shape] at db grows ⊢
      exact ⟨db, (good.games.grows good.db grows).removeMatch matchId, good.challenges⟩

end Disconnect

end Server

end Battleship
