import Battleship.ServerRuns

/-! How often a match is concluded. That it is over is recorded nowhere but in
its absence from the active matches, so it is concluded at most once as long as
no later pair of placements starts it again. -/

namespace Battleship

open Decimal (Text)

namespace Server

variable (lib : Externals)

/-- Along the run the match is concluded at most once: from then on it is never
active, and nothing more is done or announced on its account. -/
structure ConcludedAtMostOnce (events : List Event) (matchId : MatchId) : Prop where
  once : ((after lib events).endings matchId).length ≤ 1
  final : ∀ before between rest, events = before ++ (between ++ rest) →
    (after lib before).endings matchId ≠ [] →
    (after lib (before ++ between)).getMatch matchId = none ∧
      Quiet matchId (after lib before) (after lib (before ++ between))

def NeverRestarted (events : List Event) (matchId : MatchId) : Prop :=
  Machine.Respects (step lib) (fun server event => server.endings matchId ≠ [] →
    ¬server.CompletesPlacement event matchId) init events

theorem CompletesPlacement.activates {server : Server} (good : server.WellFormed) {event : Event}
    {matchId : MatchId} (completes : server.CompletesPlacement event matchId) :
    ((server.step lib event).getMatch matchId).isSome = true := by
  obtain ⟨token, ships, handled, accepted, complete⟩ := completes
  obtain ⟨conn, client, _, _, stepped⟩ := handled.step_eq lib
  obtain ⟨row, found, ready1, ready2⟩ := (placementSaved_completes event.env server token matchId
    ships client.socketFd (server.sessionUser event.env token)).mpr complete
  rw [stepped]
  simp only [routeMessage]
  rw [handleShipPlacement_accepted event.env good client.socketFd accepted,
    placementReady_complete event.env _ matchId _ found ready1 ready2, activateMatch_getMatch,
    if_pos rfl]
  rfl

section Steps

variable {server : Server} {matchId : MatchId} {event : Event}

theorem step_inactive (good : server.WellFormed) (inactive : server.getMatch matchId = none)
    (notStarted : ¬server.CompletesPlacement event matchId) :
    (server.step lib event).getMatch matchId = none ∧
      Quiet matchId server (server.step lib event) := by
  cases step_change lib good event matchId with
  | untouched kept => exact ⟨kept.game.trans inactive, kept.toQuiet⟩
  | restarted _ quiet gone => exact ⟨gone, quiet⟩
  | activated completes _ _ => exact absurd completes notStarted
  | moved was _ _ => simp [inactive] at was
  | concluded game winnerId reason _ done => exact absurd (inactive.symm.trans done.was) (by simp)

theorem step_first_ending (good : server.WellFormed) (running : server.endings matchId = []) :
    (server.step lib event).endings matchId = [] ∨
      ((server.step lib event).endings matchId).length = 1 ∧
        (server.step lib event).getMatch matchId = none := by
  cases step_change lib good event matchId with
  | untouched kept => exact Or.inl (kept.toQuiet.endings.trans running)
  | restarted _ quiet _ => exact Or.inl (quiet.endings.trans running)
  | activated _ quiet _ => exact Or.inl (quiet.endings.trans running)
  | moved _ quiet _ => exact Or.inl (quiet.endings.trans running)
  | concluded game winnerId reason _ done =>
      exact Or.inr ⟨by rw [done.endings, running]; rfl, done.gone⟩

end Steps

variable {lib}

theorem NeverRestarted.ended_inactive {matchId : MatchId} : ∀ {events : List Event},
    NeverRestarted lib events matchId → (after lib events).endings matchId = [] ∨
      ((after lib events).endings matchId).length = 1 ∧
        (after lib events).getMatch matchId = none := by
  intro events
  apply Machine.run_induction (step lib) (motive := fun events =>
    (after lib events).endings matchId = [] ∨ ((after lib events).endings matchId).length = 1 ∧
      (after lib events).getMatch matchId = none) (Or.inl rfl)
  intro before event allowed held
  have good := after_wellFormed lib before
  rw [after_concat]
  rcases held with running | ⟨once, inactive⟩
  · exact step_first_ending lib good running
  · have ended : (after lib before).endings matchId ≠ [] := by
      intro none
      simp [none] at once
    obtain ⟨still, quiet⟩ := step_inactive lib good inactive (allowed ended)
    exact Or.inr ⟨by rw [quiet.endings, once], still⟩

theorem NeverRestarted.stays_quiet {matchId : MatchId} {before : List Event}
    (ended : (after lib before).endings matchId ≠ []) : ∀ {between : List Event},
    NeverRestarted lib (before ++ between) matchId →
      (after lib (before ++ between)).getMatch matchId = none ∧
        Quiet matchId (after lib before) (after lib (before ++ between)) := by
  intro between
  induction between using List.reverseRecOn with
  | nil =>
      intro never
      rw [List.append_nil] at never ⊢
      rcases never.ended_inactive with running | ⟨_, inactive⟩
      · exact absurd running ended
      · exact ⟨inactive, Quiet.refl matchId _⟩
  | append_singleton between event ih =>
      intro never
      rw [← List.append_assoc] at never ⊢
      obtain ⟨inactive, quiet⟩ := ih (Machine.Respects.of_append (step lib) never)
      have still : (after lib (before ++ between)).endings matchId ≠ [] := by
        rwa [quiet.endings]
      obtain ⟨gone, last⟩ := step_inactive lib (after_wellFormed lib (before ++ between))
        inactive (never _ event (Machine.stepOf_last _ event) still)
      rw [after_concat]
      exact ⟨gone, quiet.trans last⟩

variable (lib) in
/-- A match is concluded at most once along a run exactly when no pair of
placements starts it again after its end. -/
theorem concludedAtMostOnce_iff (events : List Event) (matchId : MatchId) :
    ConcludedAtMostOnce lib events matchId ↔ NeverRestarted lib events matchId := by
  constructor
  · intro concluded before event taken ended completes
    obtain ⟨rest, split⟩ := taken
    have inactive := (concluded.final before [event] rest (by simpa using split) ended).1
    have running := completes.activates lib (after_wellFormed lib before)
    rw [after_concat] at inactive
    simp [inactive] at running
  · intro never
    refine ⟨?_, ?_⟩
    · rcases never.ended_inactive with running | ⟨once, _⟩
      · simp [running]
      · exact once.le
    · rintro before between rest rfl ended
      rw [← List.append_assoc] at never
      have early : NeverRestarted lib (before ++ between) matchId := never.of_append
      exact early.stays_quiet ended

end Server

namespace Script

open Server

def resignedTwice : List Event := duel ++ [
  sends 5 alice (.resign 1), sends 6 alice (.shipPlacement 1 rowShips),
  sends 6 bob (.shipPlacement 1 rowShips), sends 7 alice (.resign 1)]

theorem resignedTwice_not_once : ¬ConcludedAtMostOnce lib resignedTwice 1 := by
  intro concluded
  have twice : ((after lib resignedTwice).endings 1).length = 2 := by decide +kernel
  have once := concluded.once
  rw [twice] at once
  simp at once

end Script

end Battleship
