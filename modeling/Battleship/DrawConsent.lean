import Battleship.MatchConclusion

/-! Agreed draws. The handler keeps no offers, so an agreed draw is one by mutual
consent only as long as the clients answer no offer that was not made. -/

namespace Battleship

open Decimal (Text)

namespace Server

section Offers

variable (lib : Externals) (matchId : MatchId)

def Offers (userId : UserId) (server : Server) (event : Event) : Prop :=
  (server.getMatch matchId).isSome = true ∧ ∃ token,
    server.Handles event token (.drawOffer matchId) ∧
      server.sessionUser event.env token = userId

def SameActivation (server : Server) (event : Event) : Prop :=
  (server.getMatch matchId).isSome = true ∧
    ((server.step lib event).getMatch matchId).isSome = true ∧
    ¬server.CompletesPlacement event matchId

def OfferedBefore (before : List Event) (userId : UserId) : Prop :=
  ∃ early offer between, before = early ++ offer :: between ∧
    Offers matchId userId (after lib early) offer ∧
    Machine.Respects (step lib) (SameActivation lib matchId) (after lib (early ++ [offer])) between

def Consented (before : List Event) (event : Event) : Prop :=
  ∃ (game : MatchState) (offerer responder : UserId) (token : Text),
    (after lib before).getMatch matchId = some game ∧
    (responder = game.player1Id ∧ offerer = game.player2Id ∨
      responder = game.player2Id ∧ offerer = game.player1Id) ∧
    OfferedBefore lib matchId before offerer ∧
    (after lib before).Handles event token (.drawResponse matchId true) ∧
    (after lib before).sessionUser event.env token = responder

def DrawsByConsent (events : List Event) : Prop :=
  ∀ before event winnerId, Machine.StepOf events before event →
    ((after lib before).step lib event).endings matchId =
      (after lib before).endings matchId ++ [(winnerId, .drawAgreed)] →
    Consented lib matchId before event

/-- The step is no acceptance of a draw, or it comes from a player of the active
match; `opened` holds of the offer that it answers. -/
def AnswersOffer (opened : UserId → Prop) (server : Server) (event : Event) : Prop :=
  ∀ token game, server.Handles event token (.drawResponse matchId true) →
    server.getMatch matchId = some game → server.sessionUser event.env token ≠ 0 →
    (server.sessionUser event.env token = game.player1Id ∧ opened game.player2Id) ∨
      (server.sessionUser event.env token = game.player2Id ∧ opened game.player1Id)

def AnswersOffers (events : List Event) : Prop :=
  ∀ before event, Machine.StepOf events before event →
    AnswersOffer matchId (fun userId => Machine.Since (step lib) (Offers matchId userId)
      (SameActivation lib matchId) init before) (after lib before) event

end Offers

variable {lib : Externals} {matchId : MatchId}

theorem offeredBefore_iff {before : List Event} {userId : UserId} :
    Machine.Since (step lib) (Offers matchId userId) (SameActivation lib matchId) init before ↔
      OfferedBefore lib matchId before userId :=
  Machine.since_iff (step lib)

theorem Handles.token_unique {server : Server} {event : Event} {token other : Text}
    {request another : Request} (handled : server.Handles event token request)
    (again : server.Handles event other another) : token = other ∧ request = another := by
  obtain ⟨conn, client, acted, _⟩ := handled
  obtain ⟨conn', client', acted', _⟩ := again
  rw [acted] at acted'
  simp only [Action.message.injEq] at acted'
  exact acted'.2

theorem step_drawAgreed {server : Server} (good : server.WellFormed) {event : Event}
    {winnerId : UserId} (drawn : (server.step lib event).endings matchId =
      server.endings matchId ++ [(winnerId, .drawAgreed)]) :
    ∃ game token, server.getMatch matchId = some game ∧
      server.Handles event token (.drawResponse matchId true) ∧
      server.sessionUser event.env token ≠ 0 := by
  have unchanged (same : (server.step lib event).endings matchId = server.endings matchId) :
      False := by simp [same] at drawn
  cases step_change lib good event matchId with
  | untouched kept => exact (unchanged kept.toQuiet.endings).elim
  | restarted _ quiet _ => exact (unchanged quiet.endings).elim
  | activated _ quiet _ => exact (unchanged quiet.endings).elim
  | moved _ quiet _ => exact (unchanged quiet.endings).elim
  | concluded game winner reason cause done =>
      have last : [(winner, reason)] = [(winnerId, .drawAgreed)] :=
        List.append_cancel_left (done.endings.symm.trans drawn)
      simp only [List.cons.injEq, Prod.mk.injEq, and_true] at last
      obtain ⟨_, rfl⟩ := last
      obtain ⟨_, token, handled, valid⟩ := cause
      exact ⟨game, token, done.was, handled, valid⟩

variable (lib matchId) in
/-- The draws of a run are agreed by both players exactly when no client accepts
an offer that its opponent has not made in this activation of the match. -/
theorem drawsByConsent_iff (events : List Event) :
    DrawsByConsent lib matchId events ↔ AnswersOffers lib matchId events := by
  constructor
  · intro consent before event taken token game handled active valid
    obtain ⟨conn, client, _, _, stepped⟩ := handled.step_eq lib
    have done : Concludes matchId game 0 .drawAgreed (after lib before)
        ((after lib before).step lib event) := by
      rw [stepped]
      exact handleDrawResponse_concludes lib event.env active valid
    obtain ⟨game', offerer, responder, token', active', seats, offered, handled', sender⟩ :=
      consent before event 0 taken done.endings
    obtain rfl := Option.some.inj (active.symm.trans active')
    obtain ⟨rfl, _⟩ := handled.token_unique handled'
    rcases seats with ⟨player, other⟩ | ⟨player, other⟩
    · exact Or.inl ⟨sender.trans player, offeredBefore_iff.mpr (other ▸ offered)⟩
    · exact Or.inr ⟨sender.trans player, offeredBefore_iff.mpr (other ▸ offered)⟩
  · intro answers before event winnerId taken drawn
    obtain ⟨game, token, active, handled, valid⟩ :=
      step_drawAgreed (after_wellFormed lib before) drawn
    rcases answers before event taken token game handled active valid with
      ⟨player, opened⟩ | ⟨player, opened⟩
    · exact ⟨game, game.player2Id, game.player1Id, token, active, Or.inl ⟨rfl, rfl⟩,
        offeredBefore_iff.mp opened, handled, player⟩
    · exact ⟨game, game.player1Id, game.player2Id, token, active, Or.inr ⟨rfl, rfl⟩,
        offeredBefore_iff.mp opened, handled, player⟩

end Server

namespace Script

open Server

def drawUnasked : Event := sends 5 alice (.drawResponse 1 true)

theorem drawUnasked_without_consent : ¬DrawsByConsent lib 1 (duel ++ [drawUnasked]) := by
  intro consent
  have drawn : ((after lib duel).step lib drawUnasked).endings 1 =
      (after lib duel).endings 1 ++ [(0, .drawAgreed)] := by decide +kernel
  obtain ⟨game, offerer, responder, token, _, _, offered, _⟩ :=
    consent duel drawUnasked 0 (Machine.stepOf_last duel drawUnasked) drawn
  obtain ⟨early, offer, between, split, ⟨_, offerToken, ⟨conn, client, acted, _⟩, _⟩, _⟩ := offered
  have member : offer ∈ duel := split ▸ (by simp)
  have noOffer : ∀ event ∈ duel, ∀ conn token, event.action ≠ .message conn token (.drawOffer 1) := by
    simp [duel, paired, lobby, sends]
  exact noOffer offer member conn offerToken acted

end Script

end Battleship
