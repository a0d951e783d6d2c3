import Mathlib.Data.Option.Basic

/-!
# The delivery of one message

A message is sent, is received and answered at the other side, and its answer comes back; or it is
given up before it is received. `Delivery.Next` has these moves and no others: what was received is
not given up, what was given up is not received, and an answer comes back as it was given.

What is known of a message is often a record of four facts, kept in two places
(`Delivery.Record`). If the record is consistent before and after one of the facts is added, then
its status does not change or makes one of the moves (`Record.status_send` and the lemmas after it).
-/

universe u

/-- How far a message has come; `α` are the answers. -/
inductive Delivery (α : Type u) where
  | unsent
  | inFlight
  | received (answer : α)
  | confirmed (answer : α)
  | timedOut
deriving DecidableEq

namespace Delivery

variable {α : Type u}

/-- The moves of a message. -/
inductive Next : Delivery α → Delivery α → Prop where
  | send : Next .unsent .inFlight
  | receive (answer : α) : Next .inFlight (.received answer)
  | confirm (answer : α) : Next (.received answer) (.confirmed answer)
  | giveUp : Next .inFlight .timedOut

/-- What is known of a message. -/
structure Record (α : Type u) where
  sent : Bool
  answer : Option α
  confirmation : Option α
  timedOut : Bool

namespace Record

variable {r : Record α} {a : α}

def status (r : Record α) : Delivery α :=
  match r.confirmation, r.timedOut, r.answer, r.sent with
  | some a, _, _, _ => .confirmed a
  | none, true, _, _ => .timedOut
  | none, false, some a, _ => .received a
  | none, false, none, true => .inFlight
  | none, false, none, false => .unsent

theorem status_eq_inFlight : r.status = .inFlight ↔
    r.confirmation = none ∧ r.timedOut = false ∧ r.answer = none ∧ r.sent = true := by
  unfold status
  split <;> simp_all

theorem status_eq_received : r.status = .received a ↔
    r.confirmation = none ∧ r.timedOut = false ∧ r.answer = some a := by
  unfold status
  split <;> simp_all

/-- Answers are to messages that were sent, confirmations are of answers, and what was given up was
sent and not answered. -/
structure Consistent (r : Record α) : Prop where
  answered : ∀ a, r.answer = some a → r.sent = true
  confirmed : ∀ a, r.confirmation = some a → r.answer = some a
  givenUp : r.timedOut = true → r.sent = true ∧ r.answer = none

/-- Without an answer there is no confirmation. -/
theorem Consistent.unconfirmed (h : r.Consistent) (ha : r.answer = none) :
    r.confirmation = none := by
  cases hc : r.confirmation with
  | none => rfl
  | some a =>
    rw [h.confirmed a hc] at ha
    cases ha

theorem status_send (h : r.Consistent) :
    { r with sent := true }.status = r.status ∨ r.status.Next { r with sent := true }.status := by
  cases hs : r.sent with
  | true => exact .inl (by rw [← hs])
  | false =>
    have ha : r.answer = none := by
      cases ha : r.answer with
      | none => rfl
      | some a => simp [h.answered a ha] at hs
    have ht : r.timedOut = false := by
      cases ht : r.timedOut with
      | false => rfl
      | true => simp [(h.givenUp ht).1] at hs
    right
    simpa [status, h.unconfirmed ha, ht, ha, hs] using Next.send

theorem status_receive (h : r.Consistent)
    (h' : { r with answer := r.answer.or (some a) }.Consistent) :
    { r with answer := r.answer.or (some a) }.status = r.status ∨
      r.status.Next { r with answer := r.answer.or (some a) }.status := by
  cases ha : r.answer with
  | some b => exact .inl (by simp [status, ha])
  | none =>
    simp only [ha, Option.none_or] at h' ⊢
    have ht : r.timedOut = false := by
      cases ht : r.timedOut with
      | false => rfl
      | true => cases (h'.givenUp ht).2
    have hs : r.sent = true := h'.answered a rfl
    right
    simpa [status, h.unconfirmed ha, ht, ha, hs] using Next.receive a

theorem status_confirm (h : r.Consistent)
    (h' : { r with confirmation := r.confirmation.or (some a) }.Consistent) :
    { r with confirmation := r.confirmation.or (some a) }.status = r.status ∨
      r.status.Next { r with confirmation := r.confirmation.or (some a) }.status := by
  cases hc : r.confirmation with
  | some b => exact .inl (by simp [status, hc])
  | none =>
    simp only [hc, Option.none_or] at h' ⊢
    have ha : r.answer = some a := h'.confirmed a rfl
    have ht : r.timedOut = false := by
      cases ht : r.timedOut with
      | false => rfl
      | true => cases (h.givenUp ht).2.symm.trans ha
    right
    simpa [status, hc, ht, ha] using Next.confirm a

theorem status_giveUp (h' : { r with timedOut := true }.Consistent) :
    { r with timedOut := true }.status = r.status ∨
      r.status.Next { r with timedOut := true }.status := by
  cases ht : r.timedOut with
  | true => exact .inl (by rw [← ht])
  | false =>
    obtain ⟨hs, ha⟩ := h'.givenUp rfl
    have hc : r.confirmation = none := h'.unconfirmed ha
    right
    simpa [status, hc, ht, show r.answer = none from ha, show r.sent = true from hs]
      using Next.giveUp

end Record

end Delivery
