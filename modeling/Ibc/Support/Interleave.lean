import Mathlib.Data.List.Basic

/-!
# Two machines side by side

Two machines take steps in any interleaving. What one of them can do may depend on the states the
other has been in, so a machine may act on what was true of the other long ago. `Duo` holds the two
present states and all past ones; `Duo.System.Reachable` are the pairs that runs lead to.

* `Reachable.swap`: the two machines play the same role, so a result for one is a result for both.
* `Reachable.lefts_invariant`, `Reachable.left_of_mem`: what a machine's own steps keep.
* **`Reachable.attested`**: the rule for claims made on the strength of the other machine's past.
  If no claim is made at first, if a step makes a new claim only when its fact was true of the other
  machine at some time, and if facts stay true, then the fact of every claim ever made is true now.
-/

universe u v w

/-- Two machines, each with the states it was in before, the latest first. -/
structure Duo (α : Type u) (β : Type v) where
  left : α
  right : β
  leftPast : List α
  rightPast : List β

namespace Duo

variable {α : Type u} {β : Type v}

/-- The states the left machine was ever in. -/
def lefts (w : Duo α β) : List α := w.left :: w.leftPast

/-- The states the right machine was ever in. -/
def rights (w : Duo α β) : List β := w.right :: w.rightPast

def swap (w : Duo α β) : Duo β α := ⟨w.right, w.left, w.rightPast, w.leftPast⟩

def moveLeft (w : Duo α β) (a : α) : Duo α β := { w with left := a, leftPast := w.lefts }

def moveRight (w : Duo α β) (b : β) : Duo α β := { w with right := b, rightPast := w.rights }

@[simp] theorem left_mem_lefts (w : Duo α β) : w.left ∈ w.lefts := List.mem_cons_self

@[simp] theorem right_mem_rights (w : Duo α β) : w.right ∈ w.rights := List.mem_cons_self

theorem mem_lefts_moveLeft {w : Duo α β} {a a' : α} :
    a' ∈ (w.moveLeft a).lefts ↔ a' = a ∨ a' ∈ w.lefts := List.mem_cons

/-- Where two machines may start, and how each steps, given the states the other was ever in. -/
structure System (α : Type u) (β : Type v) where
  startLeft : α → Prop
  startRight : β → Prop
  stepLeft : List β → α → α → Prop
  stepRight : List α → β → β → Prop

namespace System

def swap (S : System α β) : System β α := ⟨S.startRight, S.startLeft, S.stepRight, S.stepLeft⟩

/-- The pairs that some interleaving of steps leads to. -/
inductive Reachable (S : System α β) : Duo α β → Prop where
  | start {a : α} {b : β} (ha : S.startLeft a) (hb : S.startRight b) : Reachable S ⟨a, b, [], []⟩
  | left {w : Duo α β} {a : α} (hw : Reachable S w) (hs : S.stepLeft w.rights w.left a) :
      Reachable S (w.moveLeft a)
  | right {w : Duo α β} {b : β} (hw : Reachable S w) (hs : S.stepRight w.lefts w.right b) :
      Reachable S (w.moveRight b)

namespace Reachable

variable {S T : System α β} {w : Duo α β}

theorem swap (h : S.Reachable w) : S.swap.Reachable w.swap := by
  induction h with
  | start ha hb => exact .start hb ha
  | left _ hs ih => exact .right ih hs
  | right _ hs ih => exact .left ih hs

/-- A step of the left machine, of a pair that is written out. -/
theorem step_left {a a' : α} {b : β} {as : List α} {bs : List β} (h : S.Reachable ⟨a, b, as, bs⟩)
    (hs : S.stepLeft (b :: bs) a a') : S.Reachable ⟨a', b, a :: as, bs⟩ := h.left hs

theorem step_right {a : α} {b b' : β} {as : List α} {bs : List β} (h : S.Reachable ⟨a, b, as, bs⟩)
    (hs : S.stepRight (a :: as) b b') : S.Reachable ⟨a, b', as, b :: bs⟩ := h.right hs

/-- A system with more starts and more steps reaches more. -/
theorem mono (h : S.Reachable w) (hl : ∀ a, S.startLeft a → T.startLeft a)
    (hr : ∀ b, S.startRight b → T.startRight b)
    (hsl : ∀ seen a a', S.stepLeft seen a a' → T.stepLeft seen a a')
    (hsr : ∀ seen b b', S.stepRight seen b b' → T.stepRight seen b b') : T.Reachable w := by
  induction h with
  | start ha hb => exact .start (hl _ ha) (hr _ hb)
  | left _ hs ih => exact .left ih (hsl _ _ _ hs)
  | right _ hs ih => exact .right ih (hsr _ _ _ hs)

/-- What a machine's steps keep holds in every state it was ever in. -/
theorem lefts_invariant {I : α → Prop} (h : S.Reachable w) (start : ∀ a, S.startLeft a → I a)
    (step : ∀ seen a a', S.stepLeft seen a a' → I a → I a') : ∀ a ∈ w.lefts, I a := by
  induction h with
  | start ha hb =>
    intro a ha'
    rw [List.mem_singleton.mp ha']
    exact start _ ha
  | @left w a' _ hs ih =>
    intro a ha
    obtain rfl | ha := mem_lefts_moveLeft.mp ha
    · exact step _ _ _ hs (ih _ w.left_mem_lefts)
    · exact ih a ha
  | right _ _ ih => exact ih

/-- A relation that a machine's steps extend leads from each state it was ever in to the present
one. -/
theorem left_of_mem {P : α → α → Prop} (h : S.Reachable w) (refl : ∀ a, P a a)
    (step : ∀ seen a b c, P a b → S.stepLeft seen b c → P a c) : ∀ a ∈ w.lefts, P a w.left := by
  induction h with
  | start ha hb =>
    intro a ha'
    rw [List.mem_singleton.mp ha']
    exact refl _
  | left _ hs ih =>
    intro a ha
    obtain rfl | ha := mem_lefts_moveLeft.mp ha
    · exact refl _
    · exact step _ _ _ _ (ih a ha) hs
  | right _ _ ih => exact ih

/-- A fact that the right machine's steps keep, once true, is true now. -/
theorem right_kept {F : β → Prop} (h : S.Reachable w)
    (keeps : ∀ w b, S.Reachable w → S.stepRight w.lefts w.right b → F w.right → F b) :
    ∀ b ∈ w.rights, F b → F w.right := by
  induction h with
  | start ha hb =>
    intro b hb' hF
    rwa [List.mem_singleton.mp hb'] at hF
  | left _ _ ih => exact ih
  | right hw hs ih =>
    intro b hb hF
    rcases List.mem_cons.mp hb with rfl | hb
    · exact hF
    · exact keeps _ _ hw hs (ih b hb hF)

/-- **Claims made on the strength of the other machine's past.** -/
theorem attested {ι : Type w} {C : α → ι → Prop} {F : β → ι → Prop} (h : S.Reachable w)
    (start : ∀ a x, S.startLeft a → ¬ C a x)
    (claims : ∀ w a x, S.Reachable w → S.stepLeft w.rights w.left a → C a x →
      C w.left x ∨ ∃ b ∈ w.rights, F b x)
    (keeps : ∀ w b x, S.Reachable w → S.stepRight w.lefts w.right b → F w.right x → F b x)
    {a : α} {x : ι} (ha : a ∈ w.lefts) (hc : C a x) : F w.right x := by
  induction h generalizing a with
  | start hl hr =>
    rw [List.mem_singleton.mp ha] at hc
    exact absurd hc (start _ x hl)
  | @left w a' hw hs ih =>
    obtain rfl | ha := mem_lefts_moveLeft.mp ha
    · obtain hc | ⟨b, hb, hF⟩ := claims w _ x hw hs hc
      · exact ih w.left_mem_lefts hc
      · have hnow : F w.right x :=
          hw.right_kept (F := (F · x)) (fun w b hw hs => keeps w b x hw hs) b hb hF
        exact hnow
    · exact ih ha hc
  | right hw hs ih => exact keeps _ _ x hw hs (ih ha hc)

end Reachable

end System

end Duo
