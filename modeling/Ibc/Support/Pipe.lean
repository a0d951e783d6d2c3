import Mathlib.Data.List.Basic

/-!
# A queue whose answers come back in order

Requests go into a queue, are taken out and answered at its other end, and each answer comes back.
`Pipe` is what has happened so far at the three places, and `Pipe.Next` lets each place take only
the next thing from the place before it. Then what was answered is a first part of what was sent,
and what was confirmed a first part of what was answered (`Pipe.InOrder`), and a place that takes
one more thing and stays in order took the next one (`Pipe.Next.of_answer`,
`Pipe.Next.of_confirm`).

That a list is in order is often known by numbers: `List.Numbered` lists carry the numbers from one
on, and of two such lists the one whose entries are entries of the other is a first part of it
(`List.Numbered.prefix_of_subset`).
-/

universe u v

/-- The requests sent, those answered, and those whose answer came back. -/
structure Pipe (α : Type u) (β : Type v) where
  sent : List α
  answered : List (α × β)
  confirmed : List (α × β)
deriving DecidableEq

namespace Pipe

variable {α : Type u} {β : Type v} {p q : Pipe α β}

/-- One thing happens at one of the three places. -/
inductive Next (p : Pipe α β) : Pipe α β → Prop where
  | send (x : α) : Next p { p with sent := p.sent ++ [x] }
  | answer (x : α) (y : β) (h : p.answered.map Prod.fst ++ [x] <+: p.sent) :
      Next p { p with answered := p.answered ++ [(x, y)] }
  | confirm (x : α) (y : β) (h : p.confirmed ++ [(x, y)] <+: p.answered) :
      Next p { p with confirmed := p.confirmed ++ [(x, y)] }

/-- Each place has seen a first part of what the place before it has. -/
structure InOrder (p : Pipe α β) : Prop where
  answered : p.answered.map Prod.fst <+: p.sent
  confirmed : p.confirmed <+: p.answered

theorem Next.of_answer {x : α} {y : β}
    (h : InOrder { p with answered := p.answered ++ [(x, y)] }) :
    Next p { p with answered := p.answered ++ [(x, y)] } :=
  .answer x y (by simpa using h.answered)

theorem Next.of_confirm {x : α} {y : β}
    (h : InOrder { p with confirmed := p.confirmed ++ [(x, y)] }) :
    Next p { p with confirmed := p.confirmed ++ [(x, y)] } :=
  .confirm x y h.confirmed

end Pipe

namespace List

/-- A list grows by what `f` makes of a new entry. -/
theorem filterMap_concat {α : Type u} {β : Type v} (f : α → Option β) (l : List α) (a : α) :
    (l ++ [a]).filterMap f = l.filterMap f ++ (f a).toList := by
  rw [filterMap_append]
  cases h : f a <;> simp [h]

variable {α : Type u} {f : α → ℕ} {l l₁ l₂ : List α} {x : α}

/-- The entries carry the numbers from one on. -/
def Numbered (f : α → ℕ) (l : List α) : Prop := l.map f = range' 1 l.length

theorem Numbered.concat (h : Numbered f l) (hx : f x = l.length + 1) : Numbered f (l ++ [x]) := by
  rw [Numbered, map_append, h, length_append, length_singleton, range'_concat, map_singleton, hx,
    Nat.one_mul, Nat.add_comm 1]

theorem Numbered.getElem (h : Numbered f l) {i : ℕ} (hi : i < l.length) : f l[i] = i + 1 := by
  have hmap := congrArg (·[i]?) h
  simp only [getElem?_map, getElem?_eq_getElem hi, Option.map_some] at hmap
  rw [getElem?_range' (by simpa using hi), Option.some.injEq] at hmap
  omega

/-- Numbers fix the places, so entries in common are in the same places. -/
theorem Numbered.prefix_of_subset (h₁ : Numbered f l₁) (h₂ : Numbered f l₂)
    (hsub : ∀ x ∈ l₁, x ∈ l₂) : l₁ <+: l₂ := by
  refine prefix_iff_getElem?.mpr fun i hi => ?_
  obtain ⟨j, hj, hx⟩ := getElem_of_mem (hsub _ (getElem_mem hi))
  have hplace : i = j := by
    have := h₁.getElem hi
    have := h₂.getElem hj
    rw [hx] at this
    omega
  subst hplace
  rw [getElem?_eq_getElem hj, hx]

end List
