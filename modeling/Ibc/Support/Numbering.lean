import Mathlib.Data.List.Basic

/-!
# Entries numbered by a counter

A store gives its entries names, and each name carries a number taken from a counter that only
moves on. `CountedNames number used next` is what holds of such a store: the names in use carry
numbers below `next`, and no two of them carry the same one. So a name that carries `next` is not
in use (`CountedNames.next_unused`), and using it keeps the numbering (`CountedNames.insert`).

A number at the end of a name is read off behind the last separator (`List.append_cons_inj_last`).
-/

/-- The names in use carry numbers below `next`, each of them once. -/
structure CountedNames {K : Type*} (number : K → ℕ → Prop) (used : K → Prop) (next : ℕ) : Prop where
  below : ∀ k, used k → ∃ n < next, number k n
  unique : ∀ k k' n, used k → used k' → number k n → number k' n → k = k'

namespace CountedNames

variable {K : Type*} {number : K → ℕ → Prop} {used used' : K → Prop} {next next' : ℕ} {k : K}

theorem of_unused (h : ∀ k, ¬ used k) : CountedNames number used next :=
  ⟨fun k hk => absurd hk (h k), fun k _ _ hk => absurd hk (h k)⟩

/-- Names may fall out of use, and numbers be left out. -/
theorem mono (h : CountedNames number used next) (hused : ∀ k, used' k → used k)
    (hle : next ≤ next') : CountedNames number used' next' := by
  refine ⟨fun k hk => ?_, fun k k' n hk hk' => h.unique k k' n (hused k hk) (hused k' hk')⟩
  obtain ⟨n, hn, hkn⟩ := h.below k (hused k hk)
  exact ⟨n, Nat.lt_of_lt_of_le hn hle, hkn⟩

section Functional

/-! A name carries one number. -/

variable (fn : ∀ k m n, number k m → number k n → m = n)

include fn

theorem next_unused (h : CountedNames number used next) (hk : number k next) : ¬ used k := by
  intro hused
  obtain ⟨n, hn, hkn⟩ := h.below k hused
  exact absurd (fn k n next hkn hk) (Nat.ne_of_lt hn)

theorem insert (h : CountedNames number used next) (hk : number k next)
    (hused : ∀ k', used' k' → used k' ∨ k' = k) : CountedNames number used' (next + 1) := by
  -- A name in use before carries an older number than the new one.
  have holder : ∀ {k' n}, used k' → number k' n → n ≠ next := by
    rintro k' n hk' hn rfl
    exact h.next_unused fn hn hk'
  refine ⟨fun k' hk' => ?_, fun k₁ k₂ n h₁ h₂ hn₁ hn₂ => ?_⟩
  · rcases hused k' hk' with hk' | rfl
    · obtain ⟨n, hn, hkn⟩ := h.below k' hk'
      exact ⟨n, Nat.lt_succ_of_lt hn, hkn⟩
    · exact ⟨next, Nat.lt_succ_self next, hk⟩
  · rcases hused k₁ h₁ with h₁ | rfl <;> rcases hused k₂ h₂ with h₂ | rfl
    · exact h.unique k₁ k₂ n h₁ h₂ hn₁ hn₂
    · exact absurd (fn _ _ _ hn₂ hk) (holder h₁ hn₁)
    · exact absurd (fn _ _ _ hn₁ hk) (holder h₂ hn₂)
    · rfl

end Functional

end CountedNames

/-- What stands behind the last separator is determined. -/
theorem List.append_cons_inj_last {α : Type*} {a b x y : List α} {c : α} (hx : c ∉ x) (hy : c ∉ y) :
    a ++ c :: x = b ++ c :: y ↔ a = b ∧ x = y := by
  refine ⟨fun h => ?_, fun h => by rw [h.1, h.2]⟩
  rcases List.append_eq_append_iff.mp h with ⟨d, rfl, hd⟩ | ⟨d, rfl, hd⟩ <;>
    cases d <;> simp_all
