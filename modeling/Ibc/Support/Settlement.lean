import Mathlib.Algebra.GroupWithZero.Nat
import Mathlib.Algebra.Order.BigOperators.Group.List
import Mathlib.Algebra.Order.Group.Nat
import Mathlib.Data.List.Nodup
import Mathlib.Data.List.Perm.Subperm

/-!
# Items that are settled once

Items are issued, and each may be settled later in one of two ways. If no item is settled twice, and
none that was not issued (`Settles`), then what is pending and what was settled weighs no more than
what was issued (`Settles.weight_pending_add_le`), for any weight of the items.
-/

namespace Settlement

variable {ι : Type} {w : ι → ℕ} {l l' : List ι}

/-- The weight of all items of a list. -/
def weight (w : ι → ℕ) (l : List ι) : ℕ := (l.map w).sum

@[simp] theorem weight_nil : weight w [] = 0 := rfl

@[simp] theorem weight_singleton (x : ι) : weight w [x] = w x := by simp [weight]

@[simp] theorem weight_append : weight w (l ++ l') = weight w l + weight w l' := by
  simp [weight]

theorem weight_congr {w' : ι → ℕ} (h : ∀ x ∈ l, w x = w' x) : weight w l = weight w' l := by
  rw [weight, weight, List.map_congr_left h]

theorem weight_perm (h : l.Perm l') : weight w l = weight w l' := (h.map w).sum_eq

/-- Different items of a list weigh no more than the list. -/
theorem weight_le_of_subset (hnd : l.Nodup) (h : l ⊆ l') : weight w l ≤ weight w l' := by
  obtain ⟨l₁, hperm, hsub⟩ := hnd.subperm h
  rw [← weight_perm hperm]
  exact (hsub.map w).sum_le_sum fun _ _ => Nat.zero_le _

variable [DecidableEq ι] {issued one other : List ι}

/-- The issued items that were settled in neither way. -/
def pending (issued one other : List ι) : List ι :=
  issued.filter fun x => x ∉ one ∧ x ∉ other

/-- Each item is settled at most once, and in one way only. -/
structure Settles (issued one other : List ι) : Prop where
  one_subset : one ⊆ issued
  one_nodup : one.Nodup
  other_subset : other ⊆ issued
  other_nodup : other.Nodup
  disjoint : one.Disjoint other

theorem Settles.weight_pending_add_le (h : Settles issued one other) :
    weight w (pending issued one other) + weight w one + weight w other ≤ weight w issued := by
  have hsettled : one ++ other ⊆ issued.filter fun x => ¬ (x ∉ one ∧ x ∉ other) := by
    intro x hx
    rw [List.mem_filter, decide_eq_true_eq]
    rcases List.mem_append.mp hx with hone | hother
    · exact ⟨h.one_subset hone, fun hnot => hnot.1 hone⟩
    · exact ⟨h.other_subset hother, fun hnot => hnot.2 hother⟩
  have hle : weight w one + weight w other ≤
      weight w (issued.filter fun x => ¬ (x ∉ one ∧ x ∉ other)) := by
    rw [← weight_append]
    exact weight_le_of_subset (h.one_nodup.append h.other_nodup h.disjoint) hsettled
  have hsplit : weight w (pending issued one other) +
      weight w (issued.filter fun x => ¬ (x ∉ one ∧ x ∉ other)) = weight w issued := by
    rw [← weight_append]
    refine weight_perm ?_
    simpa [pending] using List.filter_append_perm (fun x => decide (x ∉ one ∧ x ∉ other)) issued
  omega

end Settlement
