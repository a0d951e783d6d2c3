import Mathlib.Algebra.BigOperators.Group.List.Basic
import Mathlib.Algebra.GroupWithZero.Nat
import Mathlib.Tactic.Common

/-!
# Characters and bytes

The length of a text in bytes is at least its number of characters, and the two are equal when all
characters are ASCII.
-/

namespace Utf8

/-- One of the first 128 characters. -/
def IsAscii (c : Char) : Prop := c.toNat < 128

instance : DecidablePred IsAscii := fun c => inferInstanceAs (Decidable (c.toNat < 128))

/-- The test of a whole list. -/
theorem isAscii_of_all {l : List Char} (h : l.all fun c => decide (IsAscii c)) :
    ∀ c ∈ l, IsAscii c := by
  intro c hc
  exact of_decide_eq_true (List.all_eq_true.mp h c hc)

theorem isAscii_of_isAlphanum {c : Char} (h : c.isAlphanum) : IsAscii c := by
  change ((decide ('A'.val ≤ c.val ∧ c.val ≤ 'Z'.val) || ('a'.val ≤ c.val && c.val ≤ 'z'.val)) ||
    ('0'.val ≤ c.val && c.val ≤ '9'.val)) = true at h
  simp only [Bool.or_eq_true, Bool.and_eq_true, decide_eq_true_eq, UInt32.le_iff_toNat_le] at h
  rcases h with (⟨-, hle⟩ | ⟨-, hle⟩) | ⟨-, hle⟩
  all_goals exact Nat.lt_of_le_of_lt hle (by decide)

theorem utf8Size_eq_one_iff {c : Char} : c.utf8Size = 1 ↔ IsAscii c := by
  rw [Char.utf8Size_eq_one_iff, UInt32.le_iff_toNat_le, IsAscii]
  exact Nat.lt_succ_iff.symm

theorem utf8ByteSize_eq_sum (s : String) :
    s.utf8ByteSize = (s.toList.map Char.utf8Size).sum := by
  rw [← String.ofList_toList (s := s)]
  induction s.toList with
  | nil => simp
  | cons c l ih =>
    have hcons : String.ofList (c :: l) = String.singleton c ++ String.ofList l := by
      apply String.toList_inj.mp
      simp
    rw [hcons, String.utf8ByteSize_append, String.utf8ByteSize_singleton, ih]
    simp

theorem length_le_utf8ByteSize (s : String) : s.length ≤ s.utf8ByteSize := by
  rw [utf8ByteSize_eq_sum, ← String.length_toList]
  induction s.toList with
  | nil => simp
  | cons c l ih =>
    have hc : 0 < c.utf8Size := c.utf8Size_pos
    rw [List.length_cons, List.map_cons, List.sum_cons]
    omega

theorem utf8ByteSize_eq_length {s : String} (h : ∀ c ∈ s.toList, IsAscii c) :
    s.utf8ByteSize = s.length := by
  rw [utf8ByteSize_eq_sum, ← String.length_toList]
  have hone : ∀ n ∈ s.toList.map Char.utf8Size, n = 1 := by
    intro n hn
    obtain ⟨c, hc, rfl⟩ := List.mem_map.mp hn
    exact utf8Size_eq_one_iff.mpr (h c hc)
  rw [List.eq_replicate_of_mem hone]
  simp

end Utf8
