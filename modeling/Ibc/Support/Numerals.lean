import Mathlib.Data.Nat.Digits.Defs
import Mathlib.Tactic.Common

/-!
# Decimal numerals

A list of digits reads as a number, and every number has one list of digits that is written for it.
The two are inverse to each other on the digits that do not start with a zero, and on the single
zero (`toDigits_ofDigitChars`).
-/

namespace Numeral

/-! ### The digits of a number -/

theorem isDigit_of_mem_toDigits {n : ℕ} {c : Char} (hc : c ∈ Nat.toDigits 10 n) : c.isDigit :=
  Nat.isDigit_of_mem_toDigits (by decide) (by decide) hc

theorem notMem_toDigits {c : Char} (hc : c.isDigit = false) (n : ℕ) : c ∉ Nat.toDigits 10 n := by
  intro hmem
  rw [isDigit_of_mem_toDigits hmem] at hc
  cases hc

/-- The digits determine the number. -/
theorem toDigits_injective : Function.Injective (Nat.toDigits 10) := by
  intro m n h
  have hvalue := congrArg (Nat.ofDigitChars 10 · 0) h
  simpa only [Nat.ofDigitChars_ten_toDigits] using hvalue

/-- The text determines the number. (`Nat.repr_inj` is in a part of the standard library that only
the whole of Mathlib imports.) -/
theorem toString_injective : Function.Injective (toString : ℕ → String) := by
  intro m n h
  have hdigits := congrArg String.toList h
  rw [Nat.toString_eq_repr, Nat.toString_eq_repr, Nat.toList_repr, Nat.toList_repr] at hdigits
  exact toDigits_injective hdigits

theorem isDigit_of_mem_toString {n : ℕ} {c : Char} (hc : c ∈ (toString n).toList) : c.isDigit := by
  rw [Nat.toString_eq_repr, Nat.toList_repr] at hc
  exact isDigit_of_mem_toDigits hc

theorem notMem_toString {c : Char} (hc : c.isDigit = false) (n : ℕ) : c ∉ (toString n).toList := by
  intro hmem
  rw [isDigit_of_mem_toString hmem] at hc
  cases hc

/-! ### Reading digits -/

theorem digit_bounds {c : Char} (h : c.isDigit) : '0'.toNat = 48 ∧ 48 ≤ c.toNat ∧ c.toNat ≤ 57 :=
  ⟨rfl, Char.isDigit_iff_toNat.mp h⟩

theorem digitChar_toNat_sub {c : Char} (h : c.isDigit) :
    Nat.digitChar (c.toNat - '0'.toNat) = c := by
  obtain ⟨hzero, hlow, hhigh⟩ := digit_bounds h
  apply Char.toNat_inj.mp
  rw [Nat.toNat_digitChar_of_lt_ten (by omega)]
  omega

theorem toDigits_toNat_sub {c : Char} (h : c.isDigit) :
    Nat.toDigits 10 (c.toNat - '0'.toNat) = [c] := by
  obtain ⟨hzero, hlow, hhigh⟩ := digit_bounds h
  rw [Nat.toDigits_of_lt_base (by omega), digitChar_toNat_sub h]

/-- Digits read after a number that is not zero are written after it. -/
theorem toDigits_ofDigitChars_of_pos {cs : List Char} (hcs : ∀ c ∈ cs, c.isDigit) {n : ℕ}
    (hn : 0 < n) : Nat.toDigits 10 (Nat.ofDigitChars 10 cs n) = Nat.toDigits 10 n ++ cs := by
  induction cs generalizing n with
  | nil => simp [Nat.ofDigitChars]
  | cons c cs ih =>
    obtain ⟨hc, hrest⟩ := List.forall_mem_cons.mp hcs
    obtain ⟨hzero, hlow, hhigh⟩ := digit_bounds hc
    have hstep : Nat.toDigits 10 (10 * n + (c.toNat - '0'.toNat)) = Nat.toDigits 10 n ++ [c] := by
      rw [← Nat.toDigits_append_toDigits (by decide) hn (by omega), toDigits_toNat_sub hc]
    rw [Nat.ofDigitChars_cons, ih hrest (by omega), hstep, List.append_assoc,
      List.singleton_append]

theorem toDigits_ofDigitChars_of_ne {c : Char} {cs : List Char} (hcs : ∀ d ∈ c :: cs, d.isDigit)
    (hc : c ≠ '0') : Nat.toDigits 10 (Nat.ofDigitChars 10 (c :: cs) 0) = c :: cs := by
  obtain ⟨hdigit, hrest⟩ := List.forall_mem_cons.mp hcs
  obtain ⟨hzero, hlow, hhigh⟩ := digit_bounds hdigit
  have hpos : 0 < c.toNat - '0'.toNat := by
    have hne : c.toNat ≠ '0'.toNat := fun h => hc (Char.toNat_inj.mp h)
    omega
  rw [Nat.ofDigitChars_cons, mul_zero, zero_add, toDigits_ofDigitChars_of_pos hrest hpos,
    toDigits_toNat_sub hdigit, List.singleton_append]

/-- A zero in front does not count. -/
theorem ofDigitChars_zero_cons (cs : List Char) :
    Nat.ofDigitChars 10 ('0' :: cs) 0 = Nat.ofDigitChars 10 cs 0 := by
  rw [Nat.ofDigitChars_cons]
  rfl

/-- What is written is not longer than what was read. -/
theorem length_toDigits_ofDigitChars {cs : List Char} (hcs : ∀ c ∈ cs, c.isDigit) (hne : cs ≠ []) :
    (Nat.toDigits 10 (Nat.ofDigitChars 10 cs 0)).length ≤ cs.length := by
  induction cs with
  | nil => exact absurd rfl hne
  | cons c cs ih =>
    by_cases hc : c = '0'
    · subst hc
      cases cs with
      | nil => decide
      | cons d cs =>
        rw [ofDigitChars_zero_cons]
        have hle := ih (List.forall_mem_cons.mp hcs).2 (List.cons_ne_nil d cs)
        exact hle.trans (Nat.le_succ _)
    · rw [toDigits_ofDigitChars_of_ne hcs hc]

/-- Digits are those of the number they stand for just when they do not start with a zero, or are a
single one. -/
theorem toDigits_ofDigitChars {c : Char} {cs : List Char} (hcs : ∀ d ∈ c :: cs, d.isDigit) :
    Nat.toDigits 10 (Nat.ofDigitChars 10 (c :: cs) 0) = c :: cs ↔ (c = '0' → cs = []) := by
  constructor
  · rintro h rfl
    by_contra hne
    have hle := length_toDigits_ofDigitChars (List.forall_mem_cons.mp hcs).2 hne
    rw [← ofDigitChars_zero_cons, h, List.length_cons] at hle
    omega
  · intro h
    by_cases hc : c = '0'
    · rw [h hc, hc]
      decide
    · exact toDigits_ofDigitChars_of_ne hcs hc

end Numeral
