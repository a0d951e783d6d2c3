import Mathlib.Data.Rat.Floor

/-!
# Rounding to doubles

A double is modelled by the rational number it stands for. The result of an operation is the exact
result, rounded to 53 binary digits: to the nearest such number, and of two that are equally near to
the one whose last digit is even. Only numbers that are zero or in the normal range are meant: there
is no least exponent here, and no greatest.
-/

namespace Double

/-- The nearest integer, and of two the even one. -/
def roundEven (q : ℚ) : ℤ :=
  if q - ⌊q⌋ < 1 / 2 ∨ q - ⌊q⌋ = 1 / 2 ∧ ⌊q⌋ % 2 = 0 then ⌊q⌋ else ⌊q⌋ + 1

/-- The exponent of the last of the 53 digits of a positive number: `q / 2 ^ exponent q` lies
between `2 ^ 52` and `2 ^ 53`. The lengths of numerator and denominator give it up to one. -/
def exponent (q : ℚ) : ℤ :=
  let e : ℤ := q.num.natAbs.log2 - q.den.log2 - 52
  if q < 2 ^ (e + 52) then e - 1 else e

/-- The double nearest to a number that is not negative. -/
def round (q : ℚ) : ℚ :=
  if q = 0 then 0 else roundEven (q / 2 ^ exponent q) * 2 ^ exponent q

theorem roundEven_intCast (n : ℤ) : roundEven n = n := by
  simp [roundEven]

@[simp]
theorem round_zero : round 0 = 0 :=
  if_pos rfl

/-- A number of which the 53 digits leave nothing is a double. -/
theorem round_eq_self {q : ℚ} {m : ℤ} (hm : q / 2 ^ exponent q = m) : round q = q := by
  have hne : (2 : ℚ) ^ exponent q ≠ 0 := zpow_ne_zero _ two_ne_zero
  rw [round, hm, roundEven_intCast, ← hm, div_mul_cancel₀ _ hne]
  split_ifs with hzero
  · exact hzero.symm
  · rfl

/-- The last digit of an integer of 53 digits is not behind the point. -/
theorem exponent_natCast_nonpos {n : ℕ} (hn : n < 2 ^ 53) : exponent n ≤ 0 := by
  have hlog : n.log2 ≤ 52 := by
    rcases Nat.eq_zero_or_pos n with rfl | hpos
    · simp
    · exact Nat.le_of_lt_succ ((Nat.log2_lt hpos.ne').mpr hn)
  have hone : Nat.log2 1 = 0 := by decide
  simp only [exponent, Rat.num_natCast, Rat.den_natCast, Int.natAbs_natCast, hone]
  split_ifs <;> omega

/-- Every integer of 53 digits is a double. -/
theorem round_natCast {n : ℕ} (hn : n < 2 ^ 53) : round n = n := by
  obtain ⟨k, hk⟩ := Int.eq_ofNat_of_zero_le (neg_nonneg.mpr (exponent_natCast_nonpos hn))
  have hexp : exponent n = -(k : ℤ) := by omega
  apply round_eq_self (m := n * 2 ^ k)
  rw [hexp, zpow_neg, zpow_natCast, div_inv_eq_mul]
  push_cast
  rfl

end Double
