import Mathlib.Data.Nat.Digits.Defs
import Mathlib.Tactic.Common

/-!
# Big-endian words

A 64-bit word as eight bytes, most significant first. The bytes determine the word, and a byte
string that starts with words splits in one way only.
-/

namespace Words

/-- The last `len` base-256 digits of `n`, most significant first. -/
def toBytes : ℕ → ℕ → List UInt8
  | 0, _ => []
  | len + 1, n => toBytes len (n / 256) ++ [UInt8.ofNat n]

/-- The eight bytes of a 64-bit word. -/
def be64 (n : ℕ) : List UInt8 := toBytes 8 n

@[simp] theorem length_toBytes (len n : ℕ) : (toBytes len n).length = len := by
  induction len generalizing n with
  | zero => rfl
  | succ len ih => simp [toBytes, ih]

@[simp] theorem length_be64 (n : ℕ) : (be64 n).length = 8 := length_toBytes 8 n

theorem toNat_eq_zero {w : UInt64} : w.toNat = 0 ↔ w = 0 := by
  rw [← UInt64.toNat_inj, UInt64.toNat_zero]

theorem toBytes_inj {len m n : ℕ} (hm : m < 256 ^ len) (hn : n < 256 ^ len)
    (h : toBytes len m = toBytes len n) : m = n := by
  induction len generalizing m n with
  | zero =>
      rw [pow_zero, Nat.lt_one_iff] at hm hn
      rw [hm, hn]
  | succ len ih =>
      obtain ⟨hdiv, hmod⟩ := List.append_inj' h rfl
      have hq : m / 256 = n / 256 := by
        refine ih ?_ ?_ hdiv
        · exact Nat.div_lt_of_lt_mul (by rwa [pow_succ, mul_comm] at hm)
        · exact Nat.div_lt_of_lt_mul (by rwa [pow_succ, mul_comm] at hn)
      have hr : m % 256 = n % 256 := by
        have := congrArg UInt8.toNat (List.singleton_inj.mp hmod)
        simpa using this
      rw [← Nat.div_add_mod m 256, hq, hr, Nat.div_add_mod]

theorem be64_inj {m n : ℕ} (hm : m < UInt64.size) (hn : n < UInt64.size)
    (h : be64 m = be64 n) : m = n := toBytes_inj hm hn h

/-- A word in front of a byte string can be told apart from the rest. -/
theorem be64_append_inj {m n : ℕ} {xs ys : List UInt8} (hm : m < UInt64.size)
    (hn : n < UInt64.size) (h : be64 m ++ xs = be64 n ++ ys) : m = n ∧ xs = ys := by
  obtain ⟨hw, hr⟩ := List.append_inj h (by simp)
  exact ⟨be64_inj hm hn hw, hr⟩

end Words
