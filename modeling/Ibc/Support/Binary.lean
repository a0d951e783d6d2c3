import Mathlib.Algebra.Order.Ring.Nat
import Mathlib.Tactic.Common

/-!
# Little-endian words

The binary formats that carry no tags write a word as a fixed number of bytes, least significant
first, and read it back from the front of the input.
-/

namespace Binary

/-- Takes a value off the front of the input. -/
abbrev Reader (α : Type) := List UInt8 → Option (α × List UInt8)

/-- The first `len` base-256 digits of `n`, least significant first. -/
def writeWord : ℕ → ℕ → List UInt8
  | 0, _ => []
  | len + 1, n => UInt8.ofNat n :: writeWord len (n / 256)

def readWord : ℕ → Reader ℕ
  | 0, l => some (0, l)
  | _ + 1, [] => none
  | len + 1, b :: l => (readWord len l).map fun r => (b.toNat + 256 * r.1, r.2)

def writeU64 (n : ℕ) : List UInt8 := writeWord 8 n

def readU64 : Reader ℕ := readWord 8

/-- A word is read back, whatever follows it. -/
theorem readWord_writeWord {len n : ℕ} (hn : n < 256 ^ len) (rest : List UInt8) :
    readWord len (writeWord len n ++ rest) = some (n, rest) := by
  induction len generalizing n with
  | zero =>
    rw [pow_zero, Nat.lt_one_iff] at hn
    rw [hn]
    rfl
  | succ len ih =>
    have hdiv : n / 256 < 256 ^ len := Nat.div_lt_of_lt_mul (by rwa [pow_succ, mul_comm] at hn)
    simp only [writeWord, List.cons_append, readWord, ih hdiv, Option.map_some, UInt8.toNat_ofNat']
    rw [Nat.mod_add_div]

/-- Only what is written for a number is read as it. -/
theorem writeWord_of_readWord {len n : ℕ} {l rest : List UInt8}
    (h : readWord len l = some (n, rest)) : n < 256 ^ len ∧ l = writeWord len n ++ rest := by
  induction len generalizing l n with
  | zero =>
    cases h
    exact ⟨Nat.one_pos, rfl⟩
  | succ len ih =>
    cases l with
    | nil => cases h
    | cons b l =>
      obtain ⟨⟨m, rest'⟩, hread, heq⟩ := Option.map_eq_some_iff.mp h
      cases heq
      obtain ⟨hm, hl⟩ := ih hread
      have hb := b.toNat_lt
      have hdiv : (b.toNat + 256 * m) / 256 = m := by omega
      have hbyte : UInt8.ofNat (b.toNat + 256 * m) = b := by
        apply UInt8.toNat_inj.mp
        rw [UInt8.toNat_ofNat']
        omega
      constructor
      · rw [pow_succ]
        omega
      · rw [writeWord, hdiv, hbyte, hl, List.cons_append]

theorem readWord_eq_some {len n : ℕ} {l rest : List UInt8} :
    readWord len l = some (n, rest) ↔ n < 256 ^ len ∧ l = writeWord len n ++ rest := by
  constructor
  · exact writeWord_of_readWord
  · rintro ⟨hn, rfl⟩
    exact readWord_writeWord hn rest

theorem readU64_writeU64 {n : ℕ} (hn : n < UInt64.size) (rest : List UInt8) :
    readU64 (writeU64 n ++ rest) = some (n, rest) := readWord_writeWord hn rest

end Binary
