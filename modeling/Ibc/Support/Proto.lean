import Mathlib.Data.List.Basic
import Mathlib.Tactic.Linarith

/-!
# The protobuf wire format, writing side

Base-128 varints and the field encoders of protobuf messages. A field whose value is the default is
left out, so an encoded message is a sequence of fields in ascending tags, some of them missing.

Every encoder is *read off*: what it wrote can be taken off the front of a byte string in one way
only (`varint_append_inj`, `delimited_append_inj`), since a varint is read back. For a field that
may be missing this needs that what follows starts with another tag (`Avoids`). Injectivity of a
message's encoder follows field by field.
-/

namespace Proto

variable {t t' : UInt8} {l l' : List UInt8}

/-! ### Varints -/

/-- Base 128, low digits first, the high bit set on all bytes but the last. The first argument
bounds the number of digits. -/
def varintDigits : ℕ → ℕ → List UInt8
  | 0, n => [UInt8.ofNat (n % 128)]
  | k + 1, n =>
      if n < 128 then [UInt8.ofNat n] else UInt8.ofNat (n % 128 + 128) :: varintDigits k (n / 128)

def varint (n : ℕ) : List UInt8 := varintDigits n n

/-- Takes a varint off the front of the bytes. -/
def readVarint : List UInt8 → Option (ℕ × List UInt8)
  | [] => none
  | b :: l =>
      if b.toNat < 128 then some (b.toNat, l)
      else (readVarint l).map fun r => (b.toNat - 128 + 128 * r.1, r.2)

theorem toNat_ofNat {n : ℕ} (h : n < 256) : (UInt8.ofNat n).toNat = n := by
  simp [Nat.mod_eq_of_lt h]

theorem readVarint_varintDigits {k n : ℕ} (h : n ≤ k) :
    readVarint (varintDigits k n ++ l) = some (n, l) := by
  induction k generalizing n with
  | zero =>
    obtain rfl : n = 0 := Nat.le_zero.mp h
    rfl
  | succ k ih =>
    by_cases hlow : n < 128
    · simp [varintDigits, hlow, readVarint, toNat_ofNat (show n < 256 by omega)]
    · have hbyte : (UInt8.ofNat (n % 128 + 128)).toNat = n % 128 + 128 := toNat_ofNat (by omega)
      have hhigh : readVarint (varintDigits k (n / 128) ++ l) = some (n / 128, l) := ih (by omega)
      rw [varintDigits, if_neg hlow, List.cons_append, readVarint, hbyte, if_neg (by omega), hhigh,
        Option.map_some, show n % 128 + 128 - 128 + 128 * (n / 128) = n by omega]

theorem readVarint_varint (n : ℕ) : readVarint (varint n ++ l) = some (n, l) :=
  readVarint_varintDigits le_rfl

theorem varint_append_inj {m n : ℕ} (h : varint m ++ l = varint n ++ l') : m = n ∧ l = l' := by
  have hread := congrArg readVarint h
  rw [readVarint_varint, readVarint_varint] at hread
  exact Prod.mk.inj (Option.some.inj hread)

/-! ### Length-delimited values -/

def delimited (b : List UInt8) : List UInt8 := varint b.length ++ b

theorem delimited_append_inj {b b' : List UInt8} (h : delimited b ++ l = delimited b' ++ l') :
    b = b' ∧ l = l' := by
  simp only [delimited, List.append_assoc] at h
  obtain ⟨hlen, hrest⟩ := varint_append_inj h
  exact List.append_inj hrest hlen

/-! ### Fields -/

/-- A number; zero is left out. -/
def varintField (t : UInt8) (n : ℕ) : List UInt8 := if n = 0 then [] else t :: varint n

/-- A byte string; the empty one is left out. -/
def bytesField (t : UInt8) (b : List UInt8) : List UInt8 := if b = [] then [] else t :: delimited b

/-- A message inside a message; an empty one is written. -/
def messageField (t : UInt8) (b : List UInt8) : List UInt8 := t :: delimited b

/-- A message inside a message, if it is there. -/
def optionField (t : UInt8) (b : Option (List UInt8)) : List UInt8 :=
  (b.map (messageField t)).getD []

/-- A list of byte strings or messages, one field for each. -/
def repeatedField (t : UInt8) (bs : List (List UInt8)) : List UInt8 :=
  bs.flatMap fun b => t :: delimited b

/-- The byte string does not start with the tag `t`. -/
def Avoids (t : UInt8) (l : List UInt8) : Prop := l.head? ≠ some t

theorem avoids_nil (t : UInt8) : Avoids t [] := by simp [Avoids]

theorem avoids_cons (ht : t' ≠ t) : Avoids t (t' :: l) := by simpa [Avoids] using ht

theorem Avoids.varintField {n : ℕ} (ht : t' ≠ t) (h : Avoids t l) :
    Avoids t (varintField t' n ++ l) := by
  unfold Proto.varintField
  split_ifs
  · exact h
  · exact avoids_cons ht

theorem Avoids.bytesField {b : List UInt8} (ht : t' ≠ t) (h : Avoids t l) :
    Avoids t (bytesField t' b ++ l) := by
  unfold Proto.bytesField
  split_ifs
  · exact h
  · exact avoids_cons ht

theorem Avoids.optionField {b : Option (List UInt8)} (ht : t' ≠ t) (h : Avoids t l) :
    Avoids t (optionField t' b ++ l) := by
  cases b with
  | none => exact h
  | some b => exact avoids_cons ht

theorem Avoids.repeatedField {bs : List (List UInt8)} (ht : t' ≠ t) (h : Avoids t l) :
    Avoids t (repeatedField t' bs ++ l) := by
  cases bs with
  | nil => exact h
  | cons b bs => exact avoids_cons ht

theorem varintField_append_inj {m n : ℕ} (hl : Avoids t l) (hl' : Avoids t l')
    (h : varintField t m ++ l = varintField t n ++ l') : m = n ∧ l = l' := by
  unfold varintField at h
  split_ifs at h with hm hn hn
  · exact ⟨hm.trans hn.symm, h⟩
  · exact absurd (by simpa using congrArg List.head? h) hl
  · exact absurd (by simpa using (congrArg List.head? h).symm) hl'
  · simp only [List.cons_append, List.cons.injEq, true_and] at h
    exact varint_append_inj h

theorem bytesField_append_inj {b b' : List UInt8} (hl : Avoids t l) (hl' : Avoids t l')
    (h : bytesField t b ++ l = bytesField t b' ++ l') : b = b' ∧ l = l' := by
  unfold bytesField at h
  split_ifs at h with hb hb' hb'
  · exact ⟨hb.trans hb'.symm, h⟩
  · exact absurd (by simpa using congrArg List.head? h) hl
  · exact absurd (by simpa using (congrArg List.head? h).symm) hl'
  · simp only [List.cons_append, List.cons.injEq, true_and] at h
    exact delimited_append_inj h

theorem messageField_append_inj {b b' : List UInt8}
    (h : messageField t b ++ l = messageField t b' ++ l') : b = b' ∧ l = l' := by
  simp only [messageField, List.cons_append, List.cons.injEq, true_and] at h
  exact delimited_append_inj h

theorem optionField_append_inj {b b' : Option (List UInt8)} (hl : Avoids t l) (hl' : Avoids t l')
    (h : optionField t b ++ l = optionField t b' ++ l') : b = b' ∧ l = l' := by
  cases b with
  | none =>
    cases b' with
    | none => exact ⟨rfl, h⟩
    | some b' => exact absurd (congrArg List.head? h) hl
  | some b =>
    cases b' with
    | none => exact absurd (congrArg List.head? h).symm hl'
    | some b' =>
      obtain ⟨rfl, hl⟩ := messageField_append_inj h
      exact ⟨rfl, hl⟩

theorem repeatedField_append_inj {bs bs' : List (List UInt8)} (hl : Avoids t l)
    (hl' : Avoids t l') (h : repeatedField t bs ++ l = repeatedField t bs' ++ l') :
    bs = bs' ∧ l = l' := by
  induction bs generalizing bs' with
  | nil =>
    cases bs' with
    | nil => exact ⟨rfl, h⟩
    | cons b' bs' => exact absurd (by simpa [repeatedField] using congrArg List.head? h) hl
  | cons b bs ih =>
    cases bs' with
    | nil => exact absurd (by simpa [repeatedField] using (congrArg List.head? h).symm) hl'
    | cons b' bs' =>
      simp only [repeatedField, List.flatMap_cons, List.cons_append, List.append_assoc,
        List.cons.injEq, true_and] at h
      obtain ⟨rfl, hrest⟩ := delimited_append_inj h
      obtain ⟨rfl, hl⟩ := ih hrest
      exact ⟨rfl, hl⟩

/-! ### Strings -/

/-- The bytes of a string. -/
def utf8 (s : String) : List UInt8 := s.toByteArray.data.toList

theorem utf8_inj {s s' : String} (h : utf8 s = utf8 s') : s = s' := by
  have hd : s.toByteArray.data = s'.toByteArray.data := Array.toList_inj.mp h
  exact String.toByteArray_inj.mp (ByteArray.ext hd)

end Proto
