import Ibc.Support.Binary
import Ibc.Support.ProtoRead
import Mathlib.Logic.Equiv.Defs

/-!
# Borsh

The binary format of records without tags: words of a fixed width, a count in front of each
sequence, a flag in front of each optional value, the index of a constructor in one byte, and the
fields of a record one after the other.

A `Codec` carries its law: what is read is what was written, and nothing else is read. The law of a
record follows from those of its fields, so a format is put together from the combinators here and
needs no proof of its own.
-/

namespace Borsh

open Binary

/-- The two sides of a format. A value does not fit when one of its counts is no word. -/
structure Codec (α : Type) where
  fits : α → Bool
  write : α → List UInt8
  read : Reader α
  read_eq_some : ∀ {l : List UInt8} {a : α} {rest : List UInt8},
    read l = some (a, rest) ↔ fits a ∧ l = write a ++ rest

variable {α β : Type}

namespace Codec

variable {c : Codec α} {a : α}

/-- What is written is read back, whatever follows it. -/
theorem read_write (h : c.fits a) (rest : List UInt8) :
    c.read (c.write a ++ rest) = some (a, rest) := c.read_eq_some.mpr ⟨h, rfl⟩

/-- Writing fails when a count is too large. -/
def serialize (c : Codec α) (a : α) : Option (List UInt8) :=
  if c.fits a then some (c.write a) else none

theorem serialize_eq_some {b : List UInt8} :
    c.serialize a = some b ↔ c.fits a ∧ b = c.write a := by
  rw [serialize]
  split_ifs with h <;> simp [h, eq_comm]

/-- All of the bytes are read exactly when they are written. -/
theorem read_eq_some_nil {b : List UInt8} : c.read b = some (a, []) ↔ c.serialize a = some b := by
  rw [c.read_eq_some, serialize_eq_some, List.append_nil]

end Codec

/-! ### Scalars -/

/-- A number in `len` bytes. -/
def word (len : ℕ) : Codec ℕ where
  fits n := n < 256 ^ len
  write := writeWord len
  read := readWord len
  read_eq_some := by
    intro l n rest
    rw [decide_eq_true_eq, readWord_eq_some]

def readByte : Reader UInt8
  | [] => none
  | b :: l => some (b, l)

theorem readByte_eq_some {l : List UInt8} {b : UInt8} {rest : List UInt8} :
    readByte l = some (b, rest) ↔ l = b :: rest := by
  cases l <;> simp [readByte]

def byte : Codec UInt8 where
  fits _ := true
  write b := [b]
  read := readByte
  read_eq_some := by
    intro l b rest
    rw [readByte_eq_some, eq_self, true_and, List.singleton_append]

/-! ### Other types -/

section Via

/-- Values of `β` in place of some values of `α`. What stands for no value of `β` is refused. -/
def Codec.via (c : Codec α) (into : α → Option β) (out : β → α)
    (h : ∀ {a b}, c.fits a → (into a = some b ↔ a = out b)) : Codec β where
  fits b := c.fits (out b)
  write b := c.write (out b)
  read l := (c.read l).bind fun r => (into r.1).map (·, r.2)
  read_eq_some := by
    intro l b rest
    constructor
    · intro hread
      obtain ⟨⟨a, rest'⟩, ha, hb⟩ := Option.bind_eq_some_iff.mp hread
      obtain ⟨b', hinto, heq⟩ := Option.map_eq_some_iff.mp hb
      cases heq
      obtain ⟨hfits, hl⟩ := c.read_eq_some.mp ha
      cases (h hfits).mp hinto
      exact ⟨hfits, hl⟩
    · rintro ⟨hfits, hl⟩
      rw [hl]
      have ha := c.read_write hfits rest
      exact Option.bind_eq_some_iff.mpr ⟨(out b, rest), ha,
        Option.map_eq_some_iff.mpr ⟨b, (h hfits).mpr rfl, rfl⟩⟩

theorem some_eq_some_iff (e : α ≃ β) {a : α} {b : β} : some (e a) = some b ↔ a = e.symm b := by
  rw [Option.some_inj, Equiv.eq_symm_apply]

/-- A record in place of the tuple of its fields. -/
def Codec.equiv (c : Codec α) (e : α ≃ β) : Codec β :=
  c.via (fun a => some (e a)) e.symm fun _ => some_eq_some_iff e

end Via

theorem ofNat_eq_some_u32 {n : ℕ} {w : UInt32} (hn : (word 4).fits n) :
    some (UInt32.ofNat n) = some w ↔ n = w.toNat := by
  have hlt : n < 2 ^ 32 := of_decide_eq_true hn
  rw [Option.some_inj, ← UInt32.toNat_inj, UInt32.toNat_ofNat_of_lt' hlt]

def u32 : Codec UInt32 := (word 4).via (fun n => some (.ofNat n)) UInt32.toNat ofNat_eq_some_u32

theorem ofNat_eq_some_u64 {n : ℕ} {w : UInt64} (hn : (word 8).fits n) :
    some (UInt64.ofNat n) = some w ↔ n = w.toNat := by
  have hlt : n < 2 ^ 64 := of_decide_eq_true hn
  rw [Option.some_inj, ← UInt64.toNat_inj, UInt64.toNat_ofNat_of_lt' hlt]

def u64 : Codec UInt64 := (word 8).via (fun n => some (.ofNat n)) UInt64.toNat ofNat_eq_some_u64

/-! ### Sequences and optional values -/

def pair (c : Codec α) (d : Codec β) : Codec (α × β) where
  fits p := c.fits p.1 && d.fits p.2
  write p := c.write p.1 ++ d.write p.2
  read l := do
    let (a, l) ← c.read l
    let (b, l) ← d.read l
    pure ((a, b), l)
  read_eq_some := by
    rintro l ⟨a, b⟩ rest
    constructor
    · intro hread
      obtain ⟨⟨a', l'⟩, ha, hread⟩ := Option.bind_eq_some_iff.mp hread
      obtain ⟨⟨b', l''⟩, hb, heq⟩ := Option.bind_eq_some_iff.mp hread
      cases heq
      obtain ⟨hfits, rfl⟩ := c.read_eq_some.mp ha
      obtain ⟨hfits', rfl⟩ := d.read_eq_some.mp hb
      exact ⟨Bool.and_eq_true_iff.mpr ⟨hfits, hfits'⟩, (List.append_assoc ..).symm⟩
    · rintro ⟨hfits, rfl⟩
      obtain ⟨hfits, hfits'⟩ := Bool.and_eq_true_iff.mp hfits
      rw [List.append_assoc]
      have ha := c.read_write hfits (d.write b ++ rest)
      have hb := d.read_write hfits' rest
      exact Option.bind_eq_some_iff.mpr ⟨_, ha, Option.bind_eq_some_iff.mpr ⟨_, hb, rfl⟩⟩

/-- As many values as the count says. -/
def readMany (read : Reader α) : ℕ → Reader (List α)
  | 0, l => some ([], l)
  | n + 1, l => do
      let (a, l) ← read l
      let (as, l) ← readMany read n l
      pure (a :: as, l)

theorem readMany_eq_some {c : Codec α} {n : ℕ} {l : List UInt8} {as : List α}
    {rest : List UInt8} : readMany c.read n l = some (as, rest) ↔
      as.length = n ∧ as.all c.fits ∧ l = as.flatMap c.write ++ rest := by
  -- On the count, which is all the reader has; that the values are as many is a result.
  induction n generalizing l as with
  | zero =>
    cases as <;> simp [readMany]
  | succ n ih =>
    constructor
    · intro hread
      obtain ⟨⟨a, l'⟩, ha, hread⟩ := Option.bind_eq_some_iff.mp hread
      obtain ⟨⟨as', l''⟩, has, heq⟩ := Option.bind_eq_some_iff.mp hread
      cases heq
      obtain ⟨hfits, rfl⟩ := c.read_eq_some.mp ha
      obtain ⟨rfl, hall, rfl⟩ := ih.mp has
      exact ⟨rfl, by simp [hfits, hall], by simp⟩
    · rintro ⟨hlen, hall, rfl⟩
      cases as with
      | nil => cases hlen
      | cons a as =>
        obtain ⟨hfits, hall⟩ := Bool.and_eq_true_iff.mp hall
        rw [List.flatMap_cons, List.append_assoc]
        have ha := c.read_write hfits (as.flatMap c.write ++ rest)
        have has := ih.mpr ⟨Nat.succ.inj hlen, hall, rfl⟩
        exact Option.bind_eq_some_iff.mpr ⟨_, ha, Option.bind_eq_some_iff.mpr ⟨_, has, rfl⟩⟩

/-- The number of the values in four bytes, then the values. -/
def list (c : Codec α) : Codec (List α) where
  fits as := (word 4).fits as.length && as.all c.fits
  write as := (word 4).write as.length ++ as.flatMap c.write
  read l := do
    let (n, l) ← (word 4).read l
    readMany c.read n l
  read_eq_some := by
    intro l as rest
    constructor
    · intro hread
      obtain ⟨⟨n, l'⟩, hn, has⟩ := Option.bind_eq_some_iff.mp hread
      obtain ⟨hfits, rfl⟩ := (word 4).read_eq_some.mp hn
      obtain ⟨rfl, hall, rfl⟩ := readMany_eq_some.mp has
      exact ⟨Bool.and_eq_true_iff.mpr ⟨hfits, hall⟩, (List.append_assoc ..).symm⟩
    · rintro ⟨hfits, rfl⟩
      obtain ⟨hfits, hall⟩ := Bool.and_eq_true_iff.mp hfits
      rw [List.append_assoc]
      have hn := (word 4).read_write hfits (as.flatMap c.write ++ rest)
      exact Option.bind_eq_some_iff.mpr ⟨_, hn, readMany_eq_some.mpr ⟨rfl, hall, rfl⟩⟩

/-- The bytes of a text, which must be valid. -/
def string : Codec String :=
  (list byte).via Proto.Codec.string.decode Proto.utf8 fun _ => Proto.Codec.string_decode_eq_some

/-- A flag, then the value if there is one. Other flags are refused. -/
def option (c : Codec α) : Codec (Option α) where
  fits o := o.all c.fits
  write
    | none => [0]
    | some a => 1 :: c.write a
  read l := do
    let (flag, l) ← readByte l
    if flag = 0 then pure (none, l)
    else if flag = 1 then (c.read l).map fun r => (some r.1, r.2)
    else none
  read_eq_some := by
    intro l o rest
    constructor
    · intro hread
      obtain ⟨⟨flag, l'⟩, hflag, hvalue⟩ := Option.bind_eq_some_iff.mp hread
      obtain rfl := readByte_eq_some.mp hflag
      dsimp only at hvalue
      split_ifs at hvalue with hnone hsome
      · cases hvalue
        exact ⟨rfl, by rw [hnone]; rfl⟩
      · obtain ⟨⟨a, rest'⟩, ha, heq⟩ := Option.map_eq_some_iff.mp hvalue
        cases heq
        obtain ⟨hfits, rfl⟩ := c.read_eq_some.mp ha
        exact ⟨hfits, by rw [hsome]; rfl⟩
    · rintro ⟨hfits, rfl⟩
      cases o with
      | none => rfl
      | some a =>
        have ha := c.read_write hfits rest
        exact Option.map_eq_some_iff.mpr ⟨_, ha, rfl⟩

/-! ### What fits -/

theorem fits_u32 (w : UInt32) : u32.fits w := decide_eq_true w.toNat_lt

theorem fits_u64 (w : UInt64) : u64.fits w := decide_eq_true w.toNat_lt

theorem fits_list {c : Codec α} {l : List α} :
    (list c).fits l ↔ l.length < UInt32.size ∧ ∀ a ∈ l, c.fits a := by
  change (decide (l.length < 256 ^ 4) && l.all c.fits) = true ↔ _
  rw [Bool.and_eq_true_iff, decide_eq_true_eq, List.all_eq_true]
  rfl

theorem fits_bytes {l : List UInt8} : (list byte).fits l ↔ l.length < UInt32.size := by
  rw [fits_list]
  exact and_iff_left fun _ _ => rfl

theorem fits_string {s : String} : string.fits s ↔ s.utf8ByteSize < UInt32.size := by
  change (list byte).fits (Proto.utf8 s) ↔ _
  rw [fits_bytes]
  rfl

theorem fits_pair {c : Codec α} {d : Codec β} {p : α × β} :
    (pair c d).fits p ↔ c.fits p.1 ∧ d.fits p.2 := Bool.and_eq_true_iff

theorem fits_option {c : Codec α} {o : Option α} : (option c).fits o ↔ ∀ a ∈ o, c.fits a := by
  cases o <;> simp [option]

theorem fits_equiv {c : Codec α} {e : α ≃ β} {b : β} : (c.equiv e).fits b ↔ c.fits (e.symm b) :=
  Iff.rfl

end Borsh
