import Mathlib.Data.Int.Notation
import Mathlib.Data.List.Nodup
import Mathlib.Tactic.Common

/-!
# Conversion to and from JSON values

A `Codec` writes the values of a type as JSON values and reads them back; the two sides need not
agree. The combinators follow what is derived for the types of a program: numbers of a given width,
texts, sequences, optional values, enumerations without data, and records of named fields. A record
is read from an object or from the array of its fields, and a missing field reads as `null`.

Whether a value survives (`RoundTrips`) is asked one constructor at a time.
-/

namespace Serde

inductive Value where
  | null
  | bool (b : Bool)
  | num (n : ℤ)
  | str (s : String)
  | arr (values : List Value)
  | obj (members : List (String × Value))

structure Codec (α : Type) where
  write : α → Value
  read : Value → Option α

variable {α β : Type}

/-- What is written for `a` is read as `a`. -/
def Codec.RoundTrips (c : Codec α) (a : α) : Prop := c.read (c.write a) = some a

theorem Codec.RoundTrips.read_write {c : Codec α} {a : α} (h : c.RoundTrips a) :
    c.read (c.write a) = some a := h

/-! ### Scalars -/

/-- The numbers below `bound`. -/
def word (bound : ℕ) : Codec ℕ where
  write n := .num n
  read
    | .num n => if 0 ≤ n ∧ n < bound then some n.toNat else none
    | _ => none

def u64 : Codec ℕ := word UInt64.size

def u32 : Codec ℕ := word UInt32.size

def string : Codec String where
  write s := .str s
  read
    | .str s => some s
    | _ => none

/-- A type that stands in for some of the values of another one. -/
def Codec.comap (c : Codec β) (out : α → β) (into : β → Option α) : Codec α where
  write a := c.write (out a)
  read v := (c.read v).bind into

def byte : Codec UInt8 := (word 256).comap UInt8.toNat fun n => some (.ofNat n)

theorem word_roundTrips {bound n : ℕ} (h : n < bound) : (word bound).RoundTrips n := by
  simp [Codec.RoundTrips, word, h]

theorem string_roundTrips (s : String) : string.RoundTrips s := rfl

theorem Codec.comap_roundTrips {c : Codec β} {out : α → β} {into : β → Option α} {a : α}
    (h : c.RoundTrips (out a)) (hinto : into (out a) = some a) :
    (c.comap out into).RoundTrips a := by
  simp only [RoundTrips, comap, h.read_write, Option.bind_some, hinto]

theorem byte_roundTrips (b : UInt8) : byte.RoundTrips b :=
  Codec.comap_roundTrips (word_roundTrips b.toNat_lt) (by simp)

/-! ### Sequences and optional values -/

def list (c : Codec α) : Codec (List α) where
  write l := .arr (l.map c.write)
  read
    | .arr vs => vs.mapM c.read
    | _ => none

def option (c : Codec α) : Codec (Option α) where
  write
    | none => .null
    | some a => c.write a
  read
    | .null => some none
    | v => (c.read v).map some

theorem list_roundTrips {c : Codec α} {l : List α} (h : ∀ a ∈ l, c.RoundTrips a) :
    (list c).RoundTrips l := by
  simp only [Codec.RoundTrips, list]
  induction l with
  | nil => rfl
  | cons a l ih =>
    obtain ⟨ha, hl⟩ := List.forall_mem_cons.mp h
    simp [ha.read_write, ih hl]

/-- A value that is written as `null` would be read as missing. -/
theorem option_roundTrips {c : Codec α} {o : Option α}
    (h : ∀ a, o = some a → c.RoundTrips a ∧ c.write a ≠ .null) : (option c).RoundTrips o := by
  cases o with
  | none => rfl
  | some a =>
    obtain ⟨ha, hnull⟩ := h a rfl
    simp only [Codec.RoundTrips, option, ha.read_write, Option.map_some]

/-! ### Enumerations and records -/

/-- An enumeration without data: the name of the constructor, or an object with that name. -/
def enum (all : List α) (name : α → String) : Codec α where
  write a := .str (name a)
  read
    | .str s => all.find? fun a => name a = s
    | .obj [(s, .null)] => all.find? fun a => name a = s
    | _ => none

/-- The member of that name, which must not be there twice; `null` if it is not there. -/
def member (members : List (String × Value)) (name : String) : Option Value :=
  match members.filter fun m => m.1 = name with
  | [] => some .null
  | [m] => some m.2
  | _ => none

/-- The values of the fields, in the order of their names. -/
def fields (names : List String) : Value → Option (List Value)
  | .obj members => names.mapM (member members)
  | .arr values => if values.length = names.length then some values else none
  | _ => none

/-- A record: `split` gives the values of its fields, and `build` makes it from such values. -/
def record (names : List String) (split : α → List Value) (build : List Value → Option α) :
    Codec α where
  write a := .obj (names.zip (split a))
  read v := (fields names v).bind build

theorem member_cons_self {members : List (String × Value)} {name : String} {v : Value}
    (h : ∀ m ∈ members, m.1 ≠ name) : member ((name, v) :: members) name = some v := by
  have hrest : members.filter (fun m => m.1 = name) = [] := by simpa using h
  simp [member, hrest]

theorem member_cons_of_ne {members : List (String × Value)} {name name' : String} {v : Value}
    (h : name' ≠ name) : member ((name', v) :: members) name = member members name := by
  simp [member, h]

/-- Names that do not have the first member skip it. -/
theorem mapM_member_cons {members : List (String × Value)} {names : List String} {name : String}
    {v : Value} (h : name ∉ names) :
    names.mapM (member ((name, v) :: members)) = names.mapM (member members) := by
  induction names with
  | nil => rfl
  | cons name' names ih =>
    obtain ⟨hne, hrest⟩ := List.ne_and_not_mem_of_not_mem_cons h
    rw [List.mapM_cons, List.mapM_cons, member_cons_of_ne hne, ih hrest]

theorem fields_zip {names : List String} (hnames : names.Nodup) {values : List Value}
    (hlen : values.length = names.length) :
    fields names (.obj (names.zip values)) = some values := by
  simp only [fields]
  induction names generalizing values with
  | nil =>
    rw [List.length_eq_zero_iff.mp hlen]
    rfl
  | cons name names ih =>
    cases values with
    | nil => cases hlen
    | cons v values =>
      obtain ⟨hname, hnames⟩ := List.nodup_cons.mp hnames
      have hself : member ((name, v) :: names.zip values) name = some v := by
        refine member_cons_self fun m hm heq => hname ?_
        exact heq ▸ (List.of_mem_zip hm).1
      rw [List.zip_cons_cons, List.mapM_cons, hself, mapM_member_cons hname,
        ih hnames (Nat.succ.inj hlen)]
      rfl

/-- Reading back a record comes down to building it from the values of its fields. -/
theorem record_read_write {names : List String} {split : α → List Value}
    {build : List Value → Option α} (hnames : names.Nodup) {a : α}
    (hlen : (split a).length = names.length) :
    (record names split build).read ((record names split build).write a) = build (split a) := by
  simp only [record, fields_zip hnames hlen, Option.bind_some]

theorem record_roundTrips {names : List String} {split : α → List Value}
    {build : List Value → Option α} (hnames : names.Nodup) {a : α}
    (hlen : (split a).length = names.length) (hbuild : build (split a) = some a) :
    (record names split build).RoundTrips a := (record_read_write hnames hlen).trans hbuild

end Serde
