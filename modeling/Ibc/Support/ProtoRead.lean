import Ibc.Support.Proto

/-!
# The protobuf wire format, reading side

A message is read in two stages: the bytes are cut into fields (`readFields`), then each field of
the message is picked from them by its tag. A scalar takes its last occurrence, a list all of them,
and a message inside a message the bytes of all of them together.

`Codec` is a writer with a reader that undoes it. `Rows` are the same one level down, for some of
the fields of a message: they read their own fields off among any others. Rows of different tags
compose (`Rows.and`), and rows for all fields of a message make a codec for it (`Codec.ofRows`).

A varint of any length is read, so that any string can be written and read back.
-/

namespace Proto

/-! ### Fields -/

/-- The value of a field. -/
inductive Payload where
  | varint (n : ℕ)
  | bytes (b : List UInt8)

/-- A tag and a value. -/
abbrev Field := ℕ × Payload

def Payload.wireType : Payload → ℕ
  | .varint _ => 0
  | .bytes _ => 2

def Payload.write : Payload → List UInt8
  | .varint n => Proto.varint n
  | .bytes b => delimited b

def writeField (f : Field) : List UInt8 := varint (8 * f.1 + f.2.wireType) ++ f.2.write

/-- The first `n` bytes and the rest. -/
def readBytes (n : ℕ) (l : List UInt8) : Option (List UInt8 × List UInt8) :=
  if n ≤ l.length then some (l.take n, l.drop n) else none

def readDelimited (l : List UInt8) : Option (List UInt8 × List UInt8) :=
  (readVarint l).bind fun r => readBytes r.1 r.2

/-- The next field and what follows it. Values of a fixed width occur in no message here, so they
are of an unknown field and skipped. -/
def readField (l : List UInt8) : Option (Option Field × List UInt8) :=
  (readVarint l).bind fun key =>
    let tag := key.1 / 8
    if tag = 0 then none
    else if key.1 % 8 = 0 then (readVarint key.2).map fun r => (some (tag, .varint r.1), r.2)
    else if key.1 % 8 = 2 then (readDelimited key.2).map fun r => (some (tag, .bytes r.1), r.2)
    else if key.1 % 8 = 1 then (readBytes 8 key.2).map fun r => (none, r.2)
    else if key.1 % 8 = 5 then (readBytes 4 key.2).map fun r => (none, r.2)
    else none

/-- All fields. The first argument bounds their number. -/
def readFieldsUpTo : ℕ → List UInt8 → Option (List Field)
  | _, [] => some []
  | 0, _ :: _ => none
  | k + 1, b :: l =>
      (readField (b :: l)).bind fun r => (readFieldsUpTo k r.2).map (r.1.toList ++ ·)

def readFields (l : List UInt8) : Option (List Field) := readFieldsUpTo l.length l

variable {l : List UInt8}

theorem readDelimited_delimited (b : List UInt8) :
    readDelimited (delimited b ++ l) = some (b, l) := by
  simp [readDelimited, delimited, List.append_assoc, readVarint_varint, readBytes]

theorem readField_writeField {f : Field} (hf : 0 < f.1) :
    readField (writeField f ++ l) = some (some f, l) := by
  obtain ⟨tag, p⟩ := f
  have htag : tag ≠ 0 := Nat.pos_iff_ne_zero.mp hf
  have hdiv (w : ℕ) (hw : w < 8) : (8 * tag + w) / 8 = tag := by omega
  have hmod (w : ℕ) (hw : w < 8) : (8 * tag + w) % 8 = w := by omega
  simp only [readField, writeField, List.append_assoc, readVarint_varint, Option.bind_some]
  cases p with
  | varint n =>
    simp only [Payload.wireType, Payload.write, hdiv 0 (by decide), hmod 0 (by decide),
      if_neg htag, if_true, readVarint_varint, Option.map_some]
  | bytes b =>
    simp only [Payload.wireType, Payload.write, hdiv 2 (by decide), hmod 2 (by decide),
      if_neg htag, if_true, if_false, OfNat.ofNat_ne_zero, readDelimited_delimited,
      Option.map_some]

theorem writeField_ne_nil (f : Field) : writeField f ≠ [] := by
  intro h
  have hread := readVarint_varint (l := f.2.write) (8 * f.1 + f.2.wireType)
  rw [← writeField, h] at hread
  cases hread

theorem readFieldsUpTo_write {k : ℕ} {fs : List Field} (hfs : ∀ f ∈ fs, 0 < f.1)
    (hk : fs.length ≤ k) : readFieldsUpTo k (fs.flatMap writeField) = some fs := by
  induction fs generalizing k with
  | nil => cases k <;> rfl
  | cons f fs ih =>
    obtain ⟨hf, hfs⟩ := List.forall_mem_cons.mp hfs
    cases k with
    | zero => cases hk
    | succ k =>
      have hrest := ih hfs (Nat.le_of_succ_le_succ hk)
      rw [List.flatMap_cons]
      cases hbytes : writeField f ++ fs.flatMap writeField with
      | nil => exact absurd (List.append_eq_nil_iff.mp hbytes).1 (writeField_ne_nil f)
      | cons b l =>
        rw [readFieldsUpTo, ← hbytes, readField_writeField hf, Option.bind_some, hrest]
        rfl

theorem length_le_flatMap_writeField (fs : List Field) :
    fs.length ≤ (fs.flatMap writeField).length := by
  induction fs with
  | nil => exact le_rfl
  | cons f fs ih =>
    have hpos : 0 < (writeField f).length := List.length_pos_iff.mpr (writeField_ne_nil f)
    simp only [List.length_cons, List.flatMap_cons, List.length_append]
    omega

/-- **Fields are read back as they were written.** -/
theorem readFields_write {fs : List Field} (hfs : ∀ f ∈ fs, 0 < f.1) :
    readFields (fs.flatMap writeField) = some fs :=
  readFieldsUpTo_write hfs (length_le_flatMap_writeField fs)

/-! ### Codecs -/

/-- A writer, and a reader that undoes it. -/
structure Codec (α : Type) where
  encode : α → List UInt8
  decode : List UInt8 → Option α
  decode_encode : ∀ a, decode (encode a) = some a

namespace Codec

def bytes : Codec (List UInt8) := ⟨id, some, fun _ => rfl⟩

/-- The bytes of a string; not all bytes are those of one. -/
def string : Codec String where
  encode := utf8
  decode b := String.fromUTF8? ⟨b.toArray⟩
  decode_encode s := by
    have hbytes : (⟨(utf8 s).toArray⟩ : ByteArray) = s.toByteArray := by simp [utf8]
    rw [hbytes, String.fromUTF8?, dif_pos s.isValidUTF8]
    rfl

theorem string_decode_eq_some {b : List UInt8} {s : String} :
    string.decode b = some s ↔ b = utf8 s := by
  constructor
  · intro h
    change String.fromUTF8? ⟨b.toArray⟩ = some s at h
    rw [String.fromUTF8?] at h
    split_ifs at h with hvalid
    cases h
    rfl
  · rintro rfl
    exact string.decode_encode s

end Codec

/-! ### Rows -/

/-- The values of the fields with one tag. -/
def own (t : ℕ) (fs : List Field) : List Payload := (fs.filter (·.1 = t)).map (·.2)

theorem own_append (t : ℕ) (fs gs : List Field) : own t (fs ++ gs) = own t fs ++ own t gs := by
  simp [own]

theorem own_of_others {t : ℕ} {fs : List Field} (h : ∀ f ∈ fs, f.1 ∉ [t]) : own t fs = [] := by
  simp only [own, List.map_eq_nil_iff, List.filter_eq_nil_iff, decide_eq_true_eq]
  exact fun f hf heq => h f hf (List.mem_singleton.mpr heq)

theorem own_map (t : ℕ) (ps : List Payload) : own t (ps.map fun p => (t, p)) = ps := by
  induction ps with
  | nil => rfl
  | cons p ps ih => simpa [own] using ih

def Payload.bytes? : Payload → Option (List UInt8)
  | .bytes b => some b
  | .varint _ => none

def Payload.varint? : Payload → Option ℕ
  | .varint n => some n
  | .bytes _ => none

/-- The last value, or the default if there is none. -/
def lastOf {α : Type} (get : Payload → Option α) (default : Option α) : List Payload → Option α
  | [] => default
  | p :: ps => (get p).bind fun a => lastOf get (some a) ps

/-- All values. -/
def allOf {α : Type} (get : Payload → Option α) : List Payload → Option (List α)
  | [] => some []
  | p :: ps => (get p).bind fun a => (allOf get ps).map (a :: ·)

/-- Some fields of a message. What they wrote they read back from among other fields. -/
structure Rows (α : Type) where
  tags : List ℕ
  write : α → List Field
  read : List Field → Option α
  tagged : ∀ a, ∀ f ∈ write a, f.1 ∈ tags
  read_write : ∀ a before after, (∀ f ∈ before, f.1 ∉ tags) → (∀ f ∈ after, f.1 ∉ tags) →
    read (before ++ write a ++ after) = some a

namespace Rows

variable {α β : Type}

/-- One field, given by how its values are written and read. -/
def single (t : ℕ) (write : α → List Payload) (read : List Payload → Option α)
    (h : ∀ a, read (write a) = some a) : Rows α where
  tags := [t]
  write a := (write a).map fun p => (t, p)
  read fs := read (own t fs)
  tagged a f hf := by
    obtain ⟨p, -, rfl⟩ := List.mem_map.mp hf
    exact List.mem_singleton_self t
  read_write a before after hbefore hafter := by
    rw [own_append, own_append, own_of_others hbefore, own_of_others hafter, own_map,
      List.nil_append, List.append_nil, h]

/-- A number; zero is left out. -/
def nat (t : ℕ) : Rows ℕ :=
  single t (fun n => if n = 0 then [] else [.varint n]) (lastOf Payload.varint? (some 0)) <| by
    intro n
    split_ifs with h
    · rw [h]
      rfl
    · rfl

/-- A 64-bit word; zero is left out. -/
def uint64 (t : ℕ) : Rows UInt64 :=
  single t (fun n => if n = 0 then [] else [.varint n.toNat])
    (lastOf (fun p => p.varint?.bind fun n => if n < UInt64.size then some (.ofNat n) else none)
      (some 0)) <| by
    intro n
    split_ifs with h
    · rw [h]
      rfl
    · simp [lastOf, Payload.varint?, n.toNat_lt_size]

/-- A string or bytes; the empty value is left out. -/
def scalar (t : ℕ) (c : Codec α) : Rows α :=
  single t (fun a => if c.encode a = [] then [] else [.bytes (c.encode a)])
    (lastOf (fun p => p.bytes?.bind c.decode) (c.decode [])) <| by
    intro a
    split_ifs with h
    · rw [lastOf, ← h, c.decode_encode]
    · simp [lastOf, Payload.bytes?, c.decode_encode]

/-- A list, one field for each entry. -/
def repeated (t : ℕ) (c : Codec α) : Rows (List α) :=
  single t (fun l => l.map fun a => .bytes (c.encode a))
    (allOf fun p => p.bytes?.bind c.decode) <| by
    intro l
    induction l with
    | nil => rfl
    | cons a l ih =>
      rw [List.map_cons, allOf, ih, Payload.bytes?, Option.bind_some, c.decode_encode]
      rfl

/-- A message inside the message, if it is there. Its occurrences count as one. -/
def message (t : ℕ) (c : Codec α) : Rows (Option α) :=
  single t (fun a => (a.map fun a => Payload.bytes (c.encode a)).toList)
    (fun ps => if ps.isEmpty then some none
      else (allOf Payload.bytes? ps).bind fun bs => (c.decode bs.flatten).map some) <| by
    intro a
    cases a with
    | none => rfl
    | some a => simp [allOf, Payload.bytes?, c.decode_encode]

/-- Fields of different tags side by side. -/
def and (r : Rows α) (r' : Rows β) (h : ∀ t ∈ r.tags, t ∉ r'.tags) : Rows (α × β) where
  tags := r.tags ++ r'.tags
  write a := r.write a.1 ++ r'.write a.2
  read fs := (r.read fs).bind fun a => (r'.read fs).map fun b => (a, b)
  tagged a f hf := by
    rcases List.mem_append.mp hf with hf | hf
    · exact List.mem_append_left _ (r.tagged a.1 f hf)
    · exact List.mem_append_right _ (r'.tagged a.2 f hf)
  read_write a before after hbefore hafter := by
    simp only [List.mem_append, not_or] at hbefore hafter
    have hleft : r.read (before ++ r.write a.1 ++ (r'.write a.2 ++ after)) = some a.1 := by
      refine r.read_write a.1 _ _ (fun f hf => (hbefore f hf).1) fun f hf => ?_
      rcases List.mem_append.mp hf with hf | hf
      · exact fun ht => h f.1 ht (r'.tagged a.2 f hf)
      · exact (hafter f hf).1
    have hright : r'.read (before ++ r.write a.1 ++ r'.write a.2 ++ after) = some a.2 := by
      refine r'.read_write a.2 _ _ (fun f hf => ?_) fun f hf => (hafter f hf).2
      rcases List.mem_append.mp hf with hf | hf
      · exact (hbefore f hf).2
      · exact h f.1 (r.tagged a.1 f hf)
    simp only [List.append_assoc] at hleft hright ⊢
    rw [hleft, hright]
    rfl

end Rows

/-- The codec of a message with these fields. -/
def Codec.ofRows {α β : Type} (r : Rows β) (fields : α → β) (build : β → α)
    (h : ∀ a, build (fields a) = a) (htags : ∀ t ∈ r.tags, 0 < t) : Codec α where
  encode a := (r.write (fields a)).flatMap writeField
  decode l := (readFields l).bind fun fs => (r.read fs).map build
  decode_encode a := by
    have hread := r.read_write (fields a) [] [] (by simp) (by simp)
    rw [List.nil_append, List.append_nil] at hread
    rw [readFields_write fun f hf => htags _ (r.tagged (fields a) f hf), Option.bind_some, hread,
      Option.map_some, h]

end Proto
