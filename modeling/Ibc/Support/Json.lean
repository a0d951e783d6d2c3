import Mathlib.Tactic.Common

/-!
# JSON objects with one string

A reader for the JSON text of an object with a single member whose value is a string, over a list
of characters. Blanks may stand between the tokens, a string ends at the first quotation mark that
is not escaped, and control characters are refused in it.

An object whose texts are put between quotation marks as they are (`object`) is read back exactly
when its value is `Plain`, with nothing to escape (`readObject_eq_self`).
-/

namespace Json

/-! ### Strings -/

def hexDigit (c : Char) : Option ℕ :=
  if '0' ≤ c ∧ c ≤ '9' then some (c.toNat - '0'.toNat)
  else if 'a' ≤ c ∧ c ≤ 'f' then some (c.toNat - 'a'.toNat + 10)
  else if 'A' ≤ c ∧ c ≤ 'F' then some (c.toNat - 'A'.toNat + 10)
  else none

/-- Four hexadecimal digits. -/
def readHex : List Char → Option (ℕ × List Char)
  | a :: b :: c :: d :: l => do
      let a ← hexDigit a
      let b ← hexDigit b
      let c ← hexDigit c
      let d ← hexDigit d
      pure (((a * 16 + b) * 16 + c) * 16 + d, l)
  | _ => none

/-- A code point after `\u`. A leading surrogate has to be followed by a trailing one. -/
def readUnicode (l : List Char) : Option (Char × List Char) := do
  let (n, l) ← readHex l
  if 0xDC00 ≤ n ∧ n ≤ 0xDFFF then none
  else if 0xD800 ≤ n ∧ n ≤ 0xDBFF then
    match l with
    | '\\' :: 'u' :: l => do
        let (m, l) ← readHex l
        if 0xDC00 ≤ m ∧ m ≤ 0xDFFF then
          pure (Char.ofNat ((n - 0xD800) * 0x400 + (m - 0xDC00) + 0x10000), l)
        else none
    | _ => none
  else pure (Char.ofNat n, l)

/-- What a backslash stands for, with what follows it. -/
def readEscape : List Char → Option (Char × List Char)
  | [] => none
  | c :: l =>
      if c = '"' ∨ c = '\\' ∨ c = '/' then some (c, l)
      else if c = 'b' then some ('\x08', l)
      else if c = 'f' then some ('\x0c', l)
      else if c = 'n' then some ('\n', l)
      else if c = 'r' then some ('\r', l)
      else if c = 't' then some ('\t', l)
      else if c = 'u' then readUnicode l
      else none

/-- The characters up to the closing quotation mark. The first argument bounds their number. -/
def readStringUpTo : ℕ → List Char → Option (List Char × List Char)
  | 0, _ => none
  | _ + 1, [] => none
  | k + 1, c :: l =>
      if c = '"' then some ([], l)
      else if c = '\\' then do
        let (d, l) ← readEscape l
        let (ds, l) ← readStringUpTo k l
        pure (d :: ds, l)
      else if c.toNat < 0x20 then none
      else do
        let (cs, l) ← readStringUpTo k l
        pure (c :: cs, l)

def readString (l : List Char) : Option (List Char × List Char) := readStringUpTo l.length l

/-! ### Objects -/

def skipBlanks (l : List Char) : List Char :=
  l.dropWhile fun c => c = ' ' ∨ c = '\n' ∨ c = '\t' ∨ c = '\r'

/-- Blanks, then the character `c`. -/
def expect (c : Char) (l : List Char) : Option (List Char) :=
  match skipBlanks l with
  | d :: l => if d = c then some l else none
  | [] => none

/-- An object with one member, and nothing after it: its name and its value. -/
def readObject (l : List Char) : Option (String × String) := do
  let l ← expect '\x7b' l
  let l ← expect '"' l
  let (name, l) ← readString l
  let l ← expect ':' l
  let l ← expect '"' l
  let (value, l) ← readString l
  let l ← expect '\x7d' l
  if skipBlanks l = [] then pure (String.ofList name, String.ofList value) else none

/-! ### Plain text -/

/-- Nothing in the text has to be escaped. -/
def Plain (t : List Char) : Prop := ∀ c ∈ t, c ≠ '"' ∧ c ≠ '\\' ∧ 0x20 ≤ c.toNat

instance (t : List Char) : Decidable (Plain t) :=
  List.decidableBAll (fun c => c ≠ '"' ∧ c ≠ '\\' ∧ 0x20 ≤ c.toNat) t

theorem Plain.readStringUpTo {t l : List Char} (h : Plain t) {k : ℕ} (hk : t.length < k) :
    readStringUpTo k (t ++ '"' :: l) = some (t, l) := by
  induction t generalizing k with
  | nil =>
    obtain ⟨k, rfl⟩ := Nat.exists_eq_succ_of_ne_zero (Nat.ne_of_gt hk)
    rfl
  | cons c t ih =>
    obtain ⟨k, rfl⟩ := Nat.exists_eq_succ_of_ne_zero (Nat.ne_of_gt (Nat.zero_lt_of_lt hk))
    obtain ⟨hquote, hback, hcontrol⟩ := h c List.mem_cons_self
    have hrest := ih (fun d hd => h d (List.mem_cons_of_mem c hd)) (Nat.lt_of_succ_lt_succ hk)
    rw [List.cons_append, Json.readStringUpTo, if_neg hquote, if_neg hback,
      if_neg (Nat.not_lt.mpr hcontrol), hrest]
    rfl

/-- Plain text between quotation marks is read as it is. -/
theorem Plain.readString {t l : List Char} (h : Plain t) :
    readString (t ++ '"' :: l) = some (t, l) :=
  h.readStringUpTo (by simp)

theorem readHex_suffix {l l' : List Char} {n : ℕ} (h : readHex l = some (n, l')) :
    ∃ used, l = used ++ l' := by
  unfold readHex at h
  split at h
  · next a b c d l =>
    simp only [Option.bind_eq_bind, Option.bind_eq_some_iff, Option.pure_def, Option.some.injEq,
      Prod.mk.injEq] at h
    obtain ⟨-, -, -, -, -, -, -, -, -, rfl⟩ := h
    exact ⟨[a, b, c, d], rfl⟩
  · cases h

theorem readUnicode_suffix {l l' : List Char} {c : Char} (h : readUnicode l = some (c, l')) :
    ∃ used, l = used ++ l' := by
  simp only [readUnicode, Option.bind_eq_bind, Option.bind_eq_some_iff] at h
  obtain ⟨⟨n, l₁⟩, hn, h⟩ := h
  obtain ⟨used, rfl⟩ := readHex_suffix hn
  split_ifs at h
  · split at h
    · next l₂ hl₁ =>
      obtain rfl : l₁ = '\\' :: 'u' :: l₂ := hl₁
      simp only [Option.bind_eq_some_iff] at h
      obtain ⟨⟨m, l₃⟩, hm, h⟩ := h
      obtain ⟨used', rfl⟩ := readHex_suffix hm
      split_ifs at h
      obtain ⟨-, rfl⟩ := Prod.mk.inj (Option.some.inj h)
      exact ⟨used ++ '\\' :: 'u' :: used', by simp⟩
    · cases h
  · obtain ⟨-, rfl⟩ := Prod.mk.inj (Option.some.inj h)
    exact ⟨used, rfl⟩

/-- An escape uses at least one character. -/
theorem readEscape_suffix {l l' : List Char} {c : Char} (h : readEscape l = some (c, l')) :
    ∃ used, used ≠ [] ∧ l = used ++ l' := by
  cases l with
  | nil => cases h
  | cons d l =>
    have hone {e : Char} (h : some (e, l) = some (c, l')) :
        ∃ used, used ≠ [] ∧ d :: l = used ++ l' := by
      obtain ⟨-, rfl⟩ := Prod.mk.inj (Option.some.inj h)
      exact ⟨[d], List.cons_ne_nil _ _, rfl⟩
    simp only [readEscape] at h
    split_ifs at h
    iterate 6 exact hone h
    obtain ⟨used, rfl⟩ := readUnicode_suffix h
    exact ⟨d :: used, List.cons_ne_nil _ _, rfl⟩

/-- What reading a string uses up: at least as many characters as it gives, and as many only if
they were read as they are. -/
theorem readStringUpTo_used {k : ℕ} {l l' t : List Char} (h : readStringUpTo k l = some (t, l')) :
    ∃ used, l = used ++ '"' :: l' ∧ t.length ≤ used.length ∧
      (t.length = used.length → used = t ∧ Plain t) := by
  induction k generalizing l t with
  | zero => cases h
  | succ k ih =>
    cases l with
    | nil => cases h
    | cons c l =>
      simp only [readStringUpTo] at h
      split_ifs at h with hquote hback hcontrol
      · cases h
        subst hquote
        exact ⟨[], rfl, Nat.le_refl 0, fun _ => ⟨rfl, List.forall_mem_nil _⟩⟩
      · simp only [Option.bind_eq_bind, Option.bind_eq_some_iff] at h
        obtain ⟨⟨d, l₁⟩, hd, ⟨ds, l₂⟩, hds, h⟩ := h
        cases h
        obtain ⟨escape, hne, rfl⟩ := readEscape_suffix hd
        obtain ⟨used, rfl, hle, -⟩ := ih hds
        have hpos : 0 < escape.length := List.length_pos_iff.mpr hne
        refine ⟨c :: escape ++ used, by simp, ?_, ?_⟩
        · simp only [List.length_cons, List.length_append]
          omega
        · simp only [List.length_cons, List.length_append]
          omega
      · simp only [Option.bind_eq_bind, Option.bind_eq_some_iff] at h
        obtain ⟨⟨cs, l₁⟩, hcs, h⟩ := h
        cases h
        obtain ⟨used, rfl, hle, heq⟩ := ih hcs
        refine ⟨c :: used, rfl, Nat.succ_le_succ hle, fun hlen => ?_⟩
        obtain ⟨rfl, hplain⟩ := heq (Nat.succ.inj hlen)
        exact ⟨rfl, List.forall_mem_cons.mpr ⟨⟨hquote, hback, Nat.not_lt.mp hcontrol⟩, hplain⟩⟩

/-- A text between quotation marks is read back only when it is plain. What follows the closing
mark must not be another one. -/
theorem plain_of_readString {t l' : List Char} {c : Char} (hc : c ≠ '"')
    (h : readString (t ++ ['"', c]) = some (t, l')) : Plain t := by
  obtain ⟨used, hused, hle, heq⟩ := readStringUpTo_used h
  have hlen := congrArg List.length hused
  simp only [List.length_append, List.length_cons, List.length_nil] at hlen
  rcases Nat.eq_or_lt_of_le hle with hsame | hlonger
  · exact (heq hsame).2
  · -- one character more was used: the closing mark is the last character
    obtain rfl : l' = [] := List.eq_nil_of_length_eq_zero (by omega)
    have hlast := congrArg List.getLast? hused
    simp at hlast
    exact absurd hlast hc

/-! ### Objects written as they are -/

/-- The JSON text of an object with one member, with nothing escaped. -/
def object (name value : List Char) : List Char :=
  '\x7b' :: '"' :: (name ++ '"' :: ':' :: '"' :: (value ++ ['"', '\x7d']))

theorem expect_cons {c : Char} {l : List Char} (hc : skipBlanks (c :: l) = c :: l) :
    expect c (c :: l) = some l := by
  simp [expect, hc]

/-- After a plain name, reading an object is reading its value. -/
theorem readObject_object {name value : List Char} (hname : Plain name) :
    readObject (object name value) = (readString (value ++ ['"', '\x7d'])).bind fun r =>
      (expect '\x7d' r.2).bind fun l =>
        if skipBlanks l = [] then some (String.ofList name, String.ofList r.1) else none := by
  rw [readObject, object, expect_cons (by rfl), Option.bind_eq_bind, Option.bind_some,
    expect_cons (by rfl), Option.bind_some, hname.readString]
  rfl

/-- An object that is read has the name it was written with. -/
theorem readObject_name {name value : List Char} (hname : Plain name) {member : String × String}
    (h : readObject (object name value) = some member) : member.1 = String.ofList name := by
  rw [readObject_object hname] at h
  obtain ⟨r, -, h⟩ := Option.bind_eq_some_iff.mp h
  obtain ⟨l, -, h⟩ := Option.bind_eq_some_iff.mp h
  split_ifs at h
  cases h
  rfl

/-- **An object written as it is is read back exactly when its value is plain.** -/
theorem readObject_eq_self {name value : List Char} (hname : Plain name) :
    readObject (object name value) = some (String.ofList name, String.ofList value) ↔
      Plain value := by
  rw [readObject_object hname]
  constructor
  · intro h
    obtain ⟨⟨t, l⟩, ht, h⟩ := Option.bind_eq_some_iff.mp h
    obtain ⟨l', -, h⟩ := Option.bind_eq_some_iff.mp h
    split_ifs at h
    obtain rfl : t = value := String.ofList_injective (Prod.mk.inj (Option.some.inj h)).2
    exact plain_of_readString (by decide) ht
  · intro h
    rw [h.readString]
    rfl

end Json
