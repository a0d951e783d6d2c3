import Ibc.Protocol.Paths
import Ibc.Support.Utf8
import Mathlib.Data.List.TakeWhile

/-!
# Chain identifiers

A chain identifier keeps its text and the revision number at the end of the text side by side. The
parser refuses zeros in front of the revision and leaves the rest to the parser of numbers, which
takes a plus sign. So the text is the name and the number in decimal, and everything that is rebuilt
from the two is the identifier again, unless the revision has a sign.
-/

namespace Ibc

/-! ### The last separator -/

/-- A list is cut before the first occurrence of an element. -/
theorem takeWhile_append_cons {a x : Char} {l rest : List Char}
    (h : l.dropWhile (· ≠ a) = x :: rest) : l = l.takeWhile (· ≠ a) ++ a :: rest := by
  have hx : x = a := by
    have hhead := List.head?_dropWhile_not (fun d => decide (d ≠ a)) l
    rw [h] at hhead
    simpa using hhead
  nth_rewrite 1 [← List.takeWhile_append_dropWhile (p := (· ≠ a)) (l := l)]
  rw [h, hx]

/-- What is behind the last separator has none itself. -/
theorem eq_of_rsplitOnce {s name rest : String} {c : Char}
    (h : rsplitOnce s c = some (name, rest)) :
    s.toList = name.toList ++ c :: rest.toList ∧ c ∉ rest.toList := by
  unfold rsplitOnce at h
  split at h
  · cases h
  · next x before hdrop =>
    cases h
    -- The text is read from its end: the last separator is the first one of the reverse.
    constructor
    · have hcut := congrArg List.reverse (takeWhile_append_cons hdrop)
      rw [List.reverse_reverse] at hcut
      nth_rewrite 1 [hcut]
      simp
    · simp only [String.toList_ofList, List.mem_reverse]
      intro hmem
      have hne := List.mem_takeWhile_imp hmem
      simp at hne

theorem rsplitOnce_of_eq {s name rest : String} {c : Char}
    (hs : s.toList = name.toList ++ c :: rest.toList) (hc : c ∉ rest.toList) :
    rsplitOnce s c = some (name, rest) := by
  have hrest : ∀ d ∈ rest.toList.reverse, decide (d ≠ c) = true := by
    intro d hd
    exact decide_eq_true fun heq => hc (heq ▸ List.mem_reverse.mp hd)
  have hreverse : s.toList.reverse = rest.toList.reverse ++ c :: name.toList.reverse := by
    simp [hs]
  rw [rsplitOnce, hreverse, List.dropWhile_append_of_pos hrest, List.takeWhile_append_of_pos hrest]
  simp

namespace ChainId

variable {alnum : Char → Bool} {c : ChainId} {s name : String} {n : ℕ}

/-- The text of a name with a revision number. -/
def format (name : String) (revisionNumber : ℕ) : String := name ++ "-" ++ toString revisionNumber

/-- The check against zeros in front: a text that starts with a zero has no second byte. -/
theorem not_zero_prefixed_iff {revision : String} :
    ¬ (revision.toList.head? = some '0' ∧ 1 < revision.utf8ByteSize) ↔
      (revision.toList.head? = some '0' → revision = "0") := by
  constructor
  · intro h hhead
    obtain ⟨rest, hrest⟩ := List.head?_eq_some_iff.mp hhead
    have hsize : revision.utf8ByteSize ≤ 1 := not_lt.mp fun hlt => h ⟨hhead, hlt⟩
    have hlen := (Utf8.length_le_utf8ByteSize revision).trans hsize
    rw [← String.length_toList, hrest, List.length_cons] at hlen
    obtain rfl : rest = [] := List.length_eq_zero_iff.mp (by omega)
    exact String.toList_inj.mp hrest
  · rintro h ⟨hhead, hlt⟩
    rw [h hhead] at hlt
    exact absurd hlt (by decide)

/-- The revision of an accepted text is a number that does not start with a zero, a single one
excepted. -/
theorem parse_eq_ok : parse alnum s = .ok (name, n) ↔
    validateIdentifierChars alnum name = .ok () ∧ ∃ revision,
      rsplitOnce s '-' = some (name, revision) ∧ parseU64 revision = some n ∧
        (revision.toList.head? = some '0' → revision = "0") := by
  constructor
  · intro h
    obtain ⟨⟨name', revision⟩, hsplit, h⟩ := Result.bind_eq_ok.mp h
    obtain ⟨⟨⟩, hname, h⟩ := Result.bind_eq_ok.mp h
    split_ifs at h with hzero
    obtain ⟨n', hn, h⟩ := Result.bind_eq_ok.mp h
    cases h
    exact ⟨hname, revision, Result.okOr_eq_ok.mp hsplit, Result.okOr_eq_ok.mp hn,
      not_zero_prefixed_iff.mp hzero⟩
  · rintro ⟨hname, revision, hsplit, hn, hzero⟩
    simp [parse, hsplit, hname, hn, if_neg (not_zero_prefixed_iff.mpr hzero)]

theorem parse_format (hname : validateIdentifierChars alnum name = .ok ()) (hn : n < UInt64.size) :
    parse alnum (format name n) = .ok (name, n) := by
  -- The name may have dashes, but the number has none: the last dash is the one between them.
  have hdash : '-' ∉ (toString n).toList := Numeral.notMem_toString (by decide) n
  have hsplit : rsplitOnce (format name n) '-' = some (name, toString n) :=
    rsplitOnce_of_eq (by simp [format]) hdash
  have hparse := parseU64_toString hn
  have hcanon := (toString_eq_iff_canonical hparse).mp rfl
  exact parse_eq_ok.mpr ⟨hname, toString n, hsplit, hparse, hcanon.2⟩

/-! ### Canonical identifiers -/

/-- The parts of an identifier are found in its text, and it is rebuilt from them. -/
structure Canonical (alnum : Char → Bool) (c : ChainId) : Prop where
  /-- The text is the name, a dash and the decimal number. -/
  text : ∃ name, (c.chainName alnum : Result Unit String) = .ok name ∧
    c.id = format name c.revisionNumber
  split : ∃ name, (c.splitChainId alnum : Result Unit (String × ℕ)) = .ok (name, c.revisionNumber)
  set_self : (c.setRevisionNumber alnum c.revisionNumber : Result Unit ChainId) = .ok c
  restored : ∀ n < UInt64.size, ∃ c' : ChainId,
    (c.setRevisionNumber alnum n : Result Unit ChainId) = .ok c' ∧
      (c'.setRevisionNumber alnum c.revisionNumber : Result Unit ChainId) = .ok c

theorem fromStr_eq_ok : fromStr alnum s = .ok c ↔
    c.id = s ∧ ∃ name, parse alnum s = .ok (name, c.revisionNumber) := by
  constructor
  · intro h
    obtain ⟨⟨name, n⟩, hparse, h⟩ := Result.bind_eq_ok.mp h
    cases h
    exact ⟨rfl, name, hparse⟩
  · rintro ⟨rfl, name, hparse⟩
    rw [fromStr, hparse]
    rfl

section Parsed

variable (h : parse alnum c.id = .ok (name, c.revisionNumber))

include h

theorem chainName_of_parse : (c.chainName alnum : Result Unit String) = .ok name := by
  rw [chainName, h]

theorem splitChainId_of_parse :
    (c.splitChainId alnum : Result Unit (String × ℕ)) = .ok (name, c.revisionNumber) := by
  rw [splitChainId, h]

theorem setRevisionNumber_of_parse (n : ℕ) :
    (c.setRevisionNumber alnum n : Result Unit ChainId) = .ok ⟨format name n, n⟩ := by
  rw [setRevisionNumber, chainName_of_parse h]
  rfl

/-- All of it is the first property: setting the revision number writes the text in the usual
form, and the name is found in that text again. -/
theorem canonical_iff_format : c.Canonical alnum ↔ c.id = format name c.revisionNumber := by
  constructor
  · rintro ⟨⟨name', hname, hid⟩, -, -, -⟩
    rw [chainName_of_parse h] at hname
    cases hname
    exact hid
  · intro hid
    have hset : (⟨format name c.revisionNumber, c.revisionNumber⟩ : ChainId) = c := by
      rw [← hid]
    refine ⟨⟨name, chainName_of_parse h, hid⟩, ⟨name, splitChainId_of_parse h⟩, ?_, ?_⟩
    · rw [setRevisionNumber_of_parse h, hset]
    · intro n hn
      -- The name has passed the check once, so it is found again before any number.
      have hparse := parse_format (parse_eq_ok.mp h).1 hn
      refine ⟨⟨format name n, n⟩, setRevisionNumber_of_parse h n, ?_⟩
      rw [setRevisionNumber_of_parse (c := ⟨format name n, n⟩) hparse, hset]

/-- The parser has refused the zeros in front, so a sign is all that can be left. -/
theorem format_iff_unsigned : c.id = format name c.revisionNumber ↔
    ∀ name' revision, rsplitOnce c.id '-' = some (name', revision) →
      revision.toList.head? ≠ some '+' := by
  obtain ⟨-, revision, hsplit, hparse, hzero⟩ := parse_eq_ok.mp h
  have hid : c.id = format name c.revisionNumber ↔ toString c.revisionNumber = revision := by
    rw [← String.toList_inj, (eq_of_rsplitOnce hsplit).1, eq_comm, ← String.toList_inj]
    simp [format]
  rw [hid, toString_eq_iff_canonical hparse]
  constructor
  · rintro ⟨hplus, -⟩ name' revision' hsplit'
    rw [hsplit] at hsplit'
    cases hsplit'
    exact hplus
  · intro hplus
    exact ⟨hplus name revision hsplit, hzero⟩

end Parsed

/-- What the constructor builds from a name is read back. -/
theorem fromStr_of_new {r : ℕ} (hr : r < UInt64.size) (h : ChainId.new alnum name r = .ok c) :
    fromStr alnum c.id = .ok c := by
  obtain ⟨⟨⟩, hchars, h⟩ := Result.bind_eq_ok.mp h
  obtain ⟨⟨⟩, -, h⟩ := Result.bind_eq_ok.mp h
  cases h
  exact fromStr_eq_ok.mpr ⟨rfl, trim name, parse_format hchars hr⟩

/-- Canonical identifiers with the same parts are equal. -/
theorem Canonical.eq {c' : ChainId} (hc : c.Canonical alnum) (hc' : c'.Canonical alnum)
    (hname : (c.chainName alnum : Result Unit String) = c'.chainName alnum)
    (hrevision : c.revisionNumber = c'.revisionNumber) : c = c' := by
  obtain ⟨name, hn, hid⟩ := hc.text
  obtain ⟨name', hn', hid'⟩ := hc'.text
  rw [hn, hn'] at hname
  cases hname
  cases c
  cases c'
  cases hrevision
  rw [ChainId.mk.injEq]
  exact ⟨hid.trans hid'.symm, rfl⟩

end ChainId

/-- An accepted text is canonical just when its revision has no sign. The constructor writes no
sign, and canonical identifiers are told apart by their name and revision. -/
theorem chain_ids_canonical (alnum : Char → Bool) :
    (∀ (s : String) (c : ChainId), ChainId.fromStr alnum s = .ok c →
      c.id = s ∧ (c.Canonical alnum ↔ ∀ name revision,
        rsplitOnce s '-' = some (name, revision) → revision.toList.head? ≠ some '+')) ∧
    (∀ (name : String) (r : ℕ) (c : ChainId), r < UInt64.size →
      ChainId.new alnum name r = .ok c → ChainId.fromStr alnum c.id = .ok c) ∧
    (∀ c c' : ChainId, c.Canonical alnum → c'.Canonical alnum →
      (c.chainName alnum : Result Unit String) = c'.chainName alnum →
        c.revisionNumber = c'.revisionNumber → c = c') := by
  refine ⟨?_, ?_, ?_⟩
  · intro s c h
    obtain ⟨rfl, name, hparse⟩ := ChainId.fromStr_eq_ok.mp h
    exact ⟨rfl, (ChainId.canonical_iff_format hparse).trans (ChainId.format_iff_unsigned hparse)⟩
  · intro name r c hr h
    exact ChainId.fromStr_of_new hr h
  · intro c c' hc hc' hname hrevision
    exact hc.eq hc' hname hrevision

theorem chain_one_canonical : (⟨"chain-1", 1⟩ : ChainId).Canonical Char.isAlphanum :=
  ((chain_ids_canonical Char.isAlphanum).1 "chain-1" ⟨"chain-1", 1⟩ (by decide +kernel)).2.mpr (by
    intro name revision h
    have hsplit : rsplitOnce "chain-1" '-' = some ("chain", "1") := by decide +kernel
    rw [hsplit] at h
    cases h
    decide +kernel)

/-- With a sign the text is accepted and is not the one its parts are written as: setting the
revision number to itself changes the identifier, into another one with the same parts. -/
theorem signed_revision_not_canonical :
    ChainId.fromStr Char.isAlphanum "chain-+1" = .ok ⟨"chain-+1", 1⟩ ∧
    (ChainId.chainName Char.isAlphanum ⟨"chain-+1", 1⟩ : Result Unit String) = .ok "chain" ∧
    "chain-+1" ≠ ChainId.format "chain" 1 ∧
    (ChainId.setRevisionNumber Char.isAlphanum ⟨"chain-+1", 1⟩ 1 : Result Unit ChainId) =
      .ok ⟨"chain-1", 1⟩ ∧
    ChainId.fromStr Char.isAlphanum "chain-1" = .ok ⟨"chain-1", 1⟩ ∧
    (ChainId.chainName Char.isAlphanum ⟨"chain-1", 1⟩ : Result Unit String) = .ok "chain" := by
  refine ⟨?_, ?_, ?_, ?_, ?_, ?_⟩ <;> decide +kernel

end Ibc
