import Ibc.Model.Identifier
import Ibc.Support.Utf8

/-!
# The grammar of identifiers

The host requirements say which texts are identifiers: letters, digits and nine other characters,
and how many of them. The checks ask for the alphanumeric characters of all of Unicode instead, and
they count bytes. On ASCII texts the two agree, whatever the kind of identifier, so the checks
follow the grammar on a text just when the text is ASCII or they refuse it: for a character, or for
the number of its bytes.
-/

namespace Ibc

/-- The identifiers of the host requirements, from `min` to `max` characters long. `isAlphanum` are
the ASCII letters and digits. -/
structure Grammar (min max : ℕ) (s : String) : Prop where
  chars : ∀ c ∈ s.toList, c.isAlphanum ∨ c ∈ ['.', '_', '+', '-', '#', '[', ']', '<', '>']
  length : min ≤ s.length ∧ s.length ≤ max

/-- A check that lets the grammar's texts through and no others, so that characters and bytes are
the same number. -/
structure FollowsGrammar (accepts : Prop) (min max : ℕ) (s : String) : Prop where
  accepts_iff : accepts ↔ Grammar min max s
  bytes : accepts → s.utf8ByteSize = s.length

variable {alnum : Char → Bool} {min max : ℕ} {s : String}

/-! ### What the checks accept -/

theorem validateIdentifierChars_eq_ok : validateIdentifierChars alnum s = .ok () ↔
    IdentifierWf s ∧ ∀ c ∈ s.toList, alnum c ∨ c ∈ validSpecialChars := by
  constructor
  · intro h
    refine ⟨validateIdentifierChars_wf h, ?_⟩
    unfold validateIdentifierChars at h
    split_ifs at h with hempty hslash hall
    simpa using hall
  · rintro ⟨hwf, hall⟩
    rw [validateIdentifierChars, if_neg hwf.nonempty, if_neg hwf.noSeparator, if_pos]
    simpa using hall

theorem validateIdentifierLength_eq_ok : validateIdentifierLength s min max = .ok () ↔
    min ≤ s.utf8ByteSize ∧ s.utf8ByteSize ≤ max := by
  unfold validateIdentifierLength
  split_ifs with h
  · simp only [false_iff]
    omega
  · simp only [true_iff]
    omega

theorem validateIdentifier_eq_ok : validateIdentifier alnum min max s = .ok () ↔
    (IdentifierWf s ∧ ∀ c ∈ s.toList, alnum c ∨ c ∈ validSpecialChars) ∧
      min ≤ s.utf8ByteSize ∧ s.utf8ByteSize ≤ max := by
  rw [← validateIdentifierChars_eq_ok, ← validateIdentifierLength_eq_ok]
  constructor
  · intro h
    obtain ⟨⟨⟩, hchars, hlength⟩ := Result.bind_eq_ok.mp h
    exact ⟨hchars, hlength⟩
  · rintro ⟨hchars, hlength⟩
    exact Result.bind_eq_ok.mpr ⟨(), hchars, hlength⟩

/-! ### ASCII texts -/

theorem isAscii_of_special : ∀ c ∈ validSpecialChars, Utf8.IsAscii c :=
  Utf8.isAscii_of_all (by decide)

theorem Grammar.isAscii (h : Grammar min max s) : ∀ c ∈ s.toList, Utf8.IsAscii c := by
  intro c hc
  rcases h.chars c hc with halnum | hspecial
  · exact Utf8.isAscii_of_isAlphanum halnum
  · exact isAscii_of_special c hspecial

/-- The tables of alphanumeric characters hold the letters and digits of ASCII, and no other
ASCII character. -/
def AlnumOnAscii (alnum : Char → Bool) : Prop := ∀ c, Utf8.IsAscii c → alnum c = c.isAlphanum

/-- A text of the grammar is not empty and has no separator, so these checks add nothing. -/
theorem Grammar.wf (hmin : 0 < min) (h : Grammar min max s) : IdentifierWf s where
  nonempty := by
    rintro rfl
    exact absurd (hmin.trans_le h.length.1) (by decide)
  noSeparator := by
    intro hmem
    exact absurd (h.chars '/' hmem) (by decide)

/-- On an ASCII text the checks and the grammar agree. -/
theorem validateIdentifier_iff_grammar (halnum : AlnumOnAscii alnum) (hmin : 0 < min)
    (hascii : ∀ c ∈ s.toList, Utf8.IsAscii c) :
    validateIdentifier alnum min max s = .ok () ↔ Grammar min max s := by
  rw [validateIdentifier_eq_ok, Utf8.utf8ByteSize_eq_length hascii]
  constructor
  · rintro ⟨⟨-, hchars⟩, hlength⟩
    refine ⟨fun c hc => ?_, hlength⟩
    rw [← halnum c (hascii c hc)]
    exact hchars c hc
  · intro h
    refine ⟨⟨h.wf hmin, fun c hc => ?_⟩, h.length⟩
    rw [halnum c (hascii c hc)]
    exact h.chars c hc

/-! ### Refused texts -/

/-- A text with a character that is neither alphanumeric nor one of the nine, or of too few or too
many bytes. -/
def Refused (alnum : Char → Bool) (min max : ℕ) (s : String) : Prop :=
  (∃ c ∈ s.toList, alnum c = false ∧ c ∉ validSpecialChars) ∨ s.utf8ByteSize < min ∨
    max < s.utf8ByteSize

/-- The empty text and the separator are refused by the other checks already. -/
theorem validateIdentifier_ne_ok (halnum : AlnumOnAscii alnum) (hmin : 0 < min) :
    validateIdentifier alnum min max s ≠ .ok () ↔ Refused alnum min max s := by
  rw [Ne, validateIdentifier_eq_ok]
  constructor
  · intro hno
    by_contra hallowed
    simp only [Refused, not_or, not_exists, not_and, not_lt, Decidable.not_not] at hallowed
    obtain ⟨hchars, hlow, hhigh⟩ := hallowed
    have hallowed_char : ∀ c ∈ s.toList, alnum c ∨ c ∈ validSpecialChars := by
      intro c hc
      cases hval : alnum c with
      | false => exact .inr (hchars c hc hval)
      | true => exact .inl rfl
    refine hno ⟨⟨⟨?_, fun hslash => ?_⟩, hallowed_char⟩, hlow, hhigh⟩
    · rintro rfl
      exact absurd (hmin.trans_le hlow) (by decide)
    · have hslash_alnum : alnum '/' = false := halnum '/' (by decide)
      exact absurd (hchars '/' hslash hslash_alnum) (by decide)
  · rintro (⟨c, hc, hno, hspecial⟩ | hlow | hhigh) ⟨⟨-, hchars⟩, hlength⟩
    · exact (hchars c hc).elim (Bool.eq_false_iff.mp hno) hspecial
    · omega
    · omega

/-- The checks follow the grammar on the texts they refuse and on the ASCII texts: the grammar has
no other texts. -/
theorem followsGrammar_iff {accepts : Prop} (halnum : AlnumOnAscii alnum) (hmin : 0 < min)
    (haccepts : accepts ↔ validateIdentifier alnum min max s = .ok ()) :
    FollowsGrammar accepts min max s ↔
      Refused alnum min max s ∨ ∀ c ∈ s.toList, Utf8.IsAscii c := by
  rw [← validateIdentifier_ne_ok halnum hmin, Ne, ← haccepts, ← imp_iff_not_or]
  constructor
  · intro h hs
    exact (h.accepts_iff.mp hs).isAscii
  · intro h
    refine ⟨⟨fun hs => ?_, fun hgrammar => ?_⟩, fun hs => Utf8.utf8ByteSize_eq_length (h hs)⟩
    · exact (validateIdentifier_iff_grammar halnum hmin (h hs)).mp (haccepts.mp hs)
    · -- Nothing is known of a refused text, but one of the grammar is ASCII by itself.
      exact haccepts.mpr
        ((validateIdentifier_iff_grammar halnum hmin hgrammar.isAscii).mpr hgrammar)

/-! ### The kinds of identifiers -/

/-- A kind of identifier accepts what its check lets through: the identifier of a text can be built
from what the check has found out about the text. -/
theorem exists_ok_iff {α : Type} {r : Except IdentifierError α} {str : α → String}
    (mk : IdentifierWf s → α) (hmk : ∀ h, str (mk h) = s)
    (hr : ∀ {id}, r = .ok id ↔ str id = s ∧ validateIdentifier alnum min max s = .ok ()) :
    (∃ id, r = .ok id) ↔ validateIdentifier alnum min max s = .ok () := by
  constructor
  · rintro ⟨id, hid⟩
    exact (hr.mp hid).2
  · intro h
    exact ⟨mk (validateIdentifier_wf h), hr.mpr ⟨hmk _, h⟩⟩

theorem ClientId.exists_fromStr :
    (∃ id, ClientId.fromStr alnum s = .ok id) ↔ validateIdentifier alnum 9 64 s = .ok () :=
  exists_ok_iff (ClientId.mk s) (fun _ => rfl) ClientId.fromStr_eq_ok

theorem ConnectionId.exists_fromStr :
    (∃ id, ConnectionId.fromStr alnum s = .ok id) ↔ validateIdentifier alnum 10 64 s = .ok () :=
  exists_ok_iff (ConnectionId.mk s) (fun _ => rfl) ConnectionId.fromStr_eq_ok

theorem PortId.exists_fromStr :
    (∃ id, PortId.fromStr alnum s = .ok id) ↔ validateIdentifier alnum 2 128 s = .ok () :=
  exists_ok_iff (PortId.mk s) (fun _ => rfl) PortId.fromStr_eq_ok

theorem ChannelId.exists_fromStr :
    (∃ id, ChannelId.fromStr alnum s = .ok id) ↔ validateIdentifier alnum 8 64 s = .ok () :=
  exists_ok_iff (ChannelId.mk s) (fun _ => rfl) ChannelId.fromStr_eq_ok

/-- Each kind of identifier follows the grammar on a text just when the text is refused or is
ASCII. -/
theorem identifiers_follow_grammar (alnum : Char → Bool) (halnum : AlnumOnAscii alnum)
    (s : String) :
    (FollowsGrammar (∃ id, ClientId.fromStr alnum s = .ok id) 9 64 s ↔
      Refused alnum 9 64 s ∨ ∀ c ∈ s.toList, Utf8.IsAscii c) ∧
    (FollowsGrammar (∃ id, ConnectionId.fromStr alnum s = .ok id) 10 64 s ↔
      Refused alnum 10 64 s ∨ ∀ c ∈ s.toList, Utf8.IsAscii c) ∧
    (FollowsGrammar (∃ id, PortId.fromStr alnum s = .ok id) 2 128 s ↔
      Refused alnum 2 128 s ∨ ∀ c ∈ s.toList, Utf8.IsAscii c) ∧
    (FollowsGrammar (∃ id, ChannelId.fromStr alnum s = .ok id) 8 64 s ↔
      Refused alnum 8 64 s ∨ ∀ c ∈ s.toList, Utf8.IsAscii c) :=
  ⟨followsGrammar_iff halnum (by decide) ClientId.exists_fromStr,
    followsGrammar_iff halnum (by decide) ConnectionId.exists_fromStr,
    followsGrammar_iff halnum (by decide) PortId.exists_fromStr,
    followsGrammar_iff halnum (by decide) ChannelId.exists_fromStr⟩

/-- The port of token transfers is accepted, and it is ASCII. -/
theorem transfer_port_follows_grammar :
    PortId.fromStr Char.isAlphanum "transfer" = .ok PortId.transfer ∧
    FollowsGrammar (∃ id, PortId.fromStr Char.isAlphanum "transfer" = .ok id) 2 128 "transfer" :=
  ⟨by decide +kernel,
    (identifiers_follow_grammar Char.isAlphanum (fun _ _ => rfl) "transfer").2.2.1.mpr
      (.inr (Utf8.isAscii_of_all (by decide +kernel)))⟩

/-- An accented letter is alphanumeric and has two bytes. Each kind accepts a text with it that is
outside of the grammar, which is too short as well when characters are counted. -/
theorem accented_identifiers_accepted :
    let alnum : Char → Bool := fun c => c.isAlphanum || c == 'é'
    AlnumOnAscii alnum ∧
    (∃ id, ClientId.fromStr alnum "clientés" = .ok id) ∧ ¬ Grammar 9 64 "clientés" ∧
    (∃ id, ConnectionId.fromStr alnum "connexité" = .ok id) ∧ ¬ Grammar 10 64 "connexité" ∧
    (∃ id, PortId.fromStr alnum "é" = .ok id) ∧ ¬ Grammar 2 128 "é" ∧
    (∃ id, ChannelId.fromStr alnum "channél" = .ok id) ∧ ¬ Grammar 8 64 "channél" := by
  intro alnum
  have halnum : AlnumOnAscii alnum := by
    intro c hc
    have hne : c ≠ 'é' := by
      rintro rfl
      exact absurd hc (by decide)
    simp [alnum, hne]
  refine ⟨halnum, ClientId.exists_fromStr.mpr ?_, ?_, ConnectionId.exists_fromStr.mpr ?_, ?_,
    PortId.exists_fromStr.mpr ?_, ?_, ChannelId.exists_fromStr.mpr ?_, ?_⟩
  · decide +kernel
  · exact fun h => absurd h.length.1 (by decide +kernel)
  · decide +kernel
  · exact fun h => absurd h.length.1 (by decide +kernel)
  · decide +kernel
  · exact fun h => absurd h.length.1 (by decide +kernel)
  · decide +kernel
  · exact fun h => absurd h.length.1 (by decide +kernel)

end Ibc
