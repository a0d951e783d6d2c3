import Ibc.Model.ClientHandler
import Ibc.Protocol.Grammar
import Ibc.Protocol.MockRun
import Ibc.Support.Numerals
import Mathlib.Data.List.TakeWhile

/-!
# Client types

The identifier of a client is its type and a counter. A type is checked once, with the least and the
greatest counter; the numerals of all others are between these two in length
(`utf8ByteSize_toString`). So a type that passes has an identifier for every counter, and one that
does not pass is without some (`validateClientType_iff`).
-/

namespace Ibc

variable {alnum : Char → Bool} {t : String}

/-! ### The length of an identifier -/

theorem isAlphanum_of_isDigit {c : Char} (hc : c.isDigit) : c.isAlphanum :=
  Bool.or_eq_true_iff.mpr (.inr hc)

/-- A 64-bit number has from one to twenty digits. -/
theorem utf8ByteSize_toString {n : ℕ} (hn : n < UInt64.size) :
    1 ≤ (toString n).utf8ByteSize ∧ (toString n).utf8ByteSize ≤ 20 := by
  have hascii : ∀ c ∈ (toString n).toList, Utf8.IsAscii c := by
    intro c hc
    exact Utf8.isAscii_of_isAlphanum (isAlphanum_of_isDigit (Numeral.isDigit_of_mem_toString hc))
  rw [Utf8.utf8ByteSize_eq_length hascii, ← String.length_toList, Nat.toString_eq_repr,
    Nat.toList_repr]
  refine ⟨Nat.length_toDigits_pos, ?_⟩
  rw [Nat.length_toDigits_le_iff (by decide) (by decide)]
  exact hn.trans (by decide)

theorem utf8ByteSize_counter (t : String) (n : ℕ) :
    (t ++ "-" ++ toString n).utf8ByteSize = t.utf8ByteSize + 1 + (toString n).utf8ByteSize := by
  rw [String.utf8ByteSize_append, String.utf8ByteSize_append]
  rfl

theorem utf8ByteSize_zero : (toString 0).utf8ByteSize = 1 := by decide +kernel

theorem utf8ByteSize_greatest : (toString (UInt64.size - 1)).utf8ByteSize = 20 := by decide +kernel

/-- The two counters that are tried leave from 7 to 43 bytes for the type. -/
theorem validateClientType_eq_ok : validateClientType alnum t = .ok () ↔
    (IdentifierWf t ∧ ∀ c ∈ t.toList, alnum c ∨ c ∈ validSpecialChars) ∧
      7 ≤ t.utf8ByteSize ∧ t.utf8ByteSize ≤ 43 := by
  have hlength : validatePrefixLength t 9 64 = .ok () ↔
      7 ≤ t.utf8ByteSize ∧ t.utf8ByteSize ≤ 43 := by
    constructor
    · intro h
      obtain ⟨⟨⟩, h₀, h₁⟩ := Result.bind_eq_ok.mp h
      rw [validateIdentifierLength_eq_ok, utf8ByteSize_counter, utf8ByteSize_zero] at h₀
      rw [validateIdentifierLength_eq_ok, utf8ByteSize_counter, utf8ByteSize_greatest] at h₁
      omega
    · intro h
      refine Result.bind_eq_ok.mpr ⟨(), ?_, ?_⟩
      · rw [validateIdentifierLength_eq_ok, utf8ByteSize_counter, utf8ByteSize_zero]
        omega
      · rw [validateIdentifierLength_eq_ok, utf8ByteSize_counter, utf8ByteSize_greatest]
        omega
  rw [← validateIdentifierChars_eq_ok, ← hlength]
  constructor
  · intro h
    obtain ⟨⟨⟩, hchars, hlen⟩ := Result.bind_eq_ok.mp h
    exact ⟨hchars, hlen⟩
  · rintro ⟨hchars, hlen⟩
    exact Result.bind_eq_ok.mpr ⟨(), hchars, hlen⟩

/-! ### Identifiers of a type -/

/-- What follows the type is a dash and digits, which are allowed. -/
theorem mem_counter (halnum : AlnumOnAscii alnum) {n : ℕ} {c : Char}
    (hc : c ∈ (t ++ "-" ++ toString n).toList) :
    c ∈ t.toList ∨ (alnum c ∨ c ∈ validSpecialChars) := by
  rw [String.toList_append, String.toList_append, List.mem_append, List.mem_append] at hc
  rcases hc with (htype | hdash) | hdigit
  · exact .inl htype
  · obtain rfl : c = '-' := List.mem_singleton.mp hdash
    exact .inr (.inr (by decide))
  · have halpha := isAlphanum_of_isDigit (Numeral.isDigit_of_mem_toString hdigit)
    exact .inr (.inl ((halnum c (Utf8.isAscii_of_isAlphanum halpha)).trans halpha))

/-- **The types that pass are those with an identifier for every counter.** -/
theorem validateClientType_iff (halnum : AlnumOnAscii alnum) :
    validateClientType alnum t = .ok () ↔
      ∀ n < UInt64.size, validateClientIdentifier alnum (t ++ "-" ++ toString n) = .ok () := by
  rw [validateClientType_eq_ok]
  constructor
  · rintro ⟨⟨hwf, hchars⟩, hlow, hhigh⟩ n hn
    have hsize := utf8ByteSize_toString hn
    refine validateIdentifier_eq_ok.mpr ⟨⟨identifierWf_counter hwf.noSeparator n, ?_⟩, ?_⟩
    · intro c hc
      rcases mem_counter halnum hc with htype | hallowed
      · exact hchars c htype
      · exact hallowed
    · rw [utf8ByteSize_counter]
      omega
  · intro h
    obtain ⟨⟨hwf, hchars⟩, hlow, -⟩ := validateIdentifier_eq_ok.mp (h 0 (by decide))
    obtain ⟨-, -, hhigh⟩ := validateIdentifier_eq_ok.mp (h (UInt64.size - 1) (by decide))
    rw [utf8ByteSize_counter, utf8ByteSize_zero] at hlow
    rw [utf8ByteSize_counter, utf8ByteSize_greatest] at hhigh
    have hmem {c : Char} (hc : c ∈ t.toList) : c ∈ (t ++ "-" ++ toString 0).toList := by
      rw [String.toList_append, String.toList_append]
      exact List.mem_append_left _ (List.mem_append_left _ hc)
    refine ⟨⟨⟨?_, fun hslash => hwf.noSeparator (hmem hslash)⟩, fun c hc => hchars c (hmem hc)⟩, ?_⟩
    · rintro rfl
      exact absurd hlow (by decide)
    · omega

/-- No alphanumeric character is white space. -/
def AlnumNotBlank (alnum : Char → Bool) : Prop := ∀ c, isWhiteSpace c → alnum c = false

/-- There is nothing to trim in a text of allowed characters. -/
theorem trim_eq_self (hblank : AlnumNotBlank alnum)
    (h : ∀ c ∈ t.toList, alnum c ∨ c ∈ validSpecialChars) : trim t = t := by
  have hall : validSpecialChars.all (fun c => !isWhiteSpace c) = true := by decide
  have hspecial : ∀ c ∈ validSpecialChars, isWhiteSpace c = false := by
    intro c hc
    simpa using List.all_eq_true.mp hall c hc
  have hchar : ∀ c ∈ t.toList, isWhiteSpace c = false := by
    intro c hc
    by_contra hspace
    rw [Bool.not_eq_false] at hspace
    rcases h c hc with halnum | hspec
    · rw [hblank c hspace] at halnum
      cases halnum
    · rw [hspecial c hspec] at hspace
      cases hspace
  have hdrop {l : List Char} (hl : ∀ c ∈ l, isWhiteSpace c = false) :
      l.dropWhile isWhiteSpace = l := by
    refine List.dropWhile_eq_self_iff.mpr fun hpos => ?_
    simp [hl _ (List.getElem_mem hpos)]
  rw [trim, hdrop hchar, hdrop fun c hc => hchar c (List.mem_reverse.mp hc), List.reverse_reverse,
    String.ofList_toList]

/-- The trimmed type decides alone, whatever the counter. -/
theorem ClientId.exists_new (halnum : AlnumOnAscii alnum) {n : ℕ} (hn : n < UInt64.size) :
    (∃ id, ClientId.new alnum ⟨t⟩ n = .ok id) ↔ validateClientType alnum (trim t) = .ok () := by
  constructor
  · rintro ⟨id, hid⟩
    exact (ClientId.new_eq_ok.mp hid).1
  · intro htype
    have hvalid := (validateClientType_iff halnum).mp htype n hn
    exact ⟨⟨_, validateIdentifier_wf hvalid⟩, ClientId.new_eq_ok.mpr ⟨htype, rfl, hvalid⟩⟩

section Creation

variable {CS Cons μ : Type} {H : Host CS Cons μ} {s : Ctx CS Cons μ} {clientState : CS}

theorem exists_newClientId (halnum : AlnumOnAscii H.library.isAlphanumeric)
    (hs : s.store.client.clientIdsCounter < UInt64.size) :
    (∃ id, newClientId H s clientState = .ok id) ↔
      validateClientType H.library.isAlphanumeric
        (trim (H.lightClient.clientType clientState).str) = .ok () := by
  simp only [newClientId, Result.mapError_eq_ok]
  exact ClientId.exists_new halnum hs

end Creation

/-- **A valid type has valid identifiers.** A type that passes its check has one for every counter,
and a type with one for every counter passes. So whether a client can be named does not depend on
how many there are. -/
theorem client_types_valid {CS Cons μ : Type} (H : Host CS Cons μ)
    (halnum : AlnumOnAscii H.library.isAlphanumeric)
    (hblank : AlnumNotBlank H.library.isAlphanumeric) :
    (∀ t, validateClientType H.library.isAlphanumeric t = .ok () → ∀ n < UInt64.size,
      ∃ id, ClientId.new H.library.isAlphanumeric ⟨t⟩ n = .ok id ∧
        id.str = t ++ "-" ++ toString n ∧
        validateClientIdentifier H.library.isAlphanumeric id.str = .ok ()) ∧
    (∀ t, (∀ n < UInt64.size, validateClientIdentifier H.library.isAlphanumeric
        (t ++ "-" ++ toString n) = .ok ()) →
      validateClientType H.library.isAlphanumeric t = .ok ()) ∧
    (∀ t : String, (∀ c ∈ t.toList, H.library.isAlphanumeric c ∨ c ∈ validSpecialChars) →
      (∀ n < UInt64.size, ∃ id, ClientId.new H.library.isAlphanumeric ⟨t⟩ n = .ok id) →
        validateClientType H.library.isAlphanumeric t = .ok ()) ∧
    (∀ (s s' : Ctx CS Cons μ) (clientState : CS),
      s.store.client.clientIdsCounter < UInt64.size →
      s'.store.client.clientIdsCounter < UInt64.size →
        ((∃ id, newClientId H s clientState = .ok id) ↔
          ∃ id, newClientId H s' clientState = .ok id)) := by
  refine ⟨?_, ?_, ?_, ?_⟩
  · intro t htype n hn
    have hvalid := (validateClientType_iff halnum).mp htype n hn
    have htrim : trim t = t := trim_eq_self hblank (validateClientType_eq_ok.mp htype).1.2
    refine ⟨⟨_, validateIdentifier_wf hvalid⟩, ClientId.new_eq_ok.mpr ?_, rfl, hvalid⟩
    rw [htrim]
    exact ⟨htype, rfl, hvalid⟩
  · intro t h
    exact (validateClientType_iff halnum).mpr h
  · intro t hchars h
    have htype := (ClientId.exists_new halnum (by decide)).mp (h 0 (by decide))
    rwa [trim_eq_self hblank hchars] at htype
  · intro s s' clientState hs hs'
    rw [exists_newClientId halnum hs, exists_newClientId halnum hs']

/-- An alphanumeric ASCII character is not white space. -/
theorem alnumNotBlank_isAlphanum : AlnumNotBlank Char.isAlphanum := by
  intro c hspace
  by_contra halpha
  rw [Bool.not_eq_false] at halpha
  have hall : (List.range 128).all (fun n =>
      !(isWhiteSpace (Char.ofNat n) && (Char.ofNat n).isAlphanum)) = true := by decide +kernel
  have hnone := List.all_eq_true.mp hall c.toNat
    (List.mem_range.mpr (Utf8.isAscii_of_isAlphanum halpha))
  rw [Char.ofNat_toNat, hspace, halpha] at hnone
  cases hnone

/-- The type of the Tendermint client passes, so it has an identifier with the greatest counter. -/
theorem tendermint_type_valid :
    validateClientType Char.isAlphanum "07-tendermint" = .ok () ∧
    ∃ id, ClientId.new Char.isAlphanum ⟨"07-tendermint"⟩ (2 ^ 64 - 1) = .ok id ∧
      id.str = "07-tendermint" ++ "-" ++ toString (2 ^ 64 - 1) ∧
      validateClientIdentifier Char.isAlphanum id.str = .ok () := by
  have htype : validateClientType Char.isAlphanum "07-tendermint" = .ok () := by decide +kernel
  exact ⟨htype, (client_types_valid MockRun.host (fun _ _ => rfl) alnumNotBlank_isAlphanum).1
    "07-tendermint" htype (2 ^ 64 - 1) (by decide)⟩

end Ibc
