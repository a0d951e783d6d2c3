import Ibc.Model.Codec
import Ibc.Support.Numerals
import Ibc.Tendermint.Upgrade

/-!
# Prefixes of stores

What a counterparty proves is proved under its prefix, which is the first key of each path. A prefix
is any bytes and a key is a text, so bytes that are no text need another key: the key is then a
report that says so (`reportText`). The report is a text, and it is the prefix of a chain that has
these bytes for its own. So a prefix selects one store unless it is such a report, or is reported on
(`toText_eq_iff`).
-/

namespace Ibc

open Proto

/-! ### Texts of prefixes -/

/-- What stands for bytes that are no text. -/
def reportText (bytes : Bytes) : String :=
  "<not valid UTF8: [" ++ ", ".intercalate (bytes.map toString) ++ "]>"

/-- The numerals of bytes, as characters. -/
theorem map_toString_toList (b : Bytes) :
    (b.map toString).map String.toList = b.map fun c => Nat.toDigits 10 c.toNat := by
  rw [List.map_map]
  exact List.map_congr_left fun c _ => Nat.toList_repr

theorem toList_reportText (b : Bytes) : (reportText b).toList = "<not valid UTF8: [".toList ++
    [',', ' '].intercalate (b.map fun c => Nat.toDigits 10 c.toNat) ++ "]>".toList := by
  have hsep : ", ".toList = [',', ' '] := by decide
  unfold reportText
  rw [String.toList_append, String.toList_append, String.toList_intercalate, map_toString_toList,
    hsep]

/-- A report names the bytes it is about. -/
theorem reportText_inj {b b' : Bytes} (hne : b ≠ []) (hne' : b' ≠ [])
    (h : reportText b = reportText b') : b = b' := by
  have hcomma (b : Bytes) : ∀ x ∈ b.map (fun c => Nat.toDigits 10 c.toNat), ',' ∉ x := by
    intro x hx
    obtain ⟨c, -, rfl⟩ := List.mem_map.mp hx
    exact Numeral.notMem_toDigits (by decide) c.toNat
  have hdigits : Function.Injective fun c : UInt8 => Nat.toDigits 10 c.toNat := by
    intro c c' hc
    exact UInt8.toNat_inj.mp (Numeral.toDigits_injective hc)
  -- What is around the numerals is the same in every report.
  have hchars := congrArg String.toList h
  rw [toList_reportText, toList_reportText, List.append_assoc, List.append_assoc] at hchars
  have hjoin := List.append_cancel_right (List.append_cancel_left hchars)
  have hparts := List.intercalate_inj (hcomma b) (hcomma b') (by simpa using hne)
    (by simpa using hne') hjoin
  exact List.map_injective_iff.mpr hdigits hparts

namespace CommitmentPrefix

variable {p q : CommitmentPrefix}

/-- The bytes are those of a text. -/
def IsText (p : CommitmentPrefix) : Prop := ∃ s, p.bytes = utf8 s

/-- The prefix is the report on another one, which is no text. -/
def ReportsOn (p q : CommitmentPrefix) : Prop := ¬ q.IsText ∧ p.bytes = utf8 (reportText q.bytes)

theorem toText_of_isText (h : p.IsText) : utf8 p.toText = p.bytes := by
  obtain ⟨s, hs⟩ := h
  rw [toText, Codec.string_decode_eq_some.mpr hs, hs]

theorem toText_of_not_isText (h : ¬ p.IsText) : p.toText = reportText p.bytes := by
  have hnone : Codec.string.decode p.bytes = none := by
    by_contra hsome
    obtain ⟨s, hs⟩ := Option.ne_none_iff_exists'.mp hsome
    exact h ⟨s, Codec.string_decode_eq_some.mp hs⟩
  rw [toText, hnone]
  rfl

theorem bytes_ne_nil_of_not_isText (h : ¬ p.IsText) : p.bytes ≠ [] := fun hnil => h ⟨"", hnil⟩

/-- The text is that of the bytes only if they are those of a text. -/
theorem utf8_toText_eq_iff : utf8 p.toText = p.bytes ↔ p.IsText :=
  ⟨fun h => ⟨p.toText, h.symm⟩, toText_of_isText⟩

theorem ReportsOn.isText (h : p.ReportsOn q) : p.IsText := ⟨reportText q.bytes, h.2⟩

theorem ReportsOn.ne (h : p.ReportsOn q) : p ≠ q := by
  rintro rfl
  exact h.1 h.isText

theorem ReportsOn.toText_eq (h : p.ReportsOn q) : p.toText = q.toText := by
  apply utf8_inj
  rw [toText_of_isText h.isText, toText_of_not_isText h.1, h.2]

/-- A text that is the same as that of bytes which are no text is their report. -/
theorem reportsOn_of_toText_eq (hp : p.IsText) (hq : ¬ q.IsText) (h : p.toText = q.toText) :
    p.ReportsOn q := by
  refine ⟨hq, ?_⟩
  rw [← toText_of_isText hp, h, toText_of_not_isText hq]

/-- **Prefixes with the same text**: the same prefix, or one is the report on the other. -/
theorem toText_eq_iff : p.toText = q.toText ↔ p = q ∨ p.ReportsOn q ∨ q.ReportsOn p := by
  constructor
  · intro h
    by_cases hp : p.IsText
    · by_cases hq : q.IsText
      · left
        rw [CommitmentPrefix.mk.injEq, ← toText_of_isText hp, h, toText_of_isText hq]
      · exact .inr (.inl (reportsOn_of_toText_eq hp hq h))
    · by_cases hq : q.IsText
      · exact .inr (.inr (reportsOn_of_toText_eq hq hp h.symm))
      · left
        rw [toText_of_not_isText hp, toText_of_not_isText hq] at h
        rw [CommitmentPrefix.mk.injEq]
        exact reportText_inj (bytes_ne_nil_of_not_isText hp) (bytes_ne_nil_of_not_isText hq) h
  · rintro (rfl | h | h)
    · rfl
    · exact h.toText_eq
    · exact h.toText_eq.symm

end CommitmentPrefix

/-! ### Proofs under a prefix -/

section Proofs

variable {lib : TmLibrary} {p q : CommitmentPrefix} {proof : CommitmentProofBytes}

/-- Some client accepts the proof under the prefix, of a value or of its absence. -/
def AcceptedUnder (lib : TmLibrary) (p : CommitmentPrefix) (proof : CommitmentProofBytes) : Prop :=
  ∃ (cs : TmClientState) (root : CommitmentRoot) (path : Path),
    (∃ value, cs.verifyMembership lib p proof root path value = .ok ()) ∨
      cs.verifyNonMembership lib p proof root path = .ok ()

/-- The outer part of an accepted proof names the prefix. -/
theorem AcceptedUnder.key (hkeys : lib.ics23.ChecksKeys) (h : AcceptedUnder lib p proof) :
    ∃ m, lib.decodeProof proof = .ok m ∧
      (m.proofs.map MerkleProof.keyOf).drop 1 = [some (utf8 p.toText)] := by
  obtain ⟨cs, root, path, ⟨value, h⟩ | h⟩ := h
  · obtain ⟨m, hm, hverify⟩ := TmClientState.verifyMembership_ok_iff.mp h
    have hparts := MerkleProof.keys_of_verifyMembership hkeys hverify
    exact ⟨m, hm, congrArg (List.drop 1) hparts⟩
  · obtain ⟨m, hm, hverify⟩ := TmClientState.verifyNonMembership_ok_iff.mp h
    obtain ⟨subroot, hmem⟩ := MerkleProof.verifyMembership_of_verifyNonMembership hverify
    exact ⟨m, hm, MerkleProof.keys_of_verifyMembership hkeys hmem⟩

/-- A proof is accepted under one text only. -/
theorem AcceptedUnder.toText_eq (hkeys : lib.ics23.ChecksKeys) (hp : AcceptedUnder lib p proof)
    (hq : AcceptedUnder lib q proof) : p.toText = q.toText := by
  obtain ⟨m, hm, hkey⟩ := hp.key hkeys
  obtain ⟨m', hm', hkey'⟩ := hq.key hkeys
  obtain rfl : m = m' := Except.ok.inj (hm.symm.trans hm')
  have heq := List.cons.inj (hkey.symm.trans hkey')
  exact utf8_inj (Option.some.inj heq.1)

/-- The client sees nothing of a prefix but its text. -/
theorem acceptedUnder_congr (h : p.toText = q.toText) :
    AcceptedUnder lib p proof ↔ AcceptedUnder lib q proof := by
  simp only [AcceptedUnder, TmClientState.verifyMembership, TmClientState.verifyNonMembership,
    applyPrefix, h]

end Proofs

open CommitmentPrefix

/-- **Prefixes and stores.** Two prefixes have no key path in common, unless one is the report on
the other. The first key has the bytes of the prefix just when these are a text. A proof is accepted
under one prefix at most, except that a report and what it is about have the same proofs. -/
theorem prefixes_select_stores (lib : TmLibrary) (hkeys : lib.ics23.ChecksKeys)
    (p q : CommitmentPrefix) :
    ((∀ x y, applyPrefix p x = applyPrefix q y → p = q ∧ x = y) ↔
      ¬ p.ReportsOn q ∧ ¬ q.ReportsOn p) ∧
    ((∀ x, (applyPrefix p x).head?.map utf8 = some p.bytes) ↔ p.IsText) ∧
    (¬ p.ReportsOn q ∧ ¬ q.ReportsOn p →
      ∀ proof, AcceptedUnder lib p proof → AcceptedUnder lib q proof → p = q) ∧
    (p.ReportsOn q → ∀ proof, AcceptedUnder lib p proof ↔ AcceptedUnder lib q proof) := by
  have hsame (hnot : ¬ p.ReportsOn q ∧ ¬ q.ReportsOn p) (h : p.toText = q.toText) : p = q := by
    rcases toText_eq_iff.mp h with heq | hreport | hreport
    · exact heq
    · exact absurd hreport hnot.1
    · exact absurd hreport hnot.2
  refine ⟨⟨fun h => ⟨fun hreport => ?_, fun hreport => ?_⟩, fun hnot x y h => ?_⟩, ?_, ?_, ?_⟩
  · exact hreport.ne (h [] [] (congrArg ([·]) hreport.toText_eq)).1
  · exact hreport.ne (h [] [] (congrArg ([·]) hreport.toText_eq.symm)).1.symm
  · obtain ⟨htext, hpath⟩ := List.cons.inj h
    exact ⟨hsame hnot htext, hpath⟩
  · rw [← utf8_toText_eq_iff]
    exact ⟨fun h => Option.some.inj (h []), fun h x => congrArg some h⟩
  · intro hnot proof hp hq
    exact hsame hnot (hp.toText_eq hkeys hq)
  · intro hreport proof
    exact acceptedUnder_congr hreport.toText_eq

open TmRun

/-- The proof of an upgraded client is one under the key of the upgrade store, and not under the
prefix of the other states. -/
theorem upgrade_proof_under_one_prefix :
    AcceptedUnder upgradeLibrary ⟨utf8 "upgrade"⟩ clientProof ∧
      ¬ AcceptedUnder upgradeLibrary ⟨utf8 "ibc"⟩ clientProof := by
  have haccepted : AcceptedUnder upgradeLibrary ⟨utf8 "upgrade"⟩ clientProof :=
    ⟨validState, ⟨chainRoot⟩, .upgradedClientState 1,
      .inl ⟨upgradedClientAny.encode, by decide +kernel⟩⟩
  refine ⟨haccepted, fun hother => ?_⟩
  have hsame := (prefixes_select_stores upgradeLibrary upgradeIcs23_checksKeys ⟨utf8 "upgrade"⟩
    ⟨utf8 "ibc"⟩).2.2.1 ⟨fun h => h.1 ⟨"ibc", rfl⟩, fun h => h.1 ⟨"upgrade", rfl⟩⟩ clientProof
    haccepted hother
  exact absurd hsame (by decide +kernel)

/-- A byte that starts no text, and the report on it: two prefixes that can be sent in a handshake,
with the same key paths and the same proofs. -/
theorem report_prefix_collides :
    let p : CommitmentPrefix := ⟨[255]⟩
    let q : CommitmentPrefix := ⟨utf8 "<not valid UTF8: [255]>"⟩
    CommitmentPrefix.tryFrom [255] = .ok p ∧
      CommitmentPrefix.tryFrom (utf8 "<not valid UTF8: [255]>") = .ok q ∧ p ≠ q ∧
      (∀ x, applyPrefix p x = applyPrefix q x) ∧
      (∀ x, (applyPrefix p x).head?.map utf8 ≠ some [255]) ∧
      ∀ lib proof, AcceptedUnder lib p proof ↔ AcceptedUnder lib q proof := by
  intro p q
  have htext : p.toText = q.toText := by decide +kernel
  have hkey : utf8 p.toText ≠ [255] := by decide +kernel
  refine ⟨by decide +kernel, by decide +kernel, by decide +kernel, ?_, ?_, ?_⟩
  · exact fun x => congrArg (· :: x) htext
  · exact fun x h => hkey (Option.some.inj h)
  · exact fun lib proof => acceptedUnder_congr htext

end Ibc
