import Ibc.Model.Borsh
import Ibc.Protocol.StoredEnds

/-!
# Stored connection ends

Every connection end is read back from what is written for it. The other way round there are bytes
that are read and never written: the delay is made of a number of seconds and a number of
nanoseconds that nobody looks at, and nanoseconds of a second or more are carried over. An end that
is read from such bytes is written in another way, and a carry past the last second ends the run.
The ends that a run stores come back from their own bytes (`ReachableBy.connections_of_bytes`).
-/

namespace Ibc

open Borsh Result

/-! ### Durations -/

namespace StdDuration

variable {ε : Type} {secs : UInt64} {nanos : UInt32} {d : StdDuration}

theorem new_of_lt (h : nanos.toNat < 1000000000) :
    (new secs nanos : Result ε StdDuration) = .ok ⟨secs, nanos, h⟩ := dif_pos h

theorem new_self (d : StdDuration) : (new d.secs d.nanos : Result ε StdDuration) = .ok d :=
  new_of_lt d.nanos_lt

/-- A duration is made, or the carry overflows. -/
theorem new_cases (secs : UInt64) (nanos : UInt32) :
    (secs.toNat + nanos.toNat / 1000000000 < UInt64.size ∧
        ∃ d, (new secs nanos : Result ε StdDuration) = .ok d) ∨
      (¬ secs.toNat + nanos.toNat / 1000000000 < UInt64.size ∧
        (new secs nanos : Result ε StdDuration) = .error (.panic .overflow)) := by
  by_cases hnanos : nanos.toNat < 1000000000
  · -- Without a carry the seconds are a word already.
    left
    rw [Nat.div_eq_of_lt hnanos]
    exact ⟨secs.toNat_lt, _, new_of_lt hnanos⟩
  · by_cases hcarry : secs.toNat + nanos.toNat / 1000000000 < UInt64.size
    · left
      refine ⟨hcarry, ?_⟩
      rw [new, dif_neg hnanos, addU64, if_pos hcarry]
      exact ⟨_, rfl⟩
    · right
      refine ⟨hcarry, ?_⟩
      rw [new, dif_neg hnanos, addU64, if_neg hcarry]
      rfl

/-- A duration has the parts it was made of just when nothing was carried over. -/
theorem parts_of_new (h : (new secs nanos : Result ε StdDuration) = .ok d) :
    d.secs = secs ∧ d.nanos = nanos ↔ nanos.toNat < 1000000000 := by
  constructor
  · rintro ⟨-, rfl⟩
    exact d.nanos_lt
  · intro hlt
    rw [new_of_lt hlt] at h
    cases h
    exact ⟨rfl, rfl⟩

/-- The durations of the model that the standard library has. -/
theorem asNanos_ofNanos {d : Duration} (h : d < UInt64.size * 1000000000) :
    (ofNanos d).asNanos = d := by
  have hsecs : d / 1000000000 < UInt64.size := Nat.div_lt_of_lt_mul (by rwa [Nat.mul_comm] at h)
  have hnanos : d % 1000000000 < UInt32.size := (Nat.mod_lt d (by decide)).trans (by decide)
  rw [asNanos, ofNanos, UInt64.toNat_ofNat_of_lt' hsecs, UInt32.toNat_ofNat_of_lt' hnanos]
  exact Nat.div_add_mod' d 1000000000

end StdDuration

/-! ### The record -/

namespace InnerConnectionEnd

/-- The seconds have room for what is carried over. -/
def CarryFits (i : InnerConnectionEnd) : Prop :=
  i.delayPeriodSecs.toNat + i.delayPeriodNanos.toNat / 1000000000 < UInt64.size

/-- Nothing is carried over. -/
def NoCarry (i : InnerConnectionEnd) : Prop := i.delayPeriodNanos.toNat < 1000000000

end InnerConnectionEnd

namespace UncheckedConnectionEnd

open InnerConnectionEnd

variable {i : InnerConnectionEnd} {c : UncheckedConnectionEnd} {b rest : Bytes}

theorem ofInner_ofEnd (c : UncheckedConnectionEnd) : ofInner (ofEnd c) = .ok c := by
  rw [ofInner, ofEnd, StdDuration.new_self]
  rfl

/-- An end goes back to the record it was made from just when nothing was carried over. -/
theorem ofEnd_of_ofInner (h : ofInner i = .ok c) : ofEnd c = i ↔ i.NoCarry := by
  obtain ⟨d, hd, hc⟩ := Result.bind_eq_ok.mp h
  cases hc
  rw [NoCarry, ← StdDuration.parts_of_new hd]
  cases i
  simp [ofEnd]

/-- An end is made from the record, or the carry overflows. -/
theorem ofInner_cases (i : InnerConnectionEnd) :
    (i.CarryFits ∧ ∃ c, ofInner i = .ok c) ∨
      (¬ i.CarryFits ∧ ofInner i = .error (.panic .overflow)) := by
  rcases StdDuration.new_cases (ε := BorshError) i.delayPeriodSecs i.delayPeriodNanos with
    ⟨hfits, d, hd⟩ | ⟨hfits, hpanic⟩
  · left
    refine ⟨hfits, ⟨i.state, i.clientId, i.counterparty, i.versions, d⟩, ?_⟩
    rw [ofInner, hd]
    rfl
  · right
    refine ⟨hfits, ?_⟩
    rw [ofInner, hpanic]
    rfl

theorem returns_ofInner_iff : Returns (ofInner i) ↔ i.CarryFits := by
  rcases ofInner_cases i with ⟨hfits, c, hc⟩ | ⟨hfits, hpanic⟩
  · rw [hc]
    exact iff_of_true returns_ok hfits
  · rw [hpanic]
    exact iff_of_false not_returns_panic hfits

/-! ### Reading and writing -/

theorem borshSerialize_eq_ok :
    c.borshSerialize = .ok b ↔ InnerConnectionEnd.borsh.read b = some (ofEnd c, []) := by
  rw [borshSerialize, okOr_eq_ok, Codec.read_eq_some_nil]

theorem borshDeserialize_eq_ok : borshDeserialize b = .ok (c, rest) ↔
    ∃ i, InnerConnectionEnd.borsh.read b = some (i, rest) ∧ ofInner i = .ok c := by
  simp only [borshDeserialize, Result.bind_eq_ok, ofExcept_eq_ok, okOr_eq_ok, pure_eq_ok]
  constructor
  · rintro ⟨⟨i, rest⟩, hread, c, hc, heq⟩
    cases heq
    exact ⟨i, hread, hc⟩
  · rintro ⟨i, hread, hc⟩
    exact ⟨(i, rest), hread, c, hc, rfl⟩

/-- Reading panics on the bytes of a record whose carry overflows, and only on these. -/
theorem returns_borshDeserialize_iff : Returns (borshDeserialize b) ↔
    ∀ i rest, InnerConnectionEnd.borsh.read b = some (i, rest) → i.CarryFits := by
  simp only [borshDeserialize, returns_bind, returns_ofExcept, true_and, ofExcept_eq_ok, okOr_eq_ok,
    returns_ofInner_iff, returns_pure, implies_true, and_true, Prod.forall]

/-- An end is read back from what is written for it. -/
theorem borshDeserialize_of_borshSerialize (h : c.borshSerialize = .ok b) :
    borshDeserialize b = .ok (c, []) :=
  borshDeserialize_eq_ok.mpr ⟨ofEnd c, borshSerialize_eq_ok.mp h, ofInner_ofEnd c⟩

/-- All of the bytes are read, and they are what is written again, just when nothing is carried
over. -/
theorem borshSerialize_of_borshDeserialize_iff :
    (∀ c, borshDeserialize b = .ok (c, []) → c.borshSerialize = .ok b) ↔
      ∀ i, InnerConnectionEnd.borsh.read b = some (i, []) → i.CarryFits → i.NoCarry := by
  constructor
  · intro h i hread hfits
    obtain ⟨-, c, hc⟩ | ⟨hnot, -⟩ := ofInner_cases i
    · have hwrite := borshSerialize_eq_ok.mp (h c (borshDeserialize_eq_ok.mpr ⟨i, hread, hc⟩))
      -- The bytes are those of one record only: the one that was read is the one that is written.
      rw [hread] at hwrite
      cases hwrite
      exact (ofEnd_of_ofInner hc).mp rfl
    · exact absurd hfits hnot
  · intro h c hread
    obtain ⟨i, hi, hc⟩ := borshDeserialize_eq_ok.mp hread
    obtain ⟨hfits, -⟩ | ⟨-, hpanic⟩ := ofInner_cases i
    · rw [borshSerialize_eq_ok, (ofEnd_of_ofInner hc).mpr (h i hi hfits)]
      exact hi
    · rw [hpanic] at hc
      cases hc

/-- Every text and every list of the end has less than 2 ^ 32 bytes or elements. -/
structure LengthsFit (c : UncheckedConnectionEnd) : Prop where
  clientId : c.clientId.utf8ByteSize < UInt32.size
  counterpartyClientId : c.counterparty.clientId.utf8ByteSize < UInt32.size
  counterpartyConnectionId : ∀ id ∈ c.counterparty.connectionId, id.utf8ByteSize < UInt32.size
  pfx : c.counterparty.pfx.bytes.length < UInt32.size
  versions : c.versions.length < UInt32.size
  identifiers : ∀ v ∈ c.versions, v.identifier.utf8ByteSize < UInt32.size
  features : ∀ v ∈ c.versions, v.features.length < UInt32.size
  featureTexts : ∀ v ∈ c.versions, ∀ s ∈ v.features, s.utf8ByteSize < UInt32.size

theorem fits_version {v : ConnectionVersion} : ConnectionVersion.borsh.fits v ↔
    v.identifier.utf8ByteSize < UInt32.size ∧ v.features.length < UInt32.size ∧
      ∀ s ∈ v.features, s.utf8ByteSize < UInt32.size := by
  simp only [ConnectionVersion.borsh, fits_equiv, fits_pair, fits_string, fits_list]
  rfl

theorem fits_counterparty {p : UncheckedCounterparty} : UncheckedCounterparty.borsh.fits p ↔
    p.clientId.utf8ByteSize < UInt32.size ∧
      (∀ id ∈ p.connectionId, id.utf8ByteSize < UInt32.size) ∧
        p.pfx.bytes.length < UInt32.size := by
  simp only [UncheckedCounterparty.borsh, CommitmentPrefix.borsh, fits_equiv, fits_pair,
    fits_string, fits_option, fits_bytes]
  rfl

theorem fits_ofEnd_iff : InnerConnectionEnd.borsh.fits (ofEnd c) ↔ c.LengthsFit := by
  have hstate : ConnectionState.borsh.fits c.state := rfl
  have hdelay : (pair u64 u32).fits (c.delayPeriod.secs, c.delayPeriod.nanos) :=
    fits_pair.mpr ⟨fits_u64 _, fits_u32 _⟩
  have hparts : InnerConnectionEnd.borsh.fits (ofEnd c) ↔ string.fits c.clientId ∧
      UncheckedCounterparty.borsh.fits c.counterparty ∧
        (list ConnectionVersion.borsh).fits c.versions := by
    rw [InnerConnectionEnd.borsh, fits_equiv, fits_pair, fits_pair, fits_pair, fits_pair]
    exact ⟨fun h => ⟨h.2.1, h.2.2.1, h.2.2.2.1⟩, fun h => ⟨hstate, h.1, h.2.1, h.2.2, hdelay⟩⟩
  rw [hparts, fits_string, fits_counterparty, fits_list]
  simp only [fits_version]
  constructor
  · rintro ⟨hid, ⟨hcid, hconn, hpfx⟩, hlen, hversions⟩
    exact ⟨hid, hcid, hconn, hpfx, hlen, fun v hv => (hversions v hv).1,
      fun v hv => (hversions v hv).2.1, fun v hv => (hversions v hv).2.2⟩
  · intro h
    exact ⟨h.clientId, ⟨h.counterpartyClientId, h.counterpartyConnectionId, h.pfx⟩, h.versions,
      fun v hv => ⟨h.identifiers v hv, h.features v hv, h.featureTexts v hv⟩⟩

/-- Writing fails only on a length that is no word. -/
theorem exists_borshSerialize_iff : (∃ b, c.borshSerialize = .ok b) ↔ c.LengthsFit := by
  simp only [borshSerialize, okOr_eq_ok, Codec.serialize_eq_some, exists_and_left, exists_eq,
    and_true, fits_ofEnd_iff]

end UncheckedConnectionEnd

/-! ### Connection ends -/

namespace ConnectionEnd

/-- The standard library has the delay. -/
def DelayFits (c : ConnectionEnd) : Prop := c.delayPeriod < UInt64.size * 1000000000

/-- What is stored determines the end. -/
theorem unchecked_inj {c c' : ConnectionEnd} (hd : c.DelayFits) (hd' : c'.DelayFits)
    (h : c.unchecked = c'.unchecked) : c = c' := by
  rcases c with ⟨st, id, ⟨cid, conn, pfx⟩, vs, d⟩
  rcases c' with ⟨st', id', ⟨cid', conn', pfx'⟩, vs', d'⟩
  simp only [unchecked, ConnectionCounterparty.unchecked, UncheckedConnectionEnd.mk.injEq,
    UncheckedCounterparty.mk.injEq, ClientId.str_inj] at h
  obtain ⟨rfl, rfl, ⟨rfl, hconn, rfl⟩, rfl, hdelay⟩ := h
  obtain rfl : conn = conn' :=
    Option.map_injective (fun _ _ hstr => ConnectionId.str_inj.mp hstr) hconn
  have hnanos := congrArg StdDuration.asNanos hdelay
  rw [StdDuration.asNanos_ofNanos hd, StdDuration.asNanos_ofNanos hd'] at hnanos
  cases hnanos
  rfl

/-- An end is the only one that is read from what is written for it. -/
theorem borshDeserialize_unchecked {c : ConnectionEnd} (hd : c.DelayFits)
    (hlen : c.unchecked.LengthsFit) : ∃ b, c.unchecked.borshSerialize = .ok b ∧
      ∀ c' : ConnectionEnd, c'.DelayFits →
        (UncheckedConnectionEnd.borshDeserialize b = .ok (c'.unchecked, []) ↔ c' = c) := by
  obtain ⟨b, hb⟩ := UncheckedConnectionEnd.exists_borshSerialize_iff.mpr hlen
  have hread := UncheckedConnectionEnd.borshDeserialize_of_borshSerialize hb
  refine ⟨b, hb, fun c' hd' => ⟨fun hread' => ?_, ?_⟩⟩
  · rw [hread] at hread'
    exact unchecked_inj hd' hd (congrArg Prod.fst (Except.ok.inj hread')).symm
  · rintro rfl
    exact hread

end ConnectionEnd

/-- In every run with decoded messages, a stored end is the only one that is read from what is
written for it. -/
theorem ReachableBy.connections_of_bytes {CS Cons μ : Type} {H : Host CS Cons μ} {prost : Prost}
    {alnum : Char → Bool} {s : Ctx CS Cons μ} (iso : H.Isolated) (hver : H.VersionsNonblank)
    (hne : H.getCompatibleVersions ≠ []) (h : ReachableBy H (Input.DecodedBy prost alnum) s)
    {id : ConnectionId} {c : ConnectionEnd} (hc : s.store.connection.connections id = some c)
    (hlen : c.unchecked.LengthsFit) : ∃ b, c.unchecked.borshSerialize = .ok b ∧
      ∀ c' : ConnectionEnd, c'.DelayFits →
        (UncheckedConnectionEnd.borshDeserialize b = .ok (c'.unchecked, []) ↔ c' = c) := by
  have hdelay := ((h.endsReadable iso hver hne).connections id c hc).delay
  exact ConnectionEnd.borshDeserialize_unchecked (hdelay.trans (by decide)) hlen

open UncheckedConnectionEnd

/-- **Bytes of connection ends.** Reading comes back unless the bytes start with a record whose
carry overflows. Bytes that are read as an end, and nothing after it, are what is written for the
end unless nanoseconds were carried over. An end is written if its lengths are words, and is read
back from what is written. -/
theorem connection_end_bytes (b : Bytes) (c : UncheckedConnectionEnd) :
    (Returns (borshDeserialize b) ↔
      ∀ i rest, InnerConnectionEnd.borsh.read b = some (i, rest) → i.CarryFits) ∧
    ((∀ c, borshDeserialize b = .ok (c, []) → c.borshSerialize = .ok b) ↔
      ∀ i, InnerConnectionEnd.borsh.read b = some (i, []) → i.CarryFits → i.NoCarry) ∧
    (c.LengthsFit ↔ ∃ b, c.borshSerialize = .ok b ∧ borshDeserialize b = .ok (c, [])) := by
  refine ⟨returns_borshDeserialize_iff, borshSerialize_of_borshDeserialize_iff, ?_⟩
  rw [← exists_borshSerialize_iff]
  constructor
  · rintro ⟨b, hb⟩
    exact ⟨b, hb, borshDeserialize_of_borshSerialize hb⟩
  · rintro ⟨b, hb, -⟩
    exact ⟨b, hb⟩

/-- The record of an open connection with the given delay. -/
def openRecord (secs : UInt64) (nanos : UInt32) : InnerConnectionEnd where
  state := .open
  clientId := "07-tendermint-0"
  counterparty := ⟨"07-tendermint-1", some "connection-1", ⟨Proto.utf8 "ibc"⟩⟩
  versions := [⟨"1", ["ORDER_ORDERED", "ORDER_UNORDERED"]⟩]
  delayPeriodSecs := secs
  delayPeriodNanos := nanos

def openBytes (secs : UInt64) (nanos : UInt32) : Bytes :=
  InnerConnectionEnd.borsh.write (openRecord secs nanos)

/-- A second in nanoseconds, after the last second and after none: reading the first panics, and the
second is an end with a delay of one second, which is written differently. -/
theorem carried_second_breaks_bytes :
    borshDeserialize (openBytes 18446744073709551615 1000000000) = .error (.panic .overflow) ∧
      openBytes 0 1000000000 ≠ openBytes 1 0 ∧
      ∃ c, borshDeserialize (openBytes 0 1000000000) = .ok (c, []) ∧
        c.borshSerialize = .ok (openBytes 1 0) := by
  refine ⟨by decide +kernel, by decide +kernel, ?_⟩
  exact ⟨⟨.open, "07-tendermint-0", ⟨"07-tendermint-1", some "connection-1", ⟨Proto.utf8 "ibc"⟩⟩,
    [⟨"1", ["ORDER_ORDERED", "ORDER_UNORDERED"]⟩], .ofNanos 1000000000⟩, by decide +kernel,
    by decide +kernel⟩

end Ibc
