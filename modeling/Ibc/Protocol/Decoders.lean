import Ibc.Model.Binary
import Ibc.Model.Codec
import Ibc.Model.Serde
import Ibc.Protocol.MockRun

/-!
# Decoders that should agree

A height can be read by five decoders: of protobuf messages, of JSON values (two of them, one for
timeouts), of borsh and of SCALE. Only the first looks for a zero revision height, and the one for
timeouts in JSON values takes every height of that kind for no timeout.

The types that carry commitments are written as JSON values by hand in part, and read by derived
code. What is written for the bytes of a packet, a root, a proof or a prefix is not what the reader
of the same field expects, so that no value of these types comes back; with both sides derived every
value would.
-/

namespace Ibc

open Serde

/-! ### Heights -/

/-- A pair of words as an object. -/
def heightValue (n h : UInt64) : Value :=
  .obj [("revision_number", .num n.toNat), ("revision_height", .num h.toNat)]

theorem Height.serde_roundTrips {h : Height} (hnumber : h.revisionNumber < UInt64.size)
    (hheight : h.revisionHeight < UInt64.size) : Height.serde.RoundTrips h := by
  have h₁ : u64.RoundTrips h.revisionNumber := word_roundTrips hnumber
  have h₂ : u64.RoundTrips h.revisionHeight := word_roundTrips hheight
  exact record_roundTrips (by decide) rfl (by simp [h₁.read_write, h₂.read_write])

theorem Height.serde_read_heightValue (n h : UInt64) :
    Height.serde.read (heightValue n h) = some ⟨n.toNat, h.toNat⟩ :=
  Height.serde_roundTrips (h := ⟨n.toNat, h.toNat⟩) n.toNat_lt h.toNat_lt

theorem TimeoutHeight.serde_read_heightValue (n h : UInt64) :
    TimeoutHeight.serde.read (heightValue n h) =
      some (if h = 0 then .never else .at ⟨n.toNat, h.toNat⟩) := by
  simp only [TimeoutHeight.serde, Height.serde_read_heightValue, Option.map_some, Height.new,
    Words.toNat_eq_zero]
  split_ifs <;> rfl

/-- The protobuf decoder of timeouts takes the pair of zeros and the heights. -/
theorem TimeoutHeight.tryFromRaw_toOption (n h : UInt64) :
    (TimeoutHeight.tryFromRaw (some ⟨n, h⟩)).toOption =
      if h = 0 then (if n = 0 then some .never else none) else some (.at ⟨n.toNat, h.toNat⟩) := by
  by_cases hh : h = 0
  · by_cases hn : n = 0 <;>
      simp [tryFromRaw, tryFrom, Height.new, Words.toNat_eq_zero, hh, hn, Except.toOption]
  · simp [tryFromRaw, tryFrom, Height.new, Words.toNat_eq_zero, hh, Except.toOption]

/-- The two decoders of timeouts give the same on a pair, and what they give is written as the
pair. -/
structure TimeoutDecodersAgree (n h : UInt64) : Prop where
  same : TimeoutHeight.serde.read (heightValue n h) =
    (TimeoutHeight.tryFromRaw (some ⟨n, h⟩)).toOption
  rewritten : ∀ t, TimeoutHeight.serde.read (heightValue n h) = some t →
    TimeoutHeight.serde.write t = heightValue n h ∧ t.toRaw = some ⟨n, h⟩

/-- The three derived decoders of heights take the pairs that make a height, and only those. -/
structure HeightDecodersAgree (n h : UInt64) : Prop where
  serde : Height.serde.read (heightValue n h) = Height.new n.toNat h.toNat
  borsh : (Height.borshDeserialize (Binary.writeU64 n.toNat ++ Binary.writeU64 h.toNat)).map
    Prod.fst = Height.new n.toNat h.toNat
  scale : (Height.scaleDecode (Binary.writeU64 n.toNat ++ Binary.writeU64 h.toNat)).map
    Prod.fst = Height.new n.toNat h.toNat

theorem Height.readFields_pair (n h : UInt64) :
    (Height.readFields (Binary.writeU64 n.toNat ++ Binary.writeU64 h.toNat)).map Prod.fst =
      some ⟨n.toNat, h.toNat⟩ := by
  have hread := Height.readFields_writeFields (h := ⟨n.toNat, h.toNat⟩) n.toNat_lt h.toNat_lt []
  rw [List.append_nil] at hread
  exact congrArg (Option.map Prod.fst) hread

theorem Height.eq_new_iff (n h : UInt64) :
    some ⟨n.toNat, h.toNat⟩ = Height.new n.toNat h.toNat ↔ h ≠ 0 := by
  by_cases hzero : h = 0 <;> simp [Height.new, Words.toNat_eq_zero, hzero]

theorem heightDecodersAgree_iff (n h : UInt64) : HeightDecodersAgree n h ↔ h ≠ 0 := by
  constructor
  · intro hagree
    have hserde := hagree.serde
    rw [Height.serde_read_heightValue] at hserde
    exact (Height.eq_new_iff n h).mp hserde
  · intro hne
    have hnew := (Height.eq_new_iff n h).mpr hne
    refine ⟨?_, ?_, ?_⟩
    · rw [Height.serde_read_heightValue, hnew]
    · exact (Height.readFields_pair n h).trans hnew
    · exact (Height.readFields_pair n h).trans hnew

theorem timeoutDecodersAgree_iff (n h : UInt64) :
    TimeoutDecodersAgree n h ↔ (h = 0 → n = 0) := by
  have hread := TimeoutHeight.serde_read_heightValue n h
  have hraw := TimeoutHeight.tryFromRaw_toOption n h
  constructor
  · rintro ⟨hsame, -⟩ rfl
    by_contra hn
    rw [hread, hraw] at hsame
    simp [hn] at hsame
  · intro hzero
    by_cases hh : h = 0
    · -- Both numbers are zero: no timeout.
      obtain rfl := hh
      obtain rfl := hzero rfl
      refine ⟨hread.trans hraw.symm, fun t ht => ?_⟩
      obtain rfl : TimeoutHeight.never = t := Option.some.inj (hread.symm.trans ht)
      exact ⟨rfl, rfl⟩
    · rw [if_neg hh] at hread hraw
      refine ⟨hread.trans hraw.symm, fun t ht => ?_⟩
      obtain rfl := Option.some.inj (hread.symm.trans ht)
      refine ⟨rfl, ?_⟩
      simp [TimeoutHeight.toRaw, Height.toRaw]

/-- **Heights and their decoders.** The two decoders of timeouts agree on a pair of words unless
only the revision height is zero, and the derived decoders of heights agree with the constructor
unless the revision height is zero. -/
theorem height_decoders_agree (n h : UInt64) :
    (TimeoutDecodersAgree n h ↔ (h = 0 → n = 0)) ∧ (HeightDecodersAgree n h ↔ h ≠ 0) :=
  ⟨timeoutDecodersAgree_iff n h, heightDecodersAgree_iff n h⟩

/-- A timeout that protobuf refuses is no timeout in a JSON value, and a height that cannot be made
is read in all three formats. -/
theorem zero_height_read :
    TimeoutHeight.tryFromRaw (some ⟨1, 0⟩) = .error .invalidHeight ∧
      TimeoutHeight.serde.read (heightValue 1 0) = some .never ∧
      Height.new 1 0 = none ∧
      Height.serde.read (heightValue 1 0) = some ⟨1, 0⟩ ∧
      Height.borshDeserialize (Binary.writeU64 1 ++ Binary.writeU64 0) = some (⟨1, 0⟩, []) ∧
      Height.scaleDecode (Binary.writeU64 1 ++ Binary.writeU64 0) = some (⟨1, 0⟩, []) := by
  decide +kernel

/-! ### Fields that come back -/

theorem TimeoutHeight.serde_roundTrips {t : TimeoutHeight} (h : t.Decoded) :
    TimeoutHeight.serde.RoundTrips t := by
  obtain ⟨⟨hnumber, hheight⟩, hpos⟩ := TimeoutHeight.decoded_iff.mp h
  cases t with
  | never =>
    have hzero : Height.serde.RoundTrips ⟨0, 0⟩ :=
      Height.serde_roundTrips (by decide) (by decide)
    simp [Codec.RoundTrips, TimeoutHeight.serde, hzero.read_write, Height.new]
  | «at» k =>
    have hk : Height.serde.RoundTrips k := Height.serde_roundTrips hnumber hheight
    simp [Codec.RoundTrips, TimeoutHeight.serde, hk.read_write, Height.new, hpos k rfl]

theorem Timestamp.serde_roundTrips (tm : TmSerde) (ts : Timestamp) :
    (Timestamp.serde tm).RoundTrips ts := by
  have htime : (option tm.time).RoundTrips ts.time :=
    option_roundTrips fun t _ => ⟨tm.time_roundTrips t, tm.time_ne_null t⟩
  exact record_roundTrips (by decide) rfl (by simp [htime.read_write])

/-- The durations the source can hold: a word of seconds, and nanoseconds. -/
theorem Duration.serde_roundTrips {d : Duration} (h : d < UInt64.size * 1000000000) :
    Duration.serde.RoundTrips d := by
  have hsecs : d / 1000000000 < UInt64.size := Nat.div_lt_of_lt_mul (by rwa [mul_comm] at h)
  have hnanos : d % 1000000000 < 1000000000 := Nat.mod_lt d (by decide)
  have h₁ : u64.RoundTrips (d / 1000000000) := word_roundTrips hsecs
  have h₂ : u32.RoundTrips (d % 1000000000) := word_roundTrips (hnanos.trans (by decide))
  refine record_roundTrips (by decide) rfl ?_
  simp only [h₁.read_write, h₂.read_write, Option.bind_eq_bind, Option.bind_some,
    Nat.div_eq_of_lt hnanos, add_zero, if_pos hsecs, Nat.div_add_mod']
  rfl

theorem identifierSerde_roundTrips {α : Type} {str : α → String}
    {mk : (s : String) → IdentifierWf s → α} {a : α} (wf : IdentifierWf (str a))
    (hmk : mk (str a) wf = a) : (identifierSerde str mk).RoundTrips a := by
  refine Codec.comap_roundTrips (string_roundTrips (str a)) ?_
  rw [dif_pos ⟨wf.nonempty, wf.noSeparator⟩, hmk]

theorem ClientId.serde_roundTrips (id : ClientId) : ClientId.serde.RoundTrips id :=
  identifierSerde_roundTrips id.wf rfl

theorem ConnectionId.serde_roundTrips (id : ConnectionId) : ConnectionId.serde.RoundTrips id :=
  identifierSerde_roundTrips id.wf rfl

theorem PortId.serde_roundTrips (id : PortId) : PortId.serde.RoundTrips id :=
  identifierSerde_roundTrips id.wf rfl

theorem ChannelId.serde_roundTrips (id : ChannelId) : ChannelId.serde.RoundTrips id :=
  identifierSerde_roundTrips id.wf rfl

theorem ConnectionState.serde_roundTrips (state : ConnectionState) :
    ConnectionState.serde.RoundTrips state := by
  cases state <;> rfl

theorem ConnectionVersion.serde_roundTrips (v : ConnectionVersion) :
    ConnectionVersion.serde.RoundTrips v := by
  have hidentifier := string_roundTrips v.identifier
  have hfeatures : (list string).RoundTrips v.features :=
    list_roundTrips fun s _ => string_roundTrips s
  exact record_roundTrips (by decide) rfl
    (by simp [hidentifier.read_write, hfeatures.read_write])

/-! ### Bytes -/

/-- No text is read as a sequence of bytes. -/
theorem bytesSerde_source (b : Bytes) :
    (bytesSerde .source).read ((bytesSerde .source).write b) = none := rfl

theorem derivedBytes_roundTrips (b : Bytes) : derivedBytes.RoundTrips b :=
  list_roundTrips fun c _ => byte_roundTrips c

theorem bytesSerde_derived (b : Bytes) : (bytesSerde .derived).RoundTrips b :=
  derivedBytes_roundTrips b

/-- No text is read as a record. -/
theorem CommitmentPrefix.serde_source (pfx : CommitmentPrefix) :
    (CommitmentPrefix.serde .source).read ((CommitmentPrefix.serde .source).write pfx) = none := rfl

theorem CommitmentPrefix.serde_derived (pfx : CommitmentPrefix) :
    (CommitmentPrefix.serde .derived).RoundTrips pfx := by
  have hbytes := derivedBytes_roundTrips pfx.bytes
  exact record_roundTrips (by decide) rfl (by simp [hbytes.read_write])

theorem CommitmentRoot.serde_derived (root : CommitmentRoot) :
    (CommitmentRoot.serde .derived).RoundTrips root :=
  Codec.comap_roundTrips (bytesSerde_derived root.bytes) rfl

theorem CommitmentProofBytes.serde_derived (proof : CommitmentProofBytes) :
    (CommitmentProofBytes.serde .derived).RoundTrips proof :=
  Codec.comap_roundTrips (bytesSerde_derived proof.bytes) (dif_pos proof.nonempty)

/-! ### Packets, consensus states, proofs and connection ends -/

/-- The numbers of a packet are words, and its timeout height is none or a height. -/
def Packet.InWords (p : Packet) : Prop := p.seqOnA < UInt64.size ∧ p.timeoutHeightOnB.Decoded

def Height.InWords (h : Height) : Prop :=
  h.revisionNumber < UInt64.size ∧ h.revisionHeight < UInt64.size

def Proofs.InWords (q : Proofs) : Prop :=
  q.height.InWords ∧ ∀ c, q.consensusProof = some c → c.height.InWords

/-- The delay is a word of seconds, with nanoseconds. -/
def ConnectionEnd.InWords (c : ConnectionEnd) : Prop := c.delayPeriod < UInt64.size * 1000000000

section Derived

variable (tm : TmSerde)

theorem Packet.serde_derived {p : Packet} (h : p.InWords) :
    (Packet.serde .derived tm).RoundTrips p := by
  have hseq : u64.RoundTrips p.seqOnA := word_roundTrips h.1
  have hportA := PortId.serde_roundTrips p.portIdOnA
  have hchanA := ChannelId.serde_roundTrips p.chanIdOnA
  have hportB := PortId.serde_roundTrips p.portIdOnB
  have hchanB := ChannelId.serde_roundTrips p.chanIdOnB
  have hdata := bytesSerde_derived p.data
  have hheight := TimeoutHeight.serde_roundTrips h.2
  have htime := Timestamp.serde_roundTrips tm p.timeoutTimestampOnB
  refine record_roundTrips (by decide) rfl ?_
  simp [hseq.read_write, hportA.read_write, hchanA.read_write, hportB.read_write,
    hchanB.read_write, hdata.read_write, hheight.read_write, htime.read_write]

theorem TmConsensusState.serde_derived (s : TmConsensusState) :
    (TmConsensusState.serde .derived tm).RoundTrips s := by
  have htime := tm.time_roundTrips s.timestamp
  have hroot := CommitmentRoot.serde_derived s.root
  have hhash := tm.hash_roundTrips s.nextValidatorsHash
  exact record_roundTrips (by decide) rfl
    (by simp [htime.read_write, hroot.read_write, hhash.read_write])

/-- A proof is written as a sequence and a record as an object: neither is `null`. -/
theorem Proofs.serde_derived {q : Proofs} (h : q.InWords) :
    (Proofs.serde .derived).RoundTrips q := by
  have hoption (o : Option CommitmentProofBytes) :
      (option (CommitmentProofBytes.serde .derived)).RoundTrips o :=
    option_roundTrips fun p _ => ⟨CommitmentProofBytes.serde_derived p, nofun⟩
  have hconsensus : (option (ConsensusProof.serde .derived)).RoundTrips q.consensusProof := by
    refine option_roundTrips fun c hc => ⟨?_, nofun⟩
    have hproof := CommitmentProofBytes.serde_derived c.proof
    have hheight := Height.serde_roundTrips (h.2 c hc).1 (h.2 c hc).2
    exact record_roundTrips (by decide) rfl (by simp [hproof.read_write, hheight.read_write])
  have hobject := CommitmentProofBytes.serde_derived q.objectProof
  have hclient := hoption q.clientProof
  have hother := hoption q.otherProof
  have hheight := Height.serde_roundTrips h.1.1 h.1.2
  refine record_roundTrips (by decide) rfl ?_
  simp [hobject.read_write, hclient.read_write, hconsensus.read_write, hother.read_write,
    hheight.read_write]

theorem ConnectionCounterparty.serde_derived (c : ConnectionCounterparty) :
    (ConnectionCounterparty.serde .derived).RoundTrips c := by
  have hclient := ClientId.serde_roundTrips c.clientId
  have hconnection : (option ConnectionId.serde).RoundTrips c.connectionId :=
    option_roundTrips fun id _ => ⟨ConnectionId.serde_roundTrips id, nofun⟩
  have hpfx := CommitmentPrefix.serde_derived c.pfx
  exact record_roundTrips (by decide) rfl
    (by simp [hclient.read_write, hconnection.read_write, hpfx.read_write])

theorem ConnectionEnd.serde_derived {c : ConnectionEnd} (h : c.InWords) :
    (ConnectionEnd.serde .derived).RoundTrips c := by
  have hstate := ConnectionState.serde_roundTrips c.state
  have hclient := ClientId.serde_roundTrips c.clientId
  have hcounterparty := ConnectionCounterparty.serde_derived c.counterparty
  have hversions : (list ConnectionVersion.serde).RoundTrips c.versions :=
    list_roundTrips fun v _ => ConnectionVersion.serde_roundTrips v
  have hdelay := Duration.serde_roundTrips h
  refine record_roundTrips (by decide) rfl ?_
  simp [hstate.read_write, hclient.read_write, hcounterparty.read_write, hversions.read_write,
    hdelay.read_write]

end Derived

/-! ### What the source writes -/

section Source

variable (tm : TmSerde)

theorem Packet.serde_source (p : Packet) :
    (Packet.serde .source tm).read ((Packet.serde .source tm).write p) = none := by
  refine (record_read_write (by decide) rfl).trans ?_
  simp [bytesSerde_source]

theorem TmConsensusState.serde_source (s : TmConsensusState) :
    (TmConsensusState.serde .source tm).read ((TmConsensusState.serde .source tm).write s) =
      none := by
  refine (record_read_write (by decide) rfl).trans ?_
  simp [CommitmentRoot.serde, Codec.comap, bytesSerde_source]

theorem Proofs.serde_source (q : Proofs) :
    (Proofs.serde .source).read ((Proofs.serde .source).write q) = none := by
  refine (record_read_write (by decide) rfl).trans ?_
  simp [CommitmentProofBytes.serde, Codec.comap, bytesSerde_source]

theorem ConnectionCounterparty.serde_source (c : ConnectionCounterparty) :
    (ConnectionCounterparty.serde .source).read ((ConnectionCounterparty.serde .source).write c) =
      none := by
  refine (record_read_write (by decide) rfl).trans ?_
  simp [CommitmentPrefix.serde_source]

theorem ConnectionEnd.serde_source (c : ConnectionEnd) :
    (ConnectionEnd.serde .source).read ((ConnectionEnd.serde .source).write c) = none := by
  refine (record_read_write (by decide) rfl).trans ?_
  simp [ConnectionCounterparty.serde_source]

end Source

/-- **Serde of the types that carry commitments.** None of their values is read back from what the
source writes. The serializers of the byte fields and of the prefix are the only reason: with
derived ones in their place every value is read back. -/
theorem serde_of_commitments (tm : TmSerde) :
    ((∀ p, (Packet.serde .source tm).read ((Packet.serde .source tm).write p) = none) ∧
      (∀ s, (TmConsensusState.serde .source tm).read
        ((TmConsensusState.serde .source tm).write s) = none) ∧
      (∀ q, (Proofs.serde .source).read ((Proofs.serde .source).write q) = none) ∧
      ∀ c, (ConnectionEnd.serde .source).read ((ConnectionEnd.serde .source).write c) = none) ∧
    ((∀ p : Packet, p.InWords → (Packet.serde .derived tm).RoundTrips p) ∧
      (∀ s, (TmConsensusState.serde .derived tm).RoundTrips s) ∧
      (∀ q : Proofs, q.InWords → (Proofs.serde .derived).RoundTrips q) ∧
      ∀ c : ConnectionEnd, c.InWords → (ConnectionEnd.serde .derived).RoundTrips c) :=
  ⟨⟨Packet.serde_source tm, TmConsensusState.serde_source tm, Proofs.serde_source,
      ConnectionEnd.serde_source⟩,
    ⟨fun _ => Packet.serde_derived tm, TmConsensusState.serde_derived tm,
      fun _ => Proofs.serde_derived, fun _ => ConnectionEnd.serde_derived⟩⟩

/-! ### Sample values -/

namespace SerdeRun

/-- Times in a library that has the text of one time only, the epoch. -/
def time : Codec Time where
  write t := if t = .epoch then .str "1970-01-01T00:00:00Z" else .num t.unixNanos
  read
    | .str s => if s = "1970-01-01T00:00:00Z" then some .epoch else none
    | .num n => Time.ofUnixNanos n
    | _ => none

/-- Hashes in a library that has the text of one hash only, the missing one. -/
def hash : Codec Hash where
  write h := if h = [] then .str "" else derivedBytes.write h
  read
    | .str s => if s = "" then some [] else none
    | v => derivedBytes.read v

theorem time_roundTrips (t : Time) : time.RoundTrips t := by
  by_cases ht : t = .epoch
  · simp [Codec.RoundTrips, time, ht]
  · simp [Codec.RoundTrips, time, ht, Time.ofUnixNanos_eq_some]

theorem time_ne_null (t : Time) : time.write t ≠ .null := by
  by_cases ht : t = .epoch <;> simp [time, ht]

theorem hash_roundTrips (h : Hash) : hash.RoundTrips h := by
  by_cases hh : h = []
  · simp [Codec.RoundTrips, hash, hh]
  · have hbytes := derivedBytes_roundTrips h
    simpa [Codec.RoundTrips, hash, hh, derivedBytes, list] using hbytes

def tm : TmSerde := ⟨time, hash, time_roundTrips, time_ne_null, hash_roundTrips⟩

def consensusState : TmConsensusState := ⟨.epoch, ⟨[1, 2]⟩, []⟩

def proofs : Proofs := ⟨MockRun.proof, none, some ⟨MockRun.proof, ⟨0, 1⟩⟩, none, ⟨0, 2⟩⟩

def connectionEnd : ConnectionEnd :=
  ⟨.open, MockRun.clientId, ⟨MockRun.clientId, some MockRun.connectionId, ⟨Proto.utf8 "ibc"⟩⟩,
    [.default], 0⟩

end SerdeRun

open SerdeRun

/-- With derived serializers the sample packet comes back. -/
theorem packet_derived_round_trip : MockRun.packet.InWords ∧
    (Packet.serde .derived tm).RoundTrips MockRun.packet := by
  have hwords : MockRun.packet.InWords := ⟨by decide, by decide⟩
  exact ⟨hwords, (serde_of_commitments tm).2.1 MockRun.packet hwords⟩

/-- The data of the sample packet is written as a text, and no text is read as a packet's data; the
same for a root, a proof and a prefix. -/
theorem source_serializers_not_read :
    (bytesSerde .source).write MockRun.packet.data = .str "01" ∧
      (Packet.serde .source tm).read ((Packet.serde .source tm).write MockRun.packet) = none ∧
      (TmConsensusState.serde .source tm).read
        ((TmConsensusState.serde .source tm).write consensusState) = none ∧
      (Proofs.serde .source).read ((Proofs.serde .source).write proofs) = none ∧
      (CommitmentPrefix.serde .source).write connectionEnd.counterparty.pfx = .str "ibc" ∧
      (ConnectionEnd.serde .source).read ((ConnectionEnd.serde .source).write connectionEnd) =
        none := by
  refine ⟨rfl, ?_, ?_, ?_, rfl, ?_⟩ <;> decide +kernel

end Ibc
