import Ibc.Model.Tendermint
import Ibc.Support.Serde

/-!
# Serde

How the types that carry commitments are converted to and from JSON values. The two sides of most
types are derived, and agree. Three byte fields and the commitment prefix are written by hand and
read by derived code: `Writers` is what is written for them, and the codecs of all types that
contain them depend on it.

Two types of this development hold less than their counterparts: an identifier is a text that an
identifier can have, and a proof is not empty. The source reads any text and any bytes there. What
has no counterpart here is not read, which never concerns a value that was written.

The texts of a Tendermint time and hash come from another library (`TmSerde`).
-/

namespace Ibc

open Serde

/-- The conversions of the Tendermint library, which are read back. A time is not written as
`null`. -/
structure TmSerde where
  time : Codec Time
  hash : Codec Hash
  time_roundTrips : ∀ t, time.RoundTrips t
  time_ne_null : ∀ t, time.write t ≠ .null
  hash_roundTrips : ∀ h, hash.RoundTrips h

/-! ### Heights and timestamps -/

/-- A record of two words. -/
def Height.serde : Codec Height :=
  record ["revision_number", "revision_height"]
    (fun h => [u64.write h.revisionNumber, u64.write h.revisionHeight])
    fun
      | [number, height] => do
          let revisionNumber ← u64.read number
          let revisionHeight ← u64.read height
          pure ⟨revisionNumber, revisionHeight⟩
      | _ => none

/-- No timeout is written as the height with both numbers zero. Whatever is read and is not a height
is no timeout. -/
def TimeoutHeight.serde : Codec TimeoutHeight where
  write
    | .never => Height.serde.write ⟨0, 0⟩
    | .at h => Height.serde.write h
  read v := (Height.serde.read v).map fun h =>
    match Height.new h.revisionNumber h.revisionHeight with
    | some h => .at h
    | none => .never

/-- A record with an optional time. -/
def Timestamp.serde (tm : TmSerde) : Codec Timestamp :=
  record ["time"] (fun ts => [(option tm.time).write ts.time])
    fun
      | [time] => do
          let time ← (option tm.time).read time
          pure ⟨time⟩
      | _ => none

/-- A duration that is too long is refused; more nanoseconds than a second has are carried over. -/
def Duration.serde : Codec Duration :=
  record ["secs", "nanos"]
    (fun (d : ℕ) => [u64.write (d / 1000000000), u32.write (d % 1000000000)])
    fun
      | [secs, nanos] => do
          let secs ← u64.read secs
          let nanos ← u32.read nanos
          if secs + nanos / 1000000000 < UInt64.size then pure (secs * 1000000000 + nanos) else none
      | _ => none

/-! ### Identifiers -/

/-- The text of an identifier. -/
def identifierSerde {α : Type} (str : α → String) (mk : (s : String) → IdentifierWf s → α) :
    Codec α :=
  string.comap str fun s =>
    if h : s ≠ "" ∧ '/' ∉ s.toList then some (mk s ⟨h.1, h.2⟩) else none

/-- Its text. -/
def ClientId.serde : Codec ClientId := identifierSerde ClientId.str ClientId.mk

/-- Its text. -/
def ConnectionId.serde : Codec ConnectionId := identifierSerde ConnectionId.str ConnectionId.mk

/-- Its text. -/
def PortId.serde : Codec PortId := identifierSerde PortId.str PortId.mk

/-- Its text. -/
def ChannelId.serde : Codec ChannelId := identifierSerde ChannelId.str ChannelId.mk

/-! ### Bytes -/

/-- What is written for the byte fields and for a commitment prefix. -/
structure Writers where
  bytes : Bytes → Value
  pfx : CommitmentPrefix → Value

/-- The hexadecimal text of the bytes, in capitals. -/
def serHexUpper (b : Bytes) : Value := .str (Hash.toText b)

/-- The sequence of the bytes. -/
def derivedBytes : Codec Bytes := list byte

/-- The record with one byte field. -/
def derivedPrefix : Codec CommitmentPrefix :=
  record ["bytes"] (fun pfx => [derivedBytes.write pfx.bytes])
    fun
      | [bytes] => do
          let bytes ← derivedBytes.read bytes
          pure ⟨bytes⟩
      | _ => none

/-- What the source writes: the hexadecimal text of the bytes, and the debug text of a prefix. -/
def Writers.source : Writers := ⟨serHexUpper, fun pfx => .str pfx.toText⟩

/-- What would be written if both sides were derived. -/
def Writers.derived : Writers := ⟨derivedBytes.write, derivedPrefix.write⟩

section Types

variable (W : Writers)

/-- A byte field: its reader is derived. -/
def bytesSerde : Codec Bytes := ⟨W.bytes, derivedBytes.read⟩

/-- A byte field. -/
def CommitmentRoot.serde : Codec CommitmentRoot :=
  (bytesSerde W).comap CommitmentRoot.bytes fun bytes => some ⟨bytes⟩

/-- A byte field that is not empty. -/
def CommitmentProofBytes.serde : Codec CommitmentProofBytes :=
  (bytesSerde W).comap CommitmentProofBytes.bytes fun bytes =>
    if h : bytes ≠ [] then some ⟨bytes, h⟩ else none

/-- The reader is derived. -/
def CommitmentPrefix.serde : Codec CommitmentPrefix := ⟨W.pfx, derivedPrefix.read⟩

/-! ### Packets and consensus states -/

/-- A record, with the data as a byte field. -/
def Packet.serde (tm : TmSerde) : Codec Packet :=
  record ["seq_on_a", "port_id_on_a", "chan_id_on_a", "port_id_on_b", "chan_id_on_b", "data",
      "timeout_height_on_b", "timeout_timestamp_on_b"]
    (fun p => [u64.write p.seqOnA, PortId.serde.write p.portIdOnA,
      ChannelId.serde.write p.chanIdOnA, PortId.serde.write p.portIdOnB,
      ChannelId.serde.write p.chanIdOnB, (bytesSerde W).write p.data,
      TimeoutHeight.serde.write p.timeoutHeightOnB,
      (Timestamp.serde tm).write p.timeoutTimestampOnB])
    fun
      | [seq, portA, chanA, portB, chanB, data, height, timestamp] => do
          let seqOnA ← u64.read seq
          let portIdOnA ← PortId.serde.read portA
          let chanIdOnA ← ChannelId.serde.read chanA
          let portIdOnB ← PortId.serde.read portB
          let chanIdOnB ← ChannelId.serde.read chanB
          let data ← (bytesSerde W).read data
          let timeoutHeightOnB ← TimeoutHeight.serde.read height
          let timeoutTimestampOnB ← (Timestamp.serde tm).read timestamp
          pure ⟨seqOnA, portIdOnA, chanIdOnA, portIdOnB, chanIdOnB, data, timeoutHeightOnB,
            timeoutTimestampOnB⟩
      | _ => none

/-- A record, with the root as a byte field. -/
def TmConsensusState.serde (tm : TmSerde) : Codec TmConsensusState :=
  record ["timestamp", "root", "next_validators_hash"]
    (fun s => [tm.time.write s.timestamp, (CommitmentRoot.serde W).write s.root,
      tm.hash.write s.nextValidatorsHash])
    fun
      | [timestamp, root, hash] => do
          let timestamp ← tm.time.read timestamp
          let root ← (CommitmentRoot.serde W).read root
          let nextValidatorsHash ← tm.hash.read hash
          pure ⟨timestamp, root, nextValidatorsHash⟩
      | _ => none

/-! ### Proofs -/

/-- A proof of a consensus state, at a height. -/
structure ConsensusProof where
  proof : CommitmentProofBytes
  height : Height
deriving DecidableEq

/-- The proofs of a handshake message. -/
structure Proofs where
  objectProof : CommitmentProofBytes
  clientProof : Option CommitmentProofBytes
  consensusProof : Option ConsensusProof
  otherProof : Option CommitmentProofBytes
  height : Height
deriving DecidableEq

/-- A record. -/
def ConsensusProof.serde : Codec ConsensusProof :=
  record ["proof", "height"]
    (fun p => [(CommitmentProofBytes.serde W).write p.proof, Height.serde.write p.height])
    fun
      | [proof, height] => do
          let proof ← (CommitmentProofBytes.serde W).read proof
          let height ← Height.serde.read height
          pure ⟨proof, height⟩
      | _ => none

/-- A record with three optional proofs. -/
def Proofs.serde : Codec Proofs :=
  record ["object_proof", "client_proof", "consensus_proof", "other_proof", "height"]
    (fun p => [(CommitmentProofBytes.serde W).write p.objectProof,
      (option (CommitmentProofBytes.serde W)).write p.clientProof,
      (option (ConsensusProof.serde W)).write p.consensusProof,
      (option (CommitmentProofBytes.serde W)).write p.otherProof, Height.serde.write p.height])
    fun
      | [object, client, consensus, other, height] => do
          let objectProof ← (CommitmentProofBytes.serde W).read object
          let clientProof ← (option (CommitmentProofBytes.serde W)).read client
          let consensusProof ← (option (ConsensusProof.serde W)).read consensus
          let otherProof ← (option (CommitmentProofBytes.serde W)).read other
          let height ← Height.serde.read height
          pure ⟨objectProof, clientProof, consensusProof, otherProof, height⟩
      | _ => none

/-! ### Connection ends -/

/-- The name of the variant. -/
def ConnectionState.name : ConnectionState → String
  | .uninitialized => "Uninitialized"
  | .init => "Init"
  | .tryOpen => "TryOpen"
  | .open => "Open"

/-- Its name. -/
def ConnectionState.serde : Codec ConnectionState :=
  enum [.uninitialized, .init, .tryOpen, .open] ConnectionState.name

/-- A record. -/
def ConnectionVersion.serde : Codec ConnectionVersion :=
  record ["identifier", "features"]
    (fun v => [string.write v.identifier, (list string).write v.features])
    fun
      | [identifier, features] => do
          let identifier ← string.read identifier
          let features ← (list string).read features
          pure ⟨identifier, features⟩
      | _ => none

/-- A record, with the prefix as `W` writes it. -/
def ConnectionCounterparty.serde : Codec ConnectionCounterparty :=
  record ["client_id", "connection_id", "prefix"]
    (fun c => [ClientId.serde.write c.clientId, (option ConnectionId.serde).write c.connectionId,
      (CommitmentPrefix.serde W).write c.pfx])
    fun
      | [client, connection, pfx] => do
          let clientId ← ClientId.serde.read client
          let connectionId ← (option ConnectionId.serde).read connection
          let pfx ← (CommitmentPrefix.serde W).read pfx
          pure ⟨clientId, connectionId, pfx⟩
      | _ => none

/-- A record. -/
def ConnectionEnd.serde : Codec ConnectionEnd :=
  record ["state", "client_id", "counterparty", "versions", "delay_period"]
    (fun c => [ConnectionState.serde.write c.state, ClientId.serde.write c.clientId,
      (ConnectionCounterparty.serde W).write c.counterparty,
      (list ConnectionVersion.serde).write c.versions, Duration.serde.write c.delayPeriod])
    fun
      | [state, client, counterparty, versions, delay] => do
          let state ← ConnectionState.serde.read state
          let clientId ← ClientId.serde.read client
          let counterparty ← (ConnectionCounterparty.serde W).read counterparty
          let versions ← (list ConnectionVersion.serde).read versions
          let delayPeriod ← Duration.serde.read delay
          pure ⟨state, clientId, counterparty, versions, delayPeriod⟩
      | _ => none

end Types

end Ibc
