import Ibc.Model.Identifier
import Ibc.Model.Time
import Mathlib.Data.List.Basic

/-!
# The data the handlers work on

Channel ends, connection ends, packets, commitments and the paths under which a chain proves its
store, with the texts and numbers the source gives them. The raw forms (`RawChannel`, …) are what
is encoded into a proof's value.
-/

namespace Ibc

/-- A protobuf message with its type. -/
structure Any where
  typeUrl : String
  value : Bytes
deriving DecidableEq

/-! ### Commitments -/

/-- The root a consensus state commits to. -/
structure CommitmentRoot where
  bytes : Bytes
deriving DecidableEq

/-- The encoded proof of a message; never empty. -/
structure CommitmentProofBytes where
  bytes : Bytes
  nonempty : bytes ≠ []
deriving DecidableEq

/-- The prefix under which the counterparty's store is proved; empty only as a default. -/
structure CommitmentPrefix where
  bytes : Bytes
deriving DecidableEq

/-- What the sending chain stores of a packet in flight. -/
structure PacketCommitment where
  bytes : Bytes
deriving DecidableEq

/-- What the receiving chain stores of its answer. -/
structure AcknowledgementCommitment where
  bytes : Bytes
deriving DecidableEq

/-- The bytes a module answers a packet with; never empty. -/
structure Acknowledgement where
  bytes : Bytes
  nonempty : bytes ≠ []
deriving DecidableEq

/-! ### Connections -/

/-- A connection version: an identifier and the features it supports. -/
structure ConnectionVersion where
  identifier : String
  features : List String
deriving DecidableEq

/-- How far the handshake of a connection has come. -/
inductive ConnectionState where
  | uninitialized
  | init
  | tryOpen
  | open
deriving DecidableEq, Repr

/-- The client, the connection and the store prefix on the other chain. -/
structure ConnectionCounterparty where
  clientId : ClientId
  connectionId : Option ConnectionId
  pfx : CommitmentPrefix
deriving DecidableEq

/-- One end of a connection. -/
structure ConnectionEnd where
  state : ConnectionState
  clientId : ClientId
  counterparty : ConnectionCounterparty
  versions : List ConnectionVersion
  delayPeriod : Duration
deriving DecidableEq

/-- The wire form of the counterparty of a connection. An absent connection is the empty string. -/
structure RawConnectionCounterparty where
  clientId : String
  connectionId : String
  pfx : Option Bytes
deriving DecidableEq

/-- The wire form of a connection end. The delay is the low word of its nanoseconds. -/
structure RawConnectionEnd where
  clientId : String
  versions : List ConnectionVersion
  state : ℕ
  counterparty : Option RawConnectionCounterparty
  delayPeriod : ℕ
deriving DecidableEq

/-! ### Channels -/

/-- A channel version, opaque to the core. -/
structure ChannelVersion where
  str : String
deriving DecidableEq

/-- Whether packets are received in the order of their sequences. -/
inductive Order where
  | none
  | unordered
  | ordered
deriving DecidableEq, Repr

/-- How far the handshake of a channel has come, or that it is closed. -/
inductive ChannelState where
  | uninitialized
  | init
  | tryOpen
  | open
  | closed
deriving DecidableEq, Repr

/-- The port and the channel on the other chain. -/
structure Counterparty where
  portId : PortId
  channelId : Option ChannelId
deriving DecidableEq

/-- One end of a channel. -/
structure ChannelEnd where
  state : ChannelState
  ordering : Order
  remote : Counterparty
  connectionHops : List ConnectionId
  version : ChannelVersion
deriving DecidableEq

/-- The wire form of a channel end, with the port and the channel of the counterparty. An absent
counterparty channel is the empty string. -/
structure RawChannel where
  state : ℕ
  ordering : ℕ
  counterparty : Option (String × String)
  connectionHops : List String
  version : String
deriving DecidableEq

/-! ### Packets -/

/-- A packet sequence number, an unsigned 64-bit word. -/
abbrev Sequence := ℕ

/-- The next sequence; the last word has none. -/
def Sequence.increment {ε : Type} (seq : Sequence) : Result ε Sequence := Result.addU64 seq 1

/-- The last height of the other chain at which a packet is in time, if there is one. -/
inductive TimeoutHeight where
  | never
  | at (h : Height)
deriving DecidableEq

/-- A packet from chain A to chain B. -/
structure Packet where
  seqOnA : Sequence
  portIdOnA : PortId
  chanIdOnA : ChannelId
  portIdOnB : PortId
  chanIdOnB : ChannelId
  data : Bytes
  timeoutHeightOnB : TimeoutHeight
  timeoutTimestampOnB : Timestamp
deriving DecidableEq

/-- The mark that a packet was received on an unordered channel. -/
inductive Receipt where
  | ok
deriving DecidableEq

/-! ### Paths -/

/-- The keys of a chain's store. The height of a consensus state is its epoch and its height. -/
inductive Path where
  | clientState (clientId : ClientId)
  | clientConsensusState (clientId : ClientId) (height : Height)
  | clientConnection (clientId : ClientId)
  | connection (connectionId : ConnectionId)
  | ports (portId : PortId)
  | channelEnd (portId : PortId) (channelId : ChannelId)
  | seqSend (portId : PortId) (channelId : ChannelId)
  | seqRecv (portId : PortId) (channelId : ChannelId)
  | seqAck (portId : PortId) (channelId : ChannelId)
  | commitment (portId : PortId) (channelId : ChannelId) (sequence : Sequence)
  | ack (portId : PortId) (channelId : ChannelId) (sequence : Sequence)
  | receipt (portId : PortId) (channelId : ChannelId) (sequence : Sequence)
  | upgradedClientState (height : ℕ)
  | upgradedClientConsensusState (height : ℕ)
deriving DecidableEq

/-! ### Texts and numbers -/

/-- The name, which is also the name of the feature of a connection version. -/
def Order.asStr : Order → String
  | .none => "ORDER_NONE_UNSPECIFIED"
  | .unordered => "ORDER_UNORDERED"
  | .ordered => "ORDER_ORDERED"

/-- The number on the wire. -/
def Order.toNat : Order → ℕ
  | .none => 0
  | .unordered => 1
  | .ordered => 2

/-- The name in an error. -/
def ChannelState.asString : ChannelState → String
  | .uninitialized => "UNINITIALIZED"
  | .init => "INIT"
  | .tryOpen => "TRYOPEN"
  | .open => "OPEN"
  | .closed => "CLOSED"

/-- The number on the wire. -/
def ChannelState.toNat : ChannelState → ℕ
  | .uninitialized => 0
  | .init => 1
  | .tryOpen => 2
  | .open => 3
  | .closed => 4

/-- The name in an error. -/
def ConnectionState.asStr : ConnectionState → String
  | .uninitialized => "UNINITIALIZED"
  | .init => "INIT"
  | .tryOpen => "TRYOPEN"
  | .open => "OPEN"

/-- The number on the wire. -/
def ConnectionState.toNat : ConnectionState → ℕ
  | .uninitialized => 0
  | .init => 1
  | .tryOpen => 2
  | .open => 3

/-- No version. -/
def ChannelVersion.empty : ChannelVersion := ⟨""⟩

/-- The wire form of a channel end. -/
def ChannelEnd.toRaw (e : ChannelEnd) : RawChannel where
  state := e.state.toNat
  ordering := e.ordering.toNat
  counterparty := some (e.remote.portId.str, (e.remote.channelId.map ChannelId.str).getD "")
  connectionHops := e.connectionHops.map ConnectionId.str
  version := e.version.str

/-- The wire form of the counterparty. -/
def ConnectionCounterparty.toRaw (c : ConnectionCounterparty) : RawConnectionCounterparty :=
  ⟨c.clientId.str, (c.connectionId.map ConnectionId.str).getD "", some c.pfx.bytes⟩

/-- The wire form of a connection end. -/
def ConnectionEnd.toRaw (e : ConnectionEnd) : RawConnectionEnd where
  clientId := e.clientId.str
  versions := e.versions
  state := e.state.toNat
  counterparty := some e.counterparty.toRaw
  delayPeriod := e.delayPeriod % UInt64.size

theorem ChannelState.toNat_inj {a b : ChannelState} : a.toNat = b.toNat ↔ a = b := by
  cases a <;> cases b <;> decide

theorem Order.toNat_inj {a b : Order} : a.toNat = b.toNat ↔ a = b := by
  cases a <;> cases b <;> decide

/-- An identifier is never the empty string, so the wire form tells an absent one apart. -/
theorem ChannelId.map_str_getD_inj {a b : Option ChannelId} :
    (a.map ChannelId.str).getD "" = (b.map ChannelId.str).getD "" ↔ a = b := by
  rcases a with _ | ⟨a, ha⟩ <;> rcases b with _ | ⟨b, hb⟩
  · simp
  · simp [hb.nonempty.symm]
  · simp [ha.nonempty]
  · simp

theorem ConnectionState.toNat_inj {a b : ConnectionState} : a.toNat = b.toNat ↔ a = b := by
  cases a <;> cases b <;> decide

theorem ConnectionId.map_str_getD_inj {a b : Option ConnectionId} :
    (a.map ConnectionId.str).getD "" = (b.map ConnectionId.str).getD "" ↔ a = b := by
  rcases a with _ | ⟨a, ha⟩ <;> rcases b with _ | ⟨b, hb⟩
  · simp
  · simp [hb.nonempty.symm]
  · simp [ha.nonempty]
  · simp

/-- The wire form of a connection end determines it, up to the high word of the delay. -/
theorem ConnectionEnd.toRaw_inj {e e' : ConnectionEnd} (h : e.toRaw = e'.toRaw) :
    e.state = e'.state ∧ e.clientId = e'.clientId ∧ e.counterparty = e'.counterparty ∧
      e.versions = e'.versions ∧ e.delayPeriod % UInt64.size = e'.delayPeriod % UInt64.size := by
  rcases e with ⟨st, id, ⟨cid, conn, ⟨pfx⟩⟩, vs, d⟩
  rcases e' with ⟨st', id', ⟨cid', conn', ⟨pfx'⟩⟩, vs', d'⟩
  simp only [toRaw, ConnectionCounterparty.toRaw, RawConnectionEnd.mk.injEq, Option.some.injEq,
    RawConnectionCounterparty.mk.injEq, ConnectionState.toNat_inj, ConnectionId.map_str_getD_inj,
    ClientId.str_inj] at h
  obtain ⟨rfl, rfl, rfl, ⟨rfl, rfl, rfl⟩, hd⟩ := h
  exact ⟨rfl, rfl, rfl, rfl, hd⟩

/-- The wire form of a channel end determines it. -/
theorem ChannelEnd.toRaw_inj {e e' : ChannelEnd} : e.toRaw = e'.toRaw ↔ e = e' := by
  refine ⟨fun h => ?_, fun h => h ▸ rfl⟩
  rcases e with ⟨st, o, ⟨⟨p, hp⟩, c⟩, hops, ⟨v⟩⟩
  rcases e' with ⟨st', o', ⟨⟨p', hp'⟩, c'⟩, hops', ⟨v'⟩⟩
  simp only [toRaw, RawChannel.mk.injEq, Option.some.injEq, Prod.mk.injEq, ChannelState.toNat_inj,
    Order.toNat_inj, ChannelId.map_str_getD_inj] at h
  obtain ⟨rfl, rfl, ⟨rfl, rfl⟩, hh, rfl⟩ := h
  have hinj : Function.Injective ConnectionId.str := fun ⟨_, _⟩ ⟨_, _⟩ h => by cases h; rfl
  cases List.map_injective_iff.mpr hinj hh
  rfl

end Ibc
