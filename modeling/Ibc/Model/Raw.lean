import Ibc.Model.Types
import Ibc.Support.ProtoRead

/-!
# Messages on the wire

The protobuf forms of all messages. A field that is a message may be absent, a 64-bit number is a
word, and identifiers are any strings; what of this is a message of the core is for the decoders to
say (`Codec.lean`). The two enumerations of a channel are natural numbers: the negative ones are
refused like the large ones.

`Prost` is a reader and a writer for each of them, as the protobuf library supplies them. All that
is assumed is that they read back what they wrote. `Prost.wire` is the wire format itself.
-/

namespace Ibc

open Proto (Codec Rows)

/-! ### Parts of messages -/

/-- A height, possibly zero. -/
structure RawHeight where
  revisionNumber : UInt64
  revisionHeight : UInt64
deriving DecidableEq

/-- A packet as it is sent. -/
structure RawPacket where
  sequence : UInt64
  sourcePort : String
  sourceChannel : String
  destinationPort : String
  destinationChannel : String
  data : Bytes
  timeoutHeight : Option RawHeight
  timeoutTimestamp : UInt64
deriving DecidableEq

/-! ### Client messages -/

/-- The wire form of `MsgCreateClient`. -/
structure RawMsgCreateClient where
  clientState : Option Any
  consensusState : Option Any
  signer : String

/-- The wire form of `MsgUpdateClient`. -/
structure RawMsgUpdateClient where
  clientId : String
  header : Option Any
  signer : String

/-- The wire form of `MsgUpgradeClient`. -/
structure RawMsgUpgradeClient where
  clientId : String
  clientState : Option Any
  consensusState : Option Any
  proofUpgradeClient : Bytes
  proofUpgradeConsensusState : Bytes
  signer : String

/-- The wire form of `MsgSubmitMisbehaviour`. -/
structure RawMsgSubmitMisbehaviour where
  clientId : String
  misbehaviour : Option Any
  signer : String

/-! ### Connection messages -/

/-- The wire form of `MsgConnectionOpenInit`. -/
structure RawMsgConnectionOpenInit where
  clientId : String
  counterparty : Option RawConnectionCounterparty
  version : Option ConnectionVersion
  delayPeriod : UInt64
  signer : String

/-- The wire form of `MsgConnectionOpenTry`, with a deprecated connection id. -/
structure RawMsgConnectionOpenTry where
  clientId : String
  previousConnectionId : String
  clientState : Option Any
  counterparty : Option RawConnectionCounterparty
  delayPeriod : UInt64
  counterpartyVersions : List ConnectionVersion
  proofHeight : Option RawHeight
  proofInit : Bytes
  proofClient : Bytes
  proofConsensus : Bytes
  consensusHeight : Option RawHeight
  signer : String

/-- The wire form of `MsgConnectionOpenAck`. -/
structure RawMsgConnectionOpenAck where
  connectionId : String
  counterpartyConnectionId : String
  version : Option ConnectionVersion
  clientState : Option Any
  proofHeight : Option RawHeight
  proofTry : Bytes
  proofClient : Bytes
  proofConsensus : Bytes
  consensusHeight : Option RawHeight
  signer : String

/-- The wire form of `MsgConnectionOpenConfirm`. -/
structure RawMsgConnectionOpenConfirm where
  connectionId : String
  proofAck : Bytes
  proofHeight : Option RawHeight
  signer : String

/-! ### Channel messages -/

/-- The wire form of `MsgChannelOpenInit`: the end is a whole channel. -/
structure RawMsgChannelOpenInit where
  portId : String
  channel : Option RawChannel
  signer : String

/-- The wire form of `MsgChannelOpenTry`, with a deprecated channel id. -/
structure RawMsgChannelOpenTry where
  portId : String
  previousChannelId : String
  channel : Option RawChannel
  counterpartyVersion : String
  proofInit : Bytes
  proofHeight : Option RawHeight
  signer : String

/-- The wire form of `MsgChannelOpenAck`. -/
structure RawMsgChannelOpenAck where
  portId : String
  channelId : String
  counterpartyChannelId : String
  counterpartyVersion : String
  proofTry : Bytes
  proofHeight : Option RawHeight
  signer : String

/-- The wire form of `MsgChannelOpenConfirm`. -/
structure RawMsgChannelOpenConfirm where
  portId : String
  channelId : String
  proofAck : Bytes
  proofHeight : Option RawHeight
  signer : String

/-- The wire form of `MsgChannelCloseInit`. -/
structure RawMsgChannelCloseInit where
  portId : String
  channelId : String
  signer : String

/-- The wire form of `MsgChannelCloseConfirm`. -/
structure RawMsgChannelCloseConfirm where
  portId : String
  channelId : String
  proofInit : Bytes
  proofHeight : Option RawHeight
  signer : String

/-! ### Packet messages -/

/-- The wire form of `MsgRecvPacket`. -/
structure RawMsgRecvPacket where
  packet : Option RawPacket
  proofCommitment : Bytes
  proofHeight : Option RawHeight
  signer : String

/-- The wire form of `MsgAcknowledgement`. -/
structure RawMsgAcknowledgement where
  packet : Option RawPacket
  acknowledgement : Bytes
  proofAcked : Bytes
  proofHeight : Option RawHeight
  signer : String

/-- The wire form of `MsgTimeout`. -/
structure RawMsgTimeout where
  packet : Option RawPacket
  proofUnreceived : Bytes
  proofHeight : Option RawHeight
  nextSequenceRecv : UInt64
  signer : String

/-- The wire form of `MsgTimeoutOnClose`. -/
structure RawMsgTimeoutOnClose where
  packet : Option RawPacket
  proofUnreceived : Bytes
  proofClose : Bytes
  proofHeight : Option RawHeight
  nextSequenceRecv : UInt64
  signer : String

/-! ### Readers and writers -/

/-- A reader and a writer for each message. -/
structure Prost where
  createClient : Codec RawMsgCreateClient
  updateClient : Codec RawMsgUpdateClient
  upgradeClient : Codec RawMsgUpgradeClient
  misbehaviour : Codec RawMsgSubmitMisbehaviour
  connOpenInit : Codec RawMsgConnectionOpenInit
  connOpenTry : Codec RawMsgConnectionOpenTry
  connOpenAck : Codec RawMsgConnectionOpenAck
  connOpenConfirm : Codec RawMsgConnectionOpenConfirm
  chanOpenInit : Codec RawMsgChannelOpenInit
  chanOpenTry : Codec RawMsgChannelOpenTry
  chanOpenAck : Codec RawMsgChannelOpenAck
  chanOpenConfirm : Codec RawMsgChannelOpenConfirm
  chanCloseInit : Codec RawMsgChannelCloseInit
  chanCloseConfirm : Codec RawMsgChannelCloseConfirm
  recvPacket : Codec RawMsgRecvPacket
  acknowledgement : Codec RawMsgAcknowledgement
  timeout : Codec RawMsgTimeout
  timeoutOnClose : Codec RawMsgTimeoutOnClose

namespace Wire

/-- A text field. -/
def string (t : ℕ) : Rows String := .scalar t .string

/-- A byte field. -/
def bytes (t : ℕ) : Rows Bytes := .scalar t .bytes

/-- A type and bytes. -/
def any : Codec Any :=
  .ofRows ((string 1).and (bytes 2) (by decide)) (fun a => (a.typeUrl, a.value))
    (fun f => ⟨f.1, f.2⟩) (fun _ => rfl) (by decide)

/-- Two words. -/
def height : Codec RawHeight :=
  .ofRows ((Rows.uint64 1).and (.uint64 2) (by decide))
    (fun h => (h.revisionNumber, h.revisionHeight)) (fun f => ⟨f.1, f.2⟩) (fun _ => rfl) (by decide)

/-- An identifier and its features. -/
def version : Codec ConnectionVersion :=
  .ofRows ((string 1).and (.repeated 2 .string) (by decide))
    (fun v => (v.identifier, v.features)) (fun f => ⟨f.1, f.2⟩) (fun _ => rfl) (by decide)

/-- The prefix is a message of one field. -/
def merklePrefix : Codec Bytes :=
  .ofRows (bytes 1) id id (fun _ => rfl) (by decide)

/-- Client, connection and prefix. -/
def connectionCounterparty : Codec RawConnectionCounterparty :=
  .ofRows ((string 1).and ((string 2).and (.message 3 merklePrefix) (by decide)) (by decide))
    (fun c => (c.clientId, c.connectionId, c.pfx)) (fun f => ⟨f.1, f.2.1, f.2.2⟩) (fun _ => rfl)
    (by decide)

/-- Port and channel. -/
def channelCounterparty : Codec (String × String) :=
  .ofRows ((string 1).and (string 2) (by decide)) id id (fun _ => rfl) (by decide)

/-- Two enumerations, the counterparty, the hops and the version. -/
def channel : Codec RawChannel :=
  .ofRows ((Rows.nat 1).and ((Rows.nat 2).and ((Rows.message 3 channelCounterparty).and
      ((Rows.repeated 4 .string).and (string 5) (by decide)) (by decide)) (by decide)) (by decide))
    (fun c => (c.state, c.ordering, c.counterparty, c.connectionHops, c.version))
    (fun f => ⟨f.1, f.2.1, f.2.2.1, f.2.2.2.1, f.2.2.2.2⟩) (fun _ => rfl) (by decide)

/-- The eight fields of a packet. -/
def packet : Codec RawPacket :=
  .ofRows ((Rows.uint64 1).and ((string 2).and ((string 3).and ((string 4).and ((string 5).and
      ((bytes 6).and ((Rows.message 7 height).and (.uint64 8) (by decide)) (by decide))
      (by decide)) (by decide)) (by decide)) (by decide)) (by decide))
    (fun p => (p.sequence, p.sourcePort, p.sourceChannel, p.destinationPort, p.destinationChannel,
      p.data, p.timeoutHeight, p.timeoutTimestamp))
    (fun f => ⟨f.1, f.2.1, f.2.2.1, f.2.2.2.1, f.2.2.2.2.1, f.2.2.2.2.2.1, f.2.2.2.2.2.2.1,
      f.2.2.2.2.2.2.2⟩) (fun _ => rfl) (by decide)

end Wire

open Wire in
/-- The protobuf wire format of the messages. -/
def Prost.wire : Prost where
  createClient := .ofRows
    ((Rows.message 1 any).and ((Rows.message 2 any).and (string 3) (by decide)) (by decide))
    (fun m => (m.clientState, m.consensusState, m.signer)) (fun f => ⟨f.1, f.2.1, f.2.2⟩)
    (fun _ => rfl) (by decide)
  updateClient := .ofRows
    ((string 1).and ((Rows.message 2 any).and (string 3) (by decide)) (by decide))
    (fun m => (m.clientId, m.header, m.signer)) (fun f => ⟨f.1, f.2.1, f.2.2⟩)
    (fun _ => rfl) (by decide)
  upgradeClient := .ofRows
    ((string 1).and ((Rows.message 2 any).and ((Rows.message 3 any).and ((bytes 4).and
      ((bytes 5).and (string 6) (by decide)) (by decide)) (by decide)) (by decide)) (by decide))
    (fun m => (m.clientId, m.clientState, m.consensusState, m.proofUpgradeClient,
      m.proofUpgradeConsensusState, m.signer))
    (fun f => ⟨f.1, f.2.1, f.2.2.1, f.2.2.2.1, f.2.2.2.2.1, f.2.2.2.2.2⟩) (fun _ => rfl) (by decide)
  misbehaviour := .ofRows
    ((string 1).and ((Rows.message 2 any).and (string 3) (by decide)) (by decide))
    (fun m => (m.clientId, m.misbehaviour, m.signer)) (fun f => ⟨f.1, f.2.1, f.2.2⟩)
    (fun _ => rfl) (by decide)
  connOpenInit := .ofRows
    ((string 1).and ((Rows.message 2 connectionCounterparty).and ((Rows.message 3 version).and
      ((Rows.uint64 4).and (string 5) (by decide)) (by decide)) (by decide)) (by decide))
    (fun m => (m.clientId, m.counterparty, m.version, m.delayPeriod, m.signer))
    (fun f => ⟨f.1, f.2.1, f.2.2.1, f.2.2.2.1, f.2.2.2.2⟩) (fun _ => rfl) (by decide)
  connOpenTry := .ofRows
    ((string 1).and ((string 2).and ((Rows.message 3 any).and
      ((Rows.message 4 connectionCounterparty).and ((Rows.uint64 5).and
      ((Rows.repeated 6 version).and ((Rows.message 7 height).and ((bytes 8).and ((bytes 9).and
      ((bytes 10).and
      ((Rows.message 11 height).and (string 12) (by decide)) (by decide)) (by decide)) (by decide))
      (by decide)) (by decide)) (by decide)) (by decide)) (by decide)) (by decide)) (by decide))
    (fun m => (m.clientId, m.previousConnectionId, m.clientState, m.counterparty, m.delayPeriod,
      m.counterpartyVersions, m.proofHeight, m.proofInit, m.proofClient, m.proofConsensus,
      m.consensusHeight, m.signer))
    (fun f => ⟨f.1, f.2.1, f.2.2.1, f.2.2.2.1, f.2.2.2.2.1, f.2.2.2.2.2.1, f.2.2.2.2.2.2.1,
      f.2.2.2.2.2.2.2.1, f.2.2.2.2.2.2.2.2.1, f.2.2.2.2.2.2.2.2.2.1, f.2.2.2.2.2.2.2.2.2.2.1,
      f.2.2.2.2.2.2.2.2.2.2.2⟩) (fun _ => rfl) (by decide)
  connOpenAck := .ofRows
    ((string 1).and ((string 2).and ((Rows.message 3 version).and ((Rows.message 4 any).and
      ((Rows.message 5 height).and ((bytes 6).and ((bytes 7).and ((bytes 8).and
      ((Rows.message 9 height).and (string 10) (by decide)) (by decide)) (by decide)) (by decide))
      (by decide)) (by decide)) (by decide)) (by decide)) (by decide))
    (fun m => (m.connectionId, m.counterpartyConnectionId, m.version, m.clientState, m.proofHeight,
      m.proofTry, m.proofClient, m.proofConsensus, m.consensusHeight, m.signer))
    (fun f => ⟨f.1, f.2.1, f.2.2.1, f.2.2.2.1, f.2.2.2.2.1, f.2.2.2.2.2.1, f.2.2.2.2.2.2.1,
      f.2.2.2.2.2.2.2.1, f.2.2.2.2.2.2.2.2.1, f.2.2.2.2.2.2.2.2.2⟩) (fun _ => rfl) (by decide)
  connOpenConfirm := .ofRows
    ((string 1).and ((bytes 2).and ((Rows.message 3 height).and (string 4) (by decide)) (by decide))
      (by decide))
    (fun m => (m.connectionId, m.proofAck, m.proofHeight, m.signer))
    (fun f => ⟨f.1, f.2.1, f.2.2.1, f.2.2.2⟩) (fun _ => rfl) (by decide)
  chanOpenInit := .ofRows
    ((string 1).and ((Rows.message 2 channel).and (string 3) (by decide)) (by decide))
    (fun m => (m.portId, m.channel, m.signer)) (fun f => ⟨f.1, f.2.1, f.2.2⟩)
    (fun _ => rfl) (by decide)
  chanOpenTry := .ofRows
    ((string 1).and ((string 2).and ((Rows.message 3 channel).and ((string 4).and ((bytes 5).and
      ((Rows.message 6 height).and (string 7) (by decide)) (by decide)) (by decide)) (by decide))
      (by decide)) (by decide))
    (fun m => (m.portId, m.previousChannelId, m.channel, m.counterpartyVersion, m.proofInit,
      m.proofHeight, m.signer))
    (fun f => ⟨f.1, f.2.1, f.2.2.1, f.2.2.2.1, f.2.2.2.2.1, f.2.2.2.2.2.1, f.2.2.2.2.2.2⟩)
    (fun _ => rfl) (by decide)
  chanOpenAck := .ofRows
    ((string 1).and ((string 2).and ((string 3).and ((string 4).and ((bytes 5).and
      ((Rows.message 6 height).and (string 7) (by decide)) (by decide)) (by decide)) (by decide))
      (by decide)) (by decide))
    (fun m => (m.portId, m.channelId, m.counterpartyChannelId, m.counterpartyVersion, m.proofTry,
      m.proofHeight, m.signer))
    (fun f => ⟨f.1, f.2.1, f.2.2.1, f.2.2.2.1, f.2.2.2.2.1, f.2.2.2.2.2.1, f.2.2.2.2.2.2⟩)
    (fun _ => rfl) (by decide)
  chanOpenConfirm := .ofRows
    ((string 1).and ((string 2).and ((bytes 3).and ((Rows.message 4 height).and (string 5)
      (by decide)) (by decide)) (by decide)) (by decide))
    (fun m => (m.portId, m.channelId, m.proofAck, m.proofHeight, m.signer))
    (fun f => ⟨f.1, f.2.1, f.2.2.1, f.2.2.2.1, f.2.2.2.2⟩) (fun _ => rfl) (by decide)
  chanCloseInit := .ofRows
    ((string 1).and ((string 2).and (string 3) (by decide)) (by decide))
    (fun m => (m.portId, m.channelId, m.signer)) (fun f => ⟨f.1, f.2.1, f.2.2⟩)
    (fun _ => rfl) (by decide)
  chanCloseConfirm := .ofRows
    ((string 1).and ((string 2).and ((bytes 3).and ((Rows.message 4 height).and (string 5)
      (by decide)) (by decide)) (by decide)) (by decide))
    (fun m => (m.portId, m.channelId, m.proofInit, m.proofHeight, m.signer))
    (fun f => ⟨f.1, f.2.1, f.2.2.1, f.2.2.2.1, f.2.2.2.2⟩) (fun _ => rfl) (by decide)
  recvPacket := .ofRows
    ((Rows.message 1 packet).and ((bytes 2).and ((Rows.message 3 height).and (string 4)
      (by decide)) (by decide)) (by decide))
    (fun m => (m.packet, m.proofCommitment, m.proofHeight, m.signer))
    (fun f => ⟨f.1, f.2.1, f.2.2.1, f.2.2.2⟩) (fun _ => rfl) (by decide)
  acknowledgement := .ofRows
    ((Rows.message 1 packet).and ((bytes 2).and ((bytes 3).and ((Rows.message 4 height).and
      (string 5) (by decide)) (by decide)) (by decide)) (by decide))
    (fun m => (m.packet, m.acknowledgement, m.proofAcked, m.proofHeight, m.signer))
    (fun f => ⟨f.1, f.2.1, f.2.2.1, f.2.2.2.1, f.2.2.2.2⟩) (fun _ => rfl) (by decide)
  timeout := .ofRows
    ((Rows.message 1 packet).and ((bytes 2).and ((Rows.message 3 height).and ((Rows.uint64 4).and
      (string 5) (by decide)) (by decide)) (by decide)) (by decide))
    (fun m => (m.packet, m.proofUnreceived, m.proofHeight, m.nextSequenceRecv, m.signer))
    (fun f => ⟨f.1, f.2.1, f.2.2.1, f.2.2.2.1, f.2.2.2.2⟩) (fun _ => rfl) (by decide)
  timeoutOnClose := .ofRows
    ((Rows.message 1 packet).and ((bytes 2).and ((bytes 3).and ((Rows.message 4 height).and
      ((Rows.uint64 5).and (string 6) (by decide)) (by decide)) (by decide)) (by decide))
      (by decide))
    (fun m => (m.packet, m.proofUnreceived, m.proofClose, m.proofHeight, m.nextSequenceRecv,
      m.signer))
    (fun f => ⟨f.1, f.2.1, f.2.2.1, f.2.2.2.1, f.2.2.2.2.1, f.2.2.2.2.2⟩) (fun _ => rfl) (by decide)

end Ibc
