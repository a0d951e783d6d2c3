import Ibc.Model.Checks
import Ibc.Model.Msgs
import Ibc.Support.Hex
import Ibc.Support.Text

/-!
# Events on the wire

The form in which a Tendermint chain publishes the events: a kind, and attributes that are pairs of
texts. Identifiers, heights and numbers are printed, bytes are written in hexadecimal.

A packet's data and an acknowledgement are also written as plain text, so an event with bytes that
are not UTF-8 has no form. A timeout whose nanoseconds do not fit a word panics.
-/

namespace Ibc

/-- A key and a value, and whether they are indexed. -/
structure AbciAttribute where
  key : String
  value : String
  index : Bool
deriving DecidableEq

/-- A kind with attributes. -/
structure AbciEvent where
  kind : String
  attributes : List AbciAttribute
deriving DecidableEq

/-- The one error that the conversion of an event ends in. -/
inductive EventError where
  | nonUtf8PacketData
deriving DecidableEq

namespace IbcEvent

/-- The kind of an event. -/
def eventType : IbcEvent → String
  | .createClient .. => "create_client"
  | .updateClient .. => "update_client"
  | .upgradeClient .. => "upgrade_client"
  | .clientMisbehaviour .. => "client_misbehaviour"
  | .openInitConnection .. => "connection_open_init"
  | .openTryConnection .. => "connection_open_try"
  | .openAckConnection .. => "connection_open_ack"
  | .openConfirmConnection .. => "connection_open_confirm"
  | .openInitChannel .. => "channel_open_init"
  | .openTryChannel .. => "channel_open_try"
  | .openAckChannel .. => "channel_open_ack"
  | .openConfirmChannel .. => "channel_open_confirm"
  | .closeInitChannel .. => "channel_close_init"
  | .closeConfirmChannel .. => "channel_close_confirm"
  | .sendPacket .. => "send_packet"
  | .receivePacket .. => "receive_packet"
  | .writeAcknowledgement .. => "write_acknowledgement"
  | .acknowledgePacket .. => "acknowledge_packet"
  | .timeoutPacket .. => "timeout_packet"
  | .channelClosed .. => "channel_close"
  | .module event => event.kind
  | .message _ => "message"

end IbcEvent

/-- The value of the attribute of a heading. -/
def MessageEvent.moduleAttribute : MessageEvent → String
  | .client => "ibc_client"
  | .connection => "ibc_connection"
  | .channel => "ibc_channel"
  | .module name => name

section Attributes

-- The flag that the ABCI library gives an attribute made of a key and a value.
variable (index : Bool)

/-! ### Clients and connections -/

/-- The client that all four events are about. -/
def clientAttributes (clientId : ClientId) (clientType : ClientType) : List AbciAttribute :=
  [⟨"client_id", clientId.str, index⟩, ⟨"client_type", clientType.str, index⟩]

/-- The height of the new consensus state. -/
def consensusHeightAttribute (consensusHeight : Height) : AbciAttribute :=
  ⟨"consensus_height", consensusHeight.toText, index⟩

/-- All new heights, with commas between them. -/
def consensusHeightsAttribute (consensusHeights : List Height) : AbciAttribute :=
  ⟨"consensus_heights", Text.join ',' (consensusHeights.map Height.toText), index⟩

/-- The header that was submitted. -/
def headerAttribute (header : Bytes) : AbciAttribute := ⟨"header", Hex.encode header, index⟩

/-- The attributes of the four events of a connection; an unknown identifier is the empty text. -/
def connectionAttributes (connectionId : ConnectionId) (clientId : ClientId)
    (counterpartyConnectionId : Option ConnectionId) (counterpartyClientId : ClientId) :
    List AbciAttribute :=
  [⟨"connection_id", connectionId.str, index⟩, ⟨"client_id", clientId.str, index⟩,
    ⟨"counterparty_client_id", counterpartyClientId.str, index⟩,
    ⟨"counterparty_connection_id", (counterpartyConnectionId.map (·.str)).getD "", index⟩]

/-! ### Channels -/

/-- The attributes that all events of a channel begin with. -/
def channelAttributes (portId : PortId) (channelId : ChannelId) (counterpartyPortId : PortId)
    (counterpartyChannelId : Option ChannelId) (connectionId : ConnectionId) :
    List AbciAttribute :=
  [⟨"port_id", portId.str, index⟩, ⟨"channel_id", channelId.str, index⟩,
    ⟨"counterparty_port_id", counterpartyPortId.str, index⟩,
    ⟨"counterparty_channel_id", (counterpartyChannelId.map (·.str)).getD "", index⟩,
    ⟨"connection_id", connectionId.str, index⟩]

/-- The version of a channel. -/
def versionAttribute (version : ChannelVersion) : AbciAttribute := ⟨"version", version.str, index⟩

/-! ### Packets -/

/-- Bytes as text and in hexadecimal, under two keys. -/
def bytesAttributes (key hexKey : String) (bytes : Bytes) :
    Result EventError (List AbciAttribute) := do
  let text ← Result.ofExcept id
    (Result.okOr (String.fromUTF8? ⟨bytes.toArray⟩) .nonUtf8PacketData)
  pure [⟨key, text, index⟩, ⟨hexKey, Hex.encode bytes, index⟩]

/-- The data of a packet. -/
def packetDataAttributes (data : Bytes) : Result EventError (List AbciAttribute) :=
  bytesAttributes index "packet_data" "packet_data_hex" data

/-- The acknowledgement of a packet. -/
def acknowledgementAttributes (ack : Acknowledgement) : Result EventError (List AbciAttribute) :=
  bytesAttributes index "packet_ack" "packet_ack_hex" ack.bytes

/-- No timeout is the height with both numbers zero. -/
def timeoutHeightAttribute (timeoutHeight : TimeoutHeight) : AbciAttribute :=
  match timeoutHeight with
  | .never => ⟨"packet_timeout_height", "0-0", index⟩
  | .at height => ⟨"packet_timeout_height", height.toText, index⟩

/-- The nanoseconds of the timeout. -/
def timeoutTimestampAttribute (timeoutTimestamp : Timestamp) :
    Result EventError AbciAttribute := do
  let nanoseconds ← timeoutTimestamp.nanoseconds
  pure ⟨"packet_timeout_timestamp", toString nanoseconds, index⟩

/-- The attributes that all events of a packet have, in this order. -/
def packetAttributes (packet : Packet) : Result EventError (List AbciAttribute) := do
  let timestamp ← timeoutTimestampAttribute index packet.timeoutTimestampOnB
  pure [timeoutHeightAttribute index packet.timeoutHeightOnB, timestamp,
    ⟨"packet_sequence", toString packet.seqOnA, index⟩,
    ⟨"packet_src_port", packet.portIdOnA.str, index⟩,
    ⟨"packet_src_channel", packet.chanIdOnA.str, index⟩,
    ⟨"packet_dst_port", packet.portIdOnB.str, index⟩,
    ⟨"packet_dst_channel", packet.chanIdOnB.str, index⟩]

/-- The ordering of the channel. -/
def channelOrderingAttribute (order : Order) : AbciAttribute :=
  ⟨"packet_channel_ordering", order.asStr, index⟩

/-- The connection on the side of the event. -/
def packetConnectionAttribute (connectionId : ConnectionId) : AbciAttribute :=
  ⟨"packet_connection", connectionId.str, index⟩

/-! ### Every event -/

/-- The attributes of an event, in the order of the source. The events of an acknowledged and of a
timed out packet leave out its data. -/
def IbcEvent.attributes : IbcEvent → Result EventError (List AbciAttribute)
  | .createClient id type height | .upgradeClient id type height =>
      pure (clientAttributes index id type ++ [consensusHeightAttribute index height])
  | .updateClient id type height heights header =>
      pure (clientAttributes index id type ++ [consensusHeightAttribute index height,
        consensusHeightsAttribute index heights, headerAttribute index header])
  | .clientMisbehaviour id type => pure (clientAttributes index id type)
  | .openInitConnection connIdOnA clientIdOnA clientIdOnB =>
      pure (connectionAttributes index connIdOnA clientIdOnA none clientIdOnB)
  | .openTryConnection connId clientId otherConnId otherClientId
  | .openAckConnection connId clientId otherConnId otherClientId
  | .openConfirmConnection connId clientId otherConnId otherClientId =>
      pure (connectionAttributes index connId clientId (some otherConnId) otherClientId)
  | .openInitChannel port chan portOnB conn version =>
      pure (channelAttributes index port chan portOnB none conn ++
        [versionAttribute index version])
  | .openTryChannel port chan portOnA chanOnA conn version =>
      pure (channelAttributes index port chan portOnA (some chanOnA) conn ++
        [versionAttribute index version])
  | .openAckChannel port chan otherPort otherChan conn
  | .openConfirmChannel port chan otherPort otherChan conn
  | .closeInitChannel port chan otherPort otherChan conn
  | .closeConfirmChannel port chan otherPort otherChan conn =>
      pure (channelAttributes index port chan otherPort (some otherChan) conn)
  | .channelClosed port chan portOnB maybeChanOnB conn order =>
      pure (channelAttributes index port chan portOnB maybeChanOnB conn ++
        [channelOrderingAttribute index order])
  | .sendPacket packet order conn | .receivePacket packet order conn => do
      let data ← packetDataAttributes index packet.data
      let attributes ← packetAttributes index packet
      pure (data ++ attributes ++
        [channelOrderingAttribute index order, packetConnectionAttribute index conn])
  | .writeAcknowledgement packet ack conn => do
      let data ← packetDataAttributes index packet.data
      let attributes ← packetAttributes index packet
      let acknowledgement ← acknowledgementAttributes index ack
      pure (data ++ attributes ++ acknowledgement ++ [packetConnectionAttribute index conn])
  | .acknowledgePacket packet order conn => do
      let attributes ← packetAttributes index packet
      pure (attributes ++
        [channelOrderingAttribute index order, packetConnectionAttribute index conn])
  | .timeoutPacket packet order => do
      let attributes ← packetAttributes index packet
      pure (attributes ++ [channelOrderingAttribute index order])
  | .module event => pure (event.attributes.map fun a => ⟨a.1, a.2, index⟩)
  | .message event => pure [⟨"module", event.moduleAttribute, true⟩]

/-- The event as the chain publishes it. -/
def IbcEvent.toAbci (event : IbcEvent) : Result EventError AbciEvent := do
  let attributes ← event.attributes index
  pure ⟨event.eventType, attributes⟩

end Attributes

end Ibc
