import Ibc.Model.Error

/-!
# Messages and events

The messages a relayer submits (`MsgEnvelope`), one constructor per handler, and the events a
handler emits with the values the source passes to them.
-/

namespace Ibc

/-! ### Client messages -/

/-- Create a client with these two states. -/
structure MsgCreateClient where
  clientState : Any
  consensusState : Any
  signer : Signer

/-- Update a client with a header. -/
structure MsgUpdateClient where
  clientId : ClientId
  header : Any
  signer : Signer

/-- Report misbehaviour of the chain that a client follows. -/
structure MsgSubmitMisbehaviour where
  clientId : ClientId
  misbehaviour : Any
  signer : Signer

/-- Upgrade a client to the two states that its chain committed to. -/
structure MsgUpgradeClient where
  clientId : ClientId
  upgradedClientState : Any
  upgradedConsensusState : Any
  proofUpgradeClient : CommitmentProofBytes
  proofUpgradeConsensusState : CommitmentProofBytes
  signer : Signer

/-- The messages for clients. -/
inductive ClientMsg where
  | createClient (msg : MsgCreateClient)
  | updateClient (msg : MsgUpdateClient)
  | misbehaviour (msg : MsgSubmitMisbehaviour)
  | upgradeClient (msg : MsgUpgradeClient)

/-! ### Connection messages -/

/-- Begin a connection on chain A. -/
structure MsgConnectionOpenInit where
  clientIdOnA : ClientId
  counterparty : ConnectionCounterparty
  version : Option ConnectionVersion
  delayPeriod : Duration
  signer : Signer

/-- Answer it on chain B, with proofs of what A stores. -/
structure MsgConnectionOpenTry where
  clientIdOnB : ClientId
  clientStateOfBOnA : Any
  counterparty : ConnectionCounterparty
  versionsOnA : List ConnectionVersion
  proofConnEndOnA : CommitmentProofBytes
  proofClientStateOfBOnA : CommitmentProofBytes
  proofConsensusStateOfBOnA : CommitmentProofBytes
  proofsHeightOnA : Height
  consensusHeightOfBOnA : Height
  delayPeriod : Duration
  signer : Signer
  /-- Deprecated, and read by no handler. -/
  previousConnectionId : String

/-- Open the end on A, with proofs of what B stores. -/
structure MsgConnectionOpenAck where
  connIdOnA : ConnectionId
  connIdOnB : ConnectionId
  clientStateOfAOnB : Any
  proofConnEndOnB : CommitmentProofBytes
  proofClientStateOfAOnB : CommitmentProofBytes
  proofConsensusStateOfAOnB : CommitmentProofBytes
  proofsHeightOnB : Height
  consensusHeightOfAOnB : Height
  version : ConnectionVersion
  signer : Signer

/-- Open the end on B. -/
structure MsgConnectionOpenConfirm where
  connIdOnB : ConnectionId
  proofConnEndOnA : CommitmentProofBytes
  proofHeightOnA : Height
  signer : Signer

/-- The four steps of the connection handshake. -/
inductive ConnectionMsg where
  | openInit (msg : MsgConnectionOpenInit)
  | openTry (msg : MsgConnectionOpenTry)
  | openAck (msg : MsgConnectionOpenAck)
  | openConfirm (msg : MsgConnectionOpenConfirm)

/-! ### Channel messages -/

/-- Begin a channel on chain A. -/
structure MsgChannelOpenInit where
  portIdOnA : PortId
  connectionHopsOnA : List ConnectionId
  portIdOnB : PortId
  ordering : Order
  signer : Signer
  versionProposal : ChannelVersion

/-- Answer it on chain B. -/
structure MsgChannelOpenTry where
  portIdOnB : PortId
  connectionHopsOnB : List ConnectionId
  portIdOnA : PortId
  chanIdOnA : ChannelId
  versionSupportedOnA : ChannelVersion
  proofChanEndOnA : CommitmentProofBytes
  proofHeightOnA : Height
  ordering : Order
  signer : Signer
  /-- Deprecated, and read by no handler. -/
  versionProposal : ChannelVersion

/-- Open the end on A. -/
structure MsgChannelOpenAck where
  portIdOnA : PortId
  chanIdOnA : ChannelId
  chanIdOnB : ChannelId
  versionOnB : ChannelVersion
  proofChanEndOnB : CommitmentProofBytes
  proofHeightOnB : Height
  signer : Signer

/-- Open the end on B. -/
structure MsgChannelOpenConfirm where
  portIdOnB : PortId
  chanIdOnB : ChannelId
  proofChanEndOnA : CommitmentProofBytes
  proofHeightOnA : Height
  signer : Signer

/-- Close the end on A. -/
structure MsgChannelCloseInit where
  portIdOnA : PortId
  chanIdOnA : ChannelId
  signer : Signer

/-- Close the end on B, with a proof that the one on A is closed. -/
structure MsgChannelCloseConfirm where
  portIdOnB : PortId
  chanIdOnB : ChannelId
  proofChanEndOnA : CommitmentProofBytes
  proofHeightOnA : Height
  signer : Signer

/-- The steps of the channel handshake, and the two that close a channel. -/
inductive ChannelMsg where
  | openInit (msg : MsgChannelOpenInit)
  | openTry (msg : MsgChannelOpenTry)
  | openAck (msg : MsgChannelOpenAck)
  | openConfirm (msg : MsgChannelOpenConfirm)
  | closeInit (msg : MsgChannelCloseInit)
  | closeConfirm (msg : MsgChannelCloseConfirm)

/-! ### Packet messages -/

/-- Receive a packet that chain A committed to. -/
structure MsgRecvPacket where
  packet : Packet
  proofCommitmentOnA : CommitmentProofBytes
  proofHeightOnA : Height
  signer : Signer

/-- Take the acknowledgement that chain B wrote. -/
structure MsgAcknowledgement where
  packet : Packet
  acknowledgement : Acknowledgement
  proofAckedOnB : CommitmentProofBytes
  proofHeightOnB : Height
  signer : Signer

/-- Give a packet up after its timeout. -/
structure MsgTimeout where
  packet : Packet
  nextSeqRecvOnB : Sequence
  proofUnreceivedOnB : CommitmentProofBytes
  proofHeightOnB : Height
  signer : Signer

/-- Give a packet up because the end on B is closed. -/
structure MsgTimeoutOnClose where
  packet : Packet
  nextSeqRecvOnB : Sequence
  proofUnreceivedOnB : CommitmentProofBytes
  proofCloseOnB : CommitmentProofBytes
  proofHeightOnB : Height
  signer : Signer

/-- The messages about a packet. -/
inductive PacketMsg where
  | recv (msg : MsgRecvPacket)
  | ack (msg : MsgAcknowledgement)
  | timeout (msg : MsgTimeout)
  | timeoutOnClose (msg : MsgTimeoutOnClose)

/-- The packet a message is about. -/
def PacketMsg.packet : PacketMsg → Packet
  | .recv msg => msg.packet
  | .ack msg => msg.packet
  | .timeout msg => msg.packet
  | .timeoutOnClose msg => msg.packet

/-- Any message of a relayer. -/
inductive MsgEnvelope where
  | client (msg : ClientMsg)
  | connection (msg : ConnectionMsg)
  | channel (msg : ChannelMsg)
  | packet (msg : PacketMsg)

/-! ### Events -/

/-- An event of an application module: its kind and attributes. -/
structure ModuleEvent where
  kind : String
  attributes : List (String × String)
deriving DecidableEq

/-- Which sub-protocol handled a message. -/
inductive MessageEvent where
  | client
  | connection
  | channel
  | module (name : String)
deriving DecidableEq

/-- The events of the handlers, and those of the modules. -/
inductive IbcEvent where
  | createClient (clientId : ClientId) (clientType : ClientType) (consensusHeight : Height)
  | updateClient (clientId : ClientId) (clientType : ClientType) (consensusHeight : Height)
      (consensusHeights : List Height) (header : Bytes)
  | upgradeClient (clientId : ClientId) (clientType : ClientType) (consensusHeight : Height)
  | clientMisbehaviour (clientId : ClientId) (clientType : ClientType)
  | openInitConnection (connIdOnA : ConnectionId) (clientIdOnA clientIdOnB : ClientId)
  | openTryConnection (connIdOnB : ConnectionId) (clientIdOnB : ClientId)
      (connIdOnA : ConnectionId) (clientIdOnA : ClientId)
  | openAckConnection (connIdOnA : ConnectionId) (clientIdOnA : ClientId)
      (connIdOnB : ConnectionId) (clientIdOnB : ClientId)
  | openConfirmConnection (connIdOnB : ConnectionId) (clientIdOnB : ClientId)
      (connIdOnA : ConnectionId) (clientIdOnA : ClientId)
  | openInitChannel (portIdOnA : PortId) (chanIdOnA : ChannelId) (portIdOnB : PortId)
      (connIdOnA : ConnectionId) (versionOnA : ChannelVersion)
  | openTryChannel (portIdOnB : PortId) (chanIdOnB : ChannelId) (portIdOnA : PortId)
      (chanIdOnA : ChannelId) (connIdOnB : ConnectionId) (versionOnB : ChannelVersion)
  | openAckChannel (portIdOnA : PortId) (chanIdOnA : ChannelId) (portIdOnB : PortId)
      (chanIdOnB : ChannelId) (connIdOnA : ConnectionId)
  | openConfirmChannel (portIdOnB : PortId) (chanIdOnB : ChannelId) (portIdOnA : PortId)
      (chanIdOnA : ChannelId) (connIdOnB : ConnectionId)
  | closeInitChannel (portIdOnA : PortId) (chanIdOnA : ChannelId) (portIdOnB : PortId)
      (chanIdOnB : ChannelId) (connIdOnA : ConnectionId)
  | closeConfirmChannel (portIdOnB : PortId) (chanIdOnB : ChannelId) (portIdOnA : PortId)
      (chanIdOnA : ChannelId) (connIdOnB : ConnectionId)
  | sendPacket (packet : Packet) (channelOrdering : Order) (srcConnectionId : ConnectionId)
  | receivePacket (packet : Packet) (channelOrdering : Order) (dstConnectionId : ConnectionId)
  | writeAcknowledgement (packet : Packet) (acknowledgement : Acknowledgement)
      (connIdOnB : ConnectionId)
  | acknowledgePacket (packet : Packet) (channelOrdering : Order) (srcConnectionId : ConnectionId)
  | timeoutPacket (packet : Packet) (channelOrdering : Order)
  | channelClosed (portIdOnA : PortId) (chanIdOnA : ChannelId) (portIdOnB : PortId)
      (maybeChanIdOnB : Option ChannelId) (connIdOnA : ConnectionId) (channelOrdering : Order)
  | module (event : ModuleEvent)
  | message (event : MessageEvent)
deriving DecidableEq

end Ibc
