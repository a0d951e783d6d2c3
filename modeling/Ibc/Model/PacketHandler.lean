import Ibc.Model.ChannelHandler

/-!
# Packet handlers

Sending a packet, receiving it, and the two ways it ends on the sending chain: acknowledged or
timed out (after its timeout, or because the other channel end closed). Receiving twice, and
resolving a packet whose commitment is gone, are no-ops that succeed.

In the history a sent packet is recorded when its commitment is stored, and a callback when it
returns.
-/

namespace Ibc

variable {CS Cons μ : Type} (H : Host CS Cons μ) (s : Ctx CS Cons μ)

/-! ### Sending -/

/-- The channel end is not closed, whether or not it is open, the packet is the next one, and it is
not timed out at what the client knows. -/
def sendPacketValidate (packet : Packet) : Result ContextError Unit := do
  let chanEndOnA ← s.channelEnd packet.chanOnA
  chanEndOnA.verifyNotClosed
  chanEndOnA.verifyCounterpartyMatches ⟨packet.portIdOnB, some packet.chanIdOnB⟩
  let connEndOnA ← connectionOfHops s chanEndOnA.connectionHops
  let clientIdOnA := connEndOnA.clientId
  let clientStateOfBOnA ← s.clientState clientIdOnA
  H.lightClient.confirmNotFrozen clientStateOfBOnA
  let latestHeightOnA := H.lightClient.latestHeight clientStateOfBOnA
  (Result.ensure (packet.timeoutHeightOnB.hasExpired latestHeightOnA = false)
    (.lowPacketHeight latestHeightOnA packet.timeoutHeightOnB) : Except PacketError Unit)
  let consensusStateOfBOnA ← s.consensusState clientIdOnA latestHeightOnA
  let latestTimestamp := H.lightClient.timestamp consensusStateOfBOnA
  (Result.ensure (latestTimestamp.checkExpiry packet.timeoutTimestampOnB ≠ .expired)
    .lowPacketTimestamp : Except PacketError Unit)
  let nextSeqSendOnA ← s.getNextSequenceSend packet.chanOnA
  (Result.ensure (packet.seqOnA = nextSeqSendOnA)
    (.invalidPacketSequence packet.seqOnA nextSeqSendOnA) : Except PacketError Unit)

/-- The sequence and the commitment, then the event. -/
def sendPacketExecute (packet : Packet) : Handler CS Cons μ Unit := do
  let s ← Exec.read
  let nextSeqSendOnA ← s.getNextSequenceSend packet.chanOnA
  let nextSeq ← (nextSeqSendOnA.increment : Result ContextError Sequence)
  Exec.write (·.onChannel (·.storeNextSequenceSend packet.chanOnA nextSeq))
  let commitment ← (packet.commitment H.library : Result ContextError PacketCommitment)
  Exec.write (·.onChannel (·.storePacketCommitment packet.keyOnA commitment))
  Exec.write (·.record (.sendPacket packet))
  let s ← Exec.read
  let chanEndOnA ← s.channelEnd packet.chanOnA
  let connIdOnA ← (Result.index chanEndOnA.connectionHops 0 : Result ContextError ConnectionId)
  Exec.write (·.logMessage "success: packet send")
  Exec.write (·.emitIbcEvent (.message .channel))
  Exec.write (·.emitIbcEvent (.sendPacket packet chanEndOnA.ordering connIdOnA))

/-- An application's request to send a packet. -/
def sendPacket (packet : Packet) : Handler CS Cons μ Unit := do
  let s ← Exec.read
  sendPacketValidate H s packet
  sendPacketExecute H packet

/-! ### Receiving -/

/-- No acknowledgement is stored yet. -/
def validateWriteAcknowledgement (packet : Packet) : Except PacketError Unit :=
  match s.getPacketAcknowledgement packet.keyOnB with
  | .ok _ => .error (.acknowledgementExists packet.seqOnA)
  | .error _ => .ok ()

/-- The lookup of a receipt under the ids of the *sending* end. Both of its outcomes with a working
store are accepted. -/
def validateReceiptLookup (packet : Packet) : Except PacketError Unit :=
  match s.getPacketReceipt packet.keyOnA with
  | .ok _ => .ok ()
  | .error e => if e = .packetReceiptNotFound packet.seqOnA then .ok () else .error e

/-- The channel is open, the timeout has not passed here, and the other chain has the commitment. -/
def recvPacketValidate (msg : MsgRecvPacket) : Result ContextError Unit := do
  H.validateMessageSigner msg.signer
  let packet := msg.packet
  let chanEndOnB ← s.channelEnd packet.chanOnB
  chanEndOnB.verifyStateMatches .open
  chanEndOnB.verifyCounterpartyMatches ⟨packet.portIdOnA, some packet.chanIdOnA⟩
  let connEndOnB ← connectionOfHops s chanEndOnB.connectionHops
  connEndOnB.verifyStateMatches .open
  (Result.ensure (packet.timeoutHeightOnB.hasExpired s.env.hostHeight = false)
    (.lowPacketHeight s.env.hostHeight packet.timeoutHeightOnB) : Except PacketError Unit)
  (Result.ensure (s.env.hostTimestamp.checkExpiry packet.timeoutTimestampOnB ≠ .expired)
    .lowPacketTimestamp : Except PacketError Unit)
  let client ← clientForProof H s connEndOnB.clientId msg.proofHeightOnA
  let expectedCommitmentOnA ← packet.commitment H.library
  verifyConnDelayPassed H s msg.proofHeightOnA connEndOnB
  verifyPacketMembership H (.packetVerificationFailed packet.seqOnA) client
    connEndOnB.counterparty.pfx msg.proofCommitmentOnA
    (.commitment packet.portIdOnA packet.chanIdOnA packet.seqOnA) expectedCommitmentOnA.bytes
  if chanEndOnB.ordering = .ordered then
    let nextSeqRecv ← s.getNextSequenceRecv packet.chanOnB
    (Result.ensure (¬ nextSeqRecv < packet.seqOnA)
      (.invalidPacketSequence packet.seqOnA nextSeqRecv) : Except PacketError Unit)
    if packet.seqOnA = nextSeqRecv then validateWriteAcknowledgement s packet else pure ()
  else
    validateReceiptLookup s packet
    validateWriteAcknowledgement s packet

/-- Whether the packet was relayed before. -/
def packetAlreadyReceived (ordering : Order) (packet : Packet) : Except PacketError Bool :=
  match ordering with
  | .none => .ok false
  | .unordered =>
      match s.getPacketReceipt packet.keyOnB with
      | .ok _ => .ok true
      | .error _ => .ok false
  | .ordered => do
      let nextSeqRecv ← s.getNextSequenceRecv packet.chanOnB
      pure (decide (packet.seqOnA < nextSeqRecv))

/-- The mark that the packet was received: a receipt, or the next expected sequence. -/
def markReceived (ordering : Order) (packet : Packet) : Handler CS Cons μ Unit :=
  match ordering with
  | .unordered => Exec.write (·.onChannel (·.storePacketReceipt packet.keyOnB .ok))
  | .ordered => do
      let s ← Exec.read
      let nextSeqRecv ← s.getNextSequenceRecv packet.chanOnB
      let nextSeq ← (nextSeqRecv.increment : Result ContextError Sequence)
      Exec.write (·.onChannel (·.storeNextSequenceRecv packet.chanOnB nextSeq))
  | .none => pure ()

/-- The callback, then the mark and the acknowledgement, unless the packet was relayed before. -/
def recvPacketExecute (moduleId : ModuleId) (msg : MsgRecvPacket) : Handler CS Cons μ Unit := do
  let s ← Exec.read
  let packet := msg.packet
  let chanEndOnB ← s.channelEnd packet.chanOnB
  let already ← packetAlreadyReceived s chanEndOnB.ordering packet
  if already then
    pure ()
  else
    let module ← channelRoute H moduleId
    let (extras, acknowledgement) ← runCallback (module.onRecvPacketExecute packet msg.signer)
    Exec.write (·.record (.recvPacket packet acknowledgement))
    markReceived chanEndOnB.ordering packet
    Exec.write (·.onChannel (·.storePacketAcknowledgement packet.keyOnB
      (computeAckCommitment H.library acknowledgement)))
    Exec.write (·.logMessage "success: packet receive")
    Exec.write (·.logMessage "success: packet write acknowledgement")
    let connIdOnB ← (Result.index chanEndOnB.connectionHops 0 : Result ContextError ConnectionId)
    Exec.write (·.emitIbcEvent (.message .channel))
    Exec.write (·.emitIbcEvent (.receivePacket packet chanEndOnB.ordering connIdOnB))
    Exec.write (·.emitIbcEvent (.message .channel))
    Exec.write (·.emitIbcEvent (.writeAcknowledgement packet acknowledgement connIdOnB))
    Exec.write (·.emitExtras extras)

/-! ### Acknowledging -/

/-- The stored commitment is the one of the packet. -/
def verifyCommitment (packet : Packet) (stored : PacketCommitment) : Result ContextError Unit := do
  let expected ← packet.commitment H.library
  (Result.ensure (stored = expected) (.incorrectPacketCommitment packet.seqOnA) :
    Except PacketError Unit)

/-- On an ordered channel acknowledgements are taken in sequence. -/
def verifyAckSequence (ordering : Order) (packet : Packet) : Except PacketError Unit :=
  if ordering = .ordered then do
    let nextSeqAck ← s.getNextSequenceAck packet.chanOnA
    Result.ensure (packet.seqOnA = nextSeqAck) (.invalidPacketSequence packet.seqOnA nextSeqAck)
  else pure ()

/-- The other chain has the acknowledgement, unless the commitment is gone. -/
def acknowledgementPacketValidateCore (msg : MsgAcknowledgement) : Result ContextError Unit := do
  H.validateMessageSigner msg.signer
  let packet := msg.packet
  let chanEndOnA ← s.channelEnd packet.chanOnA
  chanEndOnA.verifyStateMatches .open
  chanEndOnA.verifyCounterpartyMatches ⟨packet.portIdOnB, some packet.chanIdOnB⟩
  let connEndOnA ← connectionOfHops s chanEndOnA.connectionHops
  connEndOnA.verifyStateMatches .open
  match s.getPacketCommitment packet.keyOnA with
  | .error _ => pure ()
  | .ok commitmentOnA =>
      verifyCommitment H packet commitmentOnA
      verifyAckSequence s chanEndOnA.ordering packet
      let client ← clientForProof H s connEndOnA.clientId msg.proofHeightOnB
      let ackCommitment := computeAckCommitment H.library msg.acknowledgement
      verifyConnDelayPassed H s msg.proofHeightOnB connEndOnA
      verifyPacketMembership H (.packetVerificationFailed packet.seqOnA) client
        connEndOnA.counterparty.pfx msg.proofAckedOnB
        (.ack packet.portIdOnB packet.chanIdOnB packet.seqOnA) ackCommitment.bytes

/-- Then the module is asked, also if the commitment is gone. -/
def acknowledgementPacketValidate (moduleId : ModuleId) (msg : MsgAcknowledgement) :
    Result ContextError Unit := do
  acknowledgementPacketValidateCore H s msg
  let module ← channelRoute H moduleId
  module.onAcknowledgementPacketValidate s.store s.app msg.packet msg.acknowledgement msg.signer

/-- On an ordered channel the next acknowledgement is the one after the packet's. -/
def advanceNextSequenceAck (ordering : Order) (packet : Packet) : Handler CS Cons μ Unit :=
  if ordering = .ordered then do
    let nextSeq ← (packet.seqOnA.increment : Result ContextError Sequence)
    Exec.write (·.onChannel (·.storeNextSequenceAck packet.chanOnA nextSeq))
  else pure ()

/-- The event comes first. The commitment is deleted when the callback has succeeded. -/
def acknowledgementPacketExecute (moduleId : ModuleId) (msg : MsgAcknowledgement) :
    Handler CS Cons μ Unit := do
  let s ← Exec.read
  let packet := msg.packet
  let chanEndOnA ← s.channelEnd packet.chanOnA
  let connIdOnA ← (Result.index chanEndOnA.connectionHops 0 : Result ContextError ConnectionId)
  Exec.write (·.emitIbcEvent (.message .channel))
  Exec.write (·.emitIbcEvent (.acknowledgePacket packet chanEndOnA.ordering connIdOnA))
  match s.getPacketCommitment packet.keyOnA with
  | .error _ => pure ()
  | .ok _ =>
      let module ← channelRoute H moduleId
      let (extras, cbResult) ← runCallback
        (module.onAcknowledgementPacketExecute packet msg.acknowledgement msg.signer)
      Exec.write (·.record (.acknowledgePacket packet msg.acknowledgement cbResult.isOk))
      cbResult
      Exec.write (·.onChannel (·.deletePacketCommitment packet.keyOnA))
      advanceNextSequenceAck chanEndOnA.ordering packet
      Exec.write (·.logMessage "success: packet acknowledgement")
      Exec.write (·.emitExtras extras)

/-! ### Timing out -/

/-- The proof that the packet was not received: the sequence the other end expects next, or the
absence of a receipt. -/
def verifyUnreceived (client : CS × Cons) (connEndOnA : ConnectionEnd) (ordering : Order)
    (packet : Packet) (nextSeqRecvOnB : Sequence) (proof : CommitmentProofBytes) :
    Except PacketError Unit :=
  if ordering = .ordered then do
    Result.ensure (¬ packet.seqOnA < nextSeqRecvOnB)
      (.invalidPacketSequence packet.seqOnA nextSeqRecvOnB)
    -- The value proved is the packet's sequence, not the one the message claims.
    verifyPacketMembership H (.packetVerificationFailed nextSeqRecvOnB) client
      connEndOnA.counterparty.pfx proof (.seqRecv packet.portIdOnB packet.chanIdOnB)
      (encodeU64 packet.seqOnA)
  else
    verifyPacketNonMembership H (.packetVerificationFailed nextSeqRecvOnB) client
      connEndOnA.counterparty.pfx proof (.receipt packet.portIdOnB packet.chanIdOnB packet.seqOnA)

/-- The timeout has passed on the other chain. -/
def verifyTimedOut (client : CS × Cons) (packet : Packet) (proofHeightOnB : Height) :
    Except PacketError Unit :=
  let timestampOfB := H.lightClient.timestamp client.2
  Result.ensure (packet.timedOut timestampOfB proofHeightOnB = true)
    (.packetTimeoutNotReached packet.timeoutHeightOnB proofHeightOnB packet.timeoutTimestampOnB
      timestampOfB)

/-- The timeout has passed on the other chain, which has not received the packet, unless the
commitment is gone. The connection need not be open. -/
def timeoutValidate (msg : MsgTimeout) : Result ContextError Unit := do
  H.validateMessageSigner msg.signer
  let packet := msg.packet
  let chanEndOnA ← s.channelEnd packet.chanOnA
  chanEndOnA.verifyStateMatches .open
  chanEndOnA.verifyCounterpartyMatches ⟨packet.portIdOnB, some packet.chanIdOnB⟩
  let connEndOnA ← connectionOfHops s chanEndOnA.connectionHops
  match s.getPacketCommitment packet.keyOnA with
  | .error _ => pure ()
  | .ok commitmentOnA =>
      verifyCommitment H packet commitmentOnA
      let client ← clientForProof H s connEndOnA.clientId msg.proofHeightOnB
      verifyTimedOut H client packet msg.proofHeightOnB
      verifyConnDelayPassed H s msg.proofHeightOnB connEndOnA
      verifyUnreceived H client connEndOnA chanEndOnA.ordering packet msg.nextSeqRecvOnB
        msg.proofUnreceivedOnB

/-- The counterparty's channel and connection ids, with the packet errors of an end without. -/
def counterpartyIdsForPacket (chanEndOnA : ChannelEnd) (connEndOnA : ConnectionEnd) :
    Result ContextError (ChannelId × ConnectionId) := do
  let chanIdOnB ← (Result.okOr chanEndOnA.remote.channelId (.channel .missingCounterparty) :
    Except PacketError ChannelId)
  let connIdOnA ← Result.index chanEndOnA.connectionHops 0
  let connIdOnB ← (Result.okOr connEndOnA.counterparty.connectionId
    (.undefinedConnectionCounterparty connIdOnA) : Except PacketError ConnectionId)
  pure (chanIdOnB, connIdOnB)

/-- The other end is closed and has not received the packet, unless the commitment is gone. The end
may be in any state. -/
def timeoutOnCloseValidate (msg : MsgTimeoutOnClose) : Result ContextError Unit := do
  H.validateMessageSigner msg.signer
  let packet := msg.packet
  let chanEndOnA ← s.channelEnd packet.chanOnA
  chanEndOnA.verifyCounterpartyMatches ⟨packet.portIdOnB, some packet.chanIdOnB⟩
  match s.getPacketCommitment packet.keyOnA with
  | .error _ => pure ()
  | .ok commitmentOnA =>
      verifyCommitment H packet commitmentOnA
      let connEndOnA ← connectionOfHops s chanEndOnA.connectionHops
      let client ← clientForProof H s connEndOnA.clientId msg.proofHeightOnB
      let (chanIdOnB, connIdOnB) ← counterpartyIdsForPacket chanEndOnA connEndOnA
      let expectedChanEndOnB ← ChannelEnd.new .closed chanEndOnA.ordering
        ⟨packet.portIdOnA, some packet.chanIdOnA⟩ [connIdOnB] chanEndOnA.version
      -- Both checks below take the proof of non-receipt; the proof of closure is not read.
      verifyPacketMembership H .verifyChannelFailed client connEndOnA.counterparty.pfx
        msg.proofUnreceivedOnB (.channelEnd chanEndOnA.remote.portId chanIdOnB)
        expectedChanEndOnB.toRaw.encode
      verifyConnDelayPassed H s msg.proofHeightOnB connEndOnA
      verifyUnreceived H client connEndOnA chanEndOnA.ordering packet msg.nextSeqRecvOnB
        msg.proofUnreceivedOnB

/-- A timeout, of either kind. -/
inductive TimeoutMsgType where
  | timeout (msg : MsgTimeout)
  | timeoutOnClose (msg : MsgTimeoutOnClose)

namespace TimeoutMsgType

/-- The packet that timed out. -/
def packet : TimeoutMsgType → Packet
  | .timeout msg => msg.packet
  | .timeoutOnClose msg => msg.packet

/-- The signer of the message. -/
def signer : TimeoutMsgType → Signer
  | .timeout msg => msg.signer
  | .timeoutOnClose msg => msg.signer

/-- What the core checks. -/
def validateCore : TimeoutMsgType → Result ContextError Unit
  | .timeout msg => timeoutValidate H s msg
  | .timeoutOnClose msg => timeoutOnCloseValidate H s msg

end TimeoutMsgType

/-- Then the module is asked, also if the commitment is gone. -/
def timeoutPacketValidate (moduleId : ModuleId) (msg : TimeoutMsgType) :
    Result ContextError Unit := do
  msg.validateCore H s
  let module ← channelRoute H moduleId
  module.onTimeoutPacketValidate s.store s.app msg.packet msg.signer

/-- An ordered channel closes when one of its packets times out. -/
def closeIfOrdered (packet : Packet) (chanEndOnA : ChannelEnd) : Handler CS Cons μ Unit :=
  if chanEndOnA.ordering = .ordered then
    Exec.write (·.onChannel (·.storeChannel packet.chanOnA { chanEndOnA with state := .closed }))
  else pure ()

/-- The event of a channel closed by a timeout. -/
def emitChannelClosed (packet : Packet) (chanEndOnA : ChannelEnd) : Handler CS Cons μ Unit :=
  if chanEndOnA.ordering = .ordered then do
    let connIdOnA ← (Result.index chanEndOnA.connectionHops 0 : Result ContextError ConnectionId)
    Exec.write (·.emitIbcEvent (.message .channel))
    Exec.write (·.emitIbcEvent (.channelClosed packet.portIdOnA packet.chanIdOnA
      chanEndOnA.remote.portId chanEndOnA.remote.channelId connIdOnA chanEndOnA.ordering))
  else pure ()

/-- The event comes first. The commitment is deleted when the callback has succeeded. -/
def timeoutPacketExecute (moduleId : ModuleId) (msg : TimeoutMsgType) : Handler CS Cons μ Unit := do
  let s ← Exec.read
  let packet := msg.packet
  let chanEndOnA ← s.channelEnd packet.chanOnA
  Exec.write (·.emitIbcEvent (.message .channel))
  Exec.write (·.emitIbcEvent (.timeoutPacket packet chanEndOnA.ordering))
  match s.getPacketCommitment packet.keyOnA with
  | .error _ => pure ()
  | .ok _ =>
      let module ← channelRoute H moduleId
      let (extras, cbResult) ← runCallback (module.onTimeoutPacketExecute packet msg.signer)
      Exec.write (·.record (.timeoutPacket packet cbResult.isOk))
      cbResult
      Exec.write (·.onChannel (·.deletePacketCommitment packet.keyOnA))
      closeIfOrdered packet chanEndOnA
      Exec.write (·.logMessage "success: packet timeout")
      emitChannelClosed packet chanEndOnA
      Exec.write (·.emitExtras extras)

end Ibc
