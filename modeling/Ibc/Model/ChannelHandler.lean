import Ibc.Model.Checks

/-!
# Channel handlers

The channel handshake and the two ways to close a channel. Each `execute` runs the module's
callback first, on the store as it is, and writes afterwards; what it looks up after the callback
is looked up in the store the callback left.

`chanOpenConfirmExecute`, `chanCloseInitExecute` and `chanCloseConfirmExecute` need the
counterparty's channel id only for their event, and look at it after they have written the channel
end: an end without one makes them fail with the write done.
-/

namespace Ibc

variable {CS Cons μ : Type} (H : Host CS Cons μ) (s : Ctx CS Cons μ)

/-! ### Shared pieces -/

/-- The counter of channels grows by one. -/
def increaseChannelCounter : Handler CS Cons μ Unit := do
  let s ← Exec.read
  let n ← (Result.addU64 s.store.channel.channelIdsCounter 1 : Result ContextError ℕ)
  Exec.write (·.onChannel fun c => { c with channelIdsCounter := n })

/-- The module behind a route, for the channel handlers. -/
def channelRoute (moduleId : ModuleId) : Except ChannelError (Module (Store CS Cons) μ) :=
  Result.okOr (H.getRoute moduleId) .routeNotFound

/-- The connection end under the first hop. -/
def connectionOfHops (hops : List ConnectionId) : Result ContextError ConnectionEnd := do
  let connId ← Result.index hops 0
  s.connectionEnd connId

/-- The connection id on the other side of the first hop. -/
def counterpartyConnection (hops : List ConnectionId) (conn : ConnectionEnd) :
    Result ContextError ConnectionId := do
  let connId ← Result.index hops 0
  (Result.okOr conn.counterparty.connectionId (.undefinedConnectionCounterparty connId) :
    Except ChannelError ConnectionId)

/-- The counterparty's channel id, which the proof-checking handlers need. -/
def ChannelEnd.requireCounterpartyChannel (e : ChannelEnd) : Except ChannelError ChannelId :=
  Result.okOr e.remote.channelId .missingCounterparty

/-- The proof that the other chain has this channel end. -/
def verifyChannelEnd (client : CS × Cons) (pfx : CommitmentPrefix) (proof : CommitmentProofBytes)
    (key : ChannelKey) (expected : ChannelEnd) : Except ChannelError Unit :=
  verifyChannelMembership H .verifyChannelFailed client pfx proof (.channelEnd key.1 key.2)
    expected.toRaw.encode

/-- A new channel end under the next identifier, with its three sequences at one. -/
def openChannel (key : ChannelKey) (e : ChannelEnd) : Handler CS Cons μ Unit := do
  Exec.write (·.onChannel (·.storeChannel key e))
  increaseChannelCounter
  Exec.write (·.onChannel (·.storeNextSequenceSend key 1))
  Exec.write (·.onChannel (·.storeNextSequenceRecv key 1))
  Exec.write (·.onChannel (·.storeNextSequenceAck key 1))

/-- The events of a channel step, then the events and logs of the callback. -/
def emitChannel (event : IbcEvent) (extras : ModuleExtras) : Handler CS Cons μ Unit := do
  Exec.write (·.emitIbcEvent (.message .channel))
  Exec.write (·.emitIbcEvent event)
  Exec.write (·.emitExtras extras)

/-! ### Init -/

/-- One hop, an active client, and a connection version that knows the ordering. -/
def chanOpenInitValidateCore (msg : MsgChannelOpenInit) : Result ContextError Unit := do
  H.validateMessageSigner msg.signer
  verifyConnectionHopsLength msg.connectionHopsOnA 1
  let connEndOnA ← connectionOfHops s msg.connectionHopsOnA
  let clientStateOfBOnA ← s.clientState connEndOnA.clientId
  H.lightClient.confirmNotFrozen clientStateOfBOnA
  let connVersion ← Result.index connEndOnA.versions 0
  connVersion.verifyFeatureSupported msg.ordering.asStr

/-- Then the module is asked for a version, which execution asks for again. -/
def chanOpenInitValidate (moduleId : ModuleId) (msg : MsgChannelOpenInit) :
    Result ContextError Unit := do
  chanOpenInitValidateCore H s msg
  let chanIdOnA := ChannelId.new s.store.channel.channelIdsCounter
  let module ← channelRoute H moduleId
  let _ ← module.onChanOpenInitValidate s.store s.app msg.ordering msg.connectionHopsOnA
    msg.portIdOnA chanIdOnA ⟨msg.portIdOnB, none⟩ msg.versionProposal
  pure ()

/-- The end is stored with the proposal, the event has the version of the module. -/
def chanOpenInitExecute (moduleId : ModuleId) (msg : MsgChannelOpenInit) :
    Handler CS Cons μ Unit := do
  let s ← Exec.read
  let chanIdOnA := ChannelId.new s.store.channel.channelIdsCounter
  let module ← channelRoute H moduleId
  let answer ← runCallback (module.onChanOpenInitExecute msg.ordering msg.connectionHopsOnA
    msg.portIdOnA chanIdOnA ⟨msg.portIdOnB, none⟩ msg.versionProposal)
  let (extras, version) ← answer
  let connIdOnA ← (Result.index msg.connectionHopsOnA 0 : Result ContextError ConnectionId)
  let chanEndOnA ← ChannelEnd.new .init msg.ordering ⟨msg.portIdOnB, none⟩ msg.connectionHopsOnA
    msg.versionProposal
  openChannel (msg.portIdOnA, chanIdOnA) chanEndOnA
  Exec.write (·.logMessage
    ("success: channel open init with channel identifier: " ++ chanIdOnA.str))
  emitChannel (.openInitChannel msg.portIdOnA chanIdOnA msg.portIdOnB connIdOnA version) extras

/-! ### Try -/

/-- Over an open connection, the other chain has an end in `init`. -/
def chanOpenTryValidateCore (msg : MsgChannelOpenTry) : Result ContextError Unit := do
  H.validateMessageSigner msg.signer
  verifyConnectionHopsLength msg.connectionHopsOnB 1
  let connEndOnB ← connectionOfHops s msg.connectionHopsOnB
  connEndOnB.verifyStateMatches .open
  let connVersion ← Result.index connEndOnB.versions 0
  connVersion.verifyFeatureSupported msg.ordering.asStr
  let client ← clientForProof H s connEndOnB.clientId msg.proofHeightOnA
  let connIdOnA ← counterpartyConnection msg.connectionHopsOnB connEndOnB
  let expectedChanEndOnA ← ChannelEnd.new .init msg.ordering ⟨msg.portIdOnB, none⟩ [connIdOnA]
    msg.versionSupportedOnA
  verifyChannelEnd H client connEndOnB.counterparty.pfx msg.proofChanEndOnA
    (msg.portIdOnA, msg.chanIdOnA) expectedChanEndOnA

/-- Then the module is asked for a version. -/
def chanOpenTryValidate (moduleId : ModuleId) (msg : MsgChannelOpenTry) :
    Result ContextError Unit := do
  chanOpenTryValidateCore H s msg
  let chanIdOnB := ChannelId.new s.store.channel.channelIdsCounter
  let module ← channelRoute H moduleId
  let _ ← module.onChanOpenTryValidate s.store s.app msg.ordering msg.connectionHopsOnB
    msg.portIdOnB chanIdOnB ⟨msg.portIdOnA, some msg.chanIdOnA⟩ msg.versionSupportedOnA
  pure ()

/-- The end is stored with the version of the module. -/
def chanOpenTryExecute (moduleId : ModuleId) (msg : MsgChannelOpenTry) :
    Handler CS Cons μ Unit := do
  let s ← Exec.read
  let chanIdOnB := ChannelId.new s.store.channel.channelIdsCounter
  let module ← channelRoute H moduleId
  let answer ← runCallback (module.onChanOpenTryExecute msg.ordering msg.connectionHopsOnB
    msg.portIdOnB chanIdOnB ⟨msg.portIdOnA, some msg.chanIdOnA⟩ msg.versionSupportedOnA)
  let (extras, version) ← answer
  let connIdOnB ← (Result.index msg.connectionHopsOnB 0 : Result ContextError ConnectionId)
  let chanEndOnB ← ChannelEnd.new .tryOpen msg.ordering ⟨msg.portIdOnA, some msg.chanIdOnA⟩
    msg.connectionHopsOnB version
  openChannel (msg.portIdOnB, chanIdOnB) chanEndOnB
  Exec.write (·.logMessage
    ("success: channel open try with channel identifier: " ++ chanIdOnB.str))
  emitChannel (.openTryChannel msg.portIdOnB chanIdOnB msg.portIdOnA msg.chanIdOnA connIdOnB
    version) extras

/-! ### Ack -/

/-- An end in `init`, and one of the other chain in `tryOpen` that answers it. -/
def chanOpenAckValidateCore (msg : MsgChannelOpenAck) : Result ContextError Unit := do
  H.validateMessageSigner msg.signer
  let chanEndOnA ← s.channelEnd (msg.portIdOnA, msg.chanIdOnA)
  chanEndOnA.verifyStateMatches .init
  verifyConnectionHopsLength chanEndOnA.connectionHops 1
  let connEndOnA ← connectionOfHops s chanEndOnA.connectionHops
  connEndOnA.verifyStateMatches .open
  let client ← clientForProof H s connEndOnA.clientId msg.proofHeightOnB
  let connIdOnB ← counterpartyConnection chanEndOnA.connectionHops connEndOnA
  let expectedChanEndOnB ← ChannelEnd.new .tryOpen chanEndOnA.ordering
    ⟨msg.portIdOnA, some msg.chanIdOnA⟩ [connIdOnB] msg.versionOnB
  verifyChannelEnd H client connEndOnA.counterparty.pfx msg.proofChanEndOnB
    (chanEndOnA.remote.portId, msg.chanIdOnB) expectedChanEndOnB

/-- Then the module is asked. -/
def chanOpenAckValidate (moduleId : ModuleId) (msg : MsgChannelOpenAck) :
    Result ContextError Unit := do
  chanOpenAckValidateCore H s msg
  let module ← channelRoute H moduleId
  module.onChanOpenAckValidate s.store s.app msg.portIdOnA msg.chanIdOnA msg.versionOnB

/-- The end after the acknowledgement: open, with the version and channel id of the other side. -/
def ChannelEnd.opened (e : ChannelEnd) (version : ChannelVersion) (chanIdOnB : ChannelId) :
    ChannelEnd :=
  { e with
    state := .open
    version := version
    remote := { e.remote with channelId := some chanIdOnB } }

/-- The end is opened. -/
def chanOpenAckExecute (moduleId : ModuleId) (msg : MsgChannelOpenAck) :
    Handler CS Cons μ Unit := do
  let module ← channelRoute H moduleId
  let answer ← runCallback
    (module.onChanOpenAckExecute msg.portIdOnA msg.chanIdOnA msg.versionOnB)
  let extras ← answer
  let s ← Exec.read
  let chanEndOnA ← s.channelEnd (msg.portIdOnA, msg.chanIdOnA)
  Exec.write (·.onChannel (·.storeChannel (msg.portIdOnA, msg.chanIdOnA)
    (chanEndOnA.opened msg.versionOnB msg.chanIdOnB)))
  Exec.write (·.logMessage "success: channel open ack")
  let connIdOnA ← (Result.index chanEndOnA.connectionHops 0 : Result ContextError ConnectionId)
  emitChannel (.openAckChannel msg.portIdOnA msg.chanIdOnA chanEndOnA.remote.portId msg.chanIdOnB
    connIdOnA) extras

/-! ### Confirm -/

/-- An end in `tryOpen`, and an open one of the other chain. -/
def chanOpenConfirmValidateCore (msg : MsgChannelOpenConfirm) : Result ContextError Unit := do
  H.validateMessageSigner msg.signer
  let chanEndOnB ← s.channelEnd (msg.portIdOnB, msg.chanIdOnB)
  chanEndOnB.verifyStateMatches .tryOpen
  verifyConnectionHopsLength chanEndOnB.connectionHops 1
  let connEndOnB ← connectionOfHops s chanEndOnB.connectionHops
  connEndOnB.verifyStateMatches .open
  let client ← clientForProof H s connEndOnB.clientId msg.proofHeightOnA
  let chanIdOnA ← chanEndOnB.requireCounterpartyChannel
  let connIdOnA ← counterpartyConnection chanEndOnB.connectionHops connEndOnB
  let expectedChanEndOnA ← ChannelEnd.new .open chanEndOnB.ordering
    ⟨msg.portIdOnB, some msg.chanIdOnB⟩ [connIdOnA] chanEndOnB.version
  verifyChannelEnd H client connEndOnB.counterparty.pfx msg.proofChanEndOnA
    (chanEndOnB.remote.portId, chanIdOnA) expectedChanEndOnA

/-- Then the module is asked. -/
def chanOpenConfirmValidate (moduleId : ModuleId) (msg : MsgChannelOpenConfirm) :
    Result ContextError Unit := do
  chanOpenConfirmValidateCore H s msg
  let module ← channelRoute H moduleId
  module.onChanOpenConfirmValidate s.store s.app msg.portIdOnB msg.chanIdOnB

/-- The counterparty's channel id for an event; the text is the error of an end without one. -/
def ChannelEnd.channelIdForEvent (e : ChannelEnd) (missing : String) :
    Except ChannelError ChannelId :=
  Result.okOr e.remote.channelId (.other missing)

/-- The end is opened. -/
def chanOpenConfirmExecute (moduleId : ModuleId) (msg : MsgChannelOpenConfirm) :
    Handler CS Cons μ Unit := do
  let module ← channelRoute H moduleId
  let answer ← runCallback (module.onChanOpenConfirmExecute msg.portIdOnB msg.chanIdOnB)
  let extras ← answer
  let s ← Exec.read
  let chanEndOnB ← s.channelEnd (msg.portIdOnB, msg.chanIdOnB)
  Exec.write (·.onChannel (·.storeChannel (msg.portIdOnB, msg.chanIdOnB)
    { chanEndOnB with state := .open }))
  Exec.write (·.logMessage "success: channel open confirm")
  -- The hop is read before the counterparty's channel id here, after it in the close handlers.
  let connIdOnB ← (Result.index chanEndOnB.connectionHops 0 : Result ContextError ConnectionId)
  let chanIdOnA ← chanEndOnB.channelIdForEvent
    "internal error: ChannelEnd doesn't have a counterparty channel id in OpenConfirm"
  emitChannel (.openConfirmChannel msg.portIdOnB msg.chanIdOnB chanEndOnB.remote.portId chanIdOnA
    connIdOnB) extras

/-! ### Close -/

/-- An end that is not closed, over an open connection with an active client. -/
def chanCloseInitValidateCore (msg : MsgChannelCloseInit) : Result ContextError Unit := do
  H.validateMessageSigner msg.signer
  let chanEndOnA ← s.channelEnd (msg.portIdOnA, msg.chanIdOnA)
  chanEndOnA.verifyNotClosed
  verifyConnectionHopsLength chanEndOnA.connectionHops 1
  let connEndOnA ← connectionOfHops s chanEndOnA.connectionHops
  connEndOnA.verifyStateMatches .open
  let clientStateOfBOnA ← s.clientState connEndOnA.clientId
  H.lightClient.confirmNotFrozen clientStateOfBOnA

/-- Then the module is asked. -/
def chanCloseInitValidate (moduleId : ModuleId) (msg : MsgChannelCloseInit) :
    Result ContextError Unit := do
  chanCloseInitValidateCore H s msg
  let module ← channelRoute H moduleId
  module.onChanCloseInitValidate s.store s.app msg.portIdOnA msg.chanIdOnA

/-- An end that is not closed, and a closed one of the other chain. The hops are not counted here.
-/
def chanCloseConfirmValidateCore (msg : MsgChannelCloseConfirm) : Result ContextError Unit := do
  H.validateMessageSigner msg.signer
  let chanEndOnB ← s.channelEnd (msg.portIdOnB, msg.chanIdOnB)
  chanEndOnB.verifyNotClosed
  let connEndOnB ← connectionOfHops s chanEndOnB.connectionHops
  connEndOnB.verifyStateMatches .open
  let client ← clientForProof H s connEndOnB.clientId msg.proofHeightOnA
  let chanIdOnA ← chanEndOnB.requireCounterpartyChannel
  let connIdOnA ← counterpartyConnection chanEndOnB.connectionHops connEndOnB
  let expectedChanEndOnA ← ChannelEnd.new .closed chanEndOnB.ordering
    ⟨msg.portIdOnB, some msg.chanIdOnB⟩ [connIdOnA] chanEndOnB.version
  verifyChannelEnd H client connEndOnB.counterparty.pfx msg.proofChanEndOnA
    (chanEndOnB.remote.portId, chanIdOnA) expectedChanEndOnA

/-- Then the module is asked. -/
def chanCloseConfirmValidate (moduleId : ModuleId) (msg : MsgChannelCloseConfirm) :
    Result ContextError Unit := do
  chanCloseConfirmValidateCore H s msg
  let module ← channelRoute H moduleId
  module.onChanCloseConfirmValidate s.store s.app msg.portIdOnB msg.chanIdOnB

/-- Both close handlers: the callback, the end set to closed, then the event. The error of an end
without a counterparty channel id is the same text in both. -/
def chanCloseExecute (moduleId : ModuleId) (key : ChannelKey)
    (callback : Module (Store CS Cons) μ →
      Callback (Store CS Cons) μ (Except ChannelError ModuleExtras))
    (log : String) (event : PortId → ChannelId → ConnectionId → IbcEvent) :
    Handler CS Cons μ Unit := do
  let module ← channelRoute H moduleId
  let answer ← runCallback (callback module)
  let extras ← answer
  let s ← Exec.read
  let chanEnd ← s.channelEnd key
  Exec.write (·.onChannel (·.storeChannel key { chanEnd with state := .closed }))
  Exec.write (·.logMessage log)
  let counterpartyChanId ← chanEnd.channelIdForEvent
    "internal error: ChannelEnd doesn't have a counterparty channel id in CloseInit"
  let connId ← (Result.index chanEnd.connectionHops 0 : Result ContextError ConnectionId)
  emitChannel (event chanEnd.remote.portId counterpartyChanId connId) extras

/-- The end is closed. -/
def chanCloseInitExecute (moduleId : ModuleId) (msg : MsgChannelCloseInit) :
    Handler CS Cons μ Unit :=
  chanCloseExecute H moduleId (msg.portIdOnA, msg.chanIdOnA)
    (·.onChanCloseInitExecute msg.portIdOnA msg.chanIdOnA) "success: channel close init"
    (.closeInitChannel msg.portIdOnA msg.chanIdOnA)

/-- The end is closed. -/
def chanCloseConfirmExecute (moduleId : ModuleId) (msg : MsgChannelCloseConfirm) :
    Handler CS Cons μ Unit :=
  chanCloseExecute H moduleId (msg.portIdOnB, msg.chanIdOnB)
    (·.onChanCloseConfirmExecute msg.portIdOnB msg.chanIdOnB) "success: channel close confirm"
    (.closeConfirmChannel msg.portIdOnB msg.chanIdOnB)

end Ibc
