import Ibc.Model.Checks

/-!
# Connection handlers

The four steps of the connection handshake. The steps that take proofs check three facts about the
other chain: its connection end, the client state it keeps of this chain, and the consensus state
it keeps of this chain at a height this chain has reached.
-/

namespace Ibc

variable {CS Cons μ : Type} (H : Host CS Cons μ) (s : Ctx CS Cons μ)

/-! ### Writes to the connection store -/

namespace ConnectionStore

/-- A connection end under its identifier. -/
def storeConnection (id : ConnectionId) (e : ConnectionEnd) (c : ConnectionStore) :
    ConnectionStore :=
  { c with connections := Function.update c.connections id (some e) }

/-- The connection of a client; a client has one. -/
def storeConnectionToClient (clientId : ClientId) (id : ConnectionId) (c : ConnectionStore) :
    ConnectionStore :=
  { c with clientConnections := Function.update c.clientConnections clientId (some id) }

end ConnectionStore

/-- The counter of connections grows by one. -/
def increaseConnectionCounter : Handler CS Cons μ Unit := do
  let s ← Exec.read
  let n ← (Result.addU64 s.store.connection.connectionIdsCounter 1 : Result ContextError ℕ)
  Exec.write (·.onConnection fun c => { c with connectionIdsCounter := n })

/-- A height this chain has not reached is refused. -/
def verifyConsensusHeight (target : Height) : Except ConnectionError Unit :=
  Result.ensure (¬ s.env.hostHeight < target) (.invalidConsensusHeight target s.env.hostHeight)

/-- The other side's connection id, which an end past `init` has. -/
def ConnectionCounterparty.requireConnectionId (c : ConnectionCounterparty) :
    Except ConnectionError ConnectionId :=
  Result.okOr c.connectionId .invalidCounterparty

/-! ### Init -/

/-- An active client, and a proposed version that is supported. -/
def connOpenInitValidate (msg : MsgConnectionOpenInit) : Result ContextError Unit := do
  H.validateMessageSigner msg.signer
  let clientStateOfBOnA ← s.clientState msg.clientIdOnA
  H.lightClient.confirmNotFrozen clientStateOfBOnA
  match msg.version with
  | some version => version.verifyIsSupported H.getCompatibleVersions
  | none => pure ()

/-- The versions of the new end: the proposed one if it is supported, all supported ones else. -/
def connOpenInitVersions (msg : MsgConnectionOpenInit) :
    Except ConnectionError (List ConnectionVersion) :=
  match msg.version with
  | some version => do
      version.verifyIsSupported H.getCompatibleVersions
      pure [version]
  | none => pure H.getCompatibleVersions

/-- The events come before the writes. -/
def connOpenInitExecute (msg : MsgConnectionOpenInit) : Handler CS Cons μ Unit := do
  let s ← Exec.read
  let versions ← connOpenInitVersions H msg
  let connEndOnA ← ConnectionEnd.new .init msg.clientIdOnA
    ⟨msg.counterparty.clientId, none, msg.counterparty.pfx⟩ versions msg.delayPeriod
  let connIdOnA := ConnectionId.new s.store.connection.connectionIdsCounter
  Exec.write (·.logMessage
    ("success: conn_open_init: generated new connection identifier: " ++ connIdOnA.str))
  Exec.write (·.emitIbcEvent (.message .connection))
  Exec.write (·.emitIbcEvent
    (.openInitConnection connIdOnA msg.clientIdOnA msg.counterparty.clientId))
  increaseConnectionCounter
  Exec.write (·.onConnection (·.storeConnectionToClient msg.clientIdOnA connIdOnA))
  Exec.write (·.onConnection (·.storeConnection connIdOnA connEndOnA))

/-! ### Try -/

/-- What the step computes from the message and the store. -/
structure ConnOpenTryVars where
  connIdOnB : ConnectionId
  connEndOnB : ConnectionEnd
  clientIdOnA : ClientId
  connIdOnA : ConnectionId

/-- Computed twice, by validation and by execution. -/
def ConnOpenTryVars.new (msg : MsgConnectionOpenTry) : Except ConnectionError ConnOpenTryVars := do
  let versionOnB ← ConnectionVersion.pick H.getCompatibleVersions msg.versionsOnA
  let connEndOnB ← ConnectionEnd.new .tryOpen msg.clientIdOnB msg.counterparty [versionOnB]
    msg.delayPeriod
  let connIdOnA ← msg.counterparty.requireConnectionId
  pure ⟨ConnectionId.new s.store.connection.connectionIdsCounter, connEndOnB,
    msg.counterparty.clientId, connIdOnA⟩

/-- The self client, a height this chain has reached, and the three proofs. -/
def connOpenTryValidate (msg : MsgConnectionOpenTry) : Result ContextError Unit := do
  let vars ← ConnOpenTryVars.new H s msg
  H.validateMessageSigner msg.signer
  s.env.validateSelfClient msg.clientStateOfBOnA
  verifyConsensusHeight s msg.consensusHeightOfBOnA
  let clientIdOnA := msg.counterparty.clientId
  let client ← clientForProof H s vars.connEndOnB.clientId msg.proofsHeightOnA
  let prefixOnA := vars.connEndOnB.counterparty.pfx
  let expectedConnEndOnA ← ConnectionEnd.new .init clientIdOnA
    ⟨msg.clientIdOnB, none, H.commitmentPrefix⟩ msg.versionsOnA msg.delayPeriod
  verifyConnectionMembership H .verifyConnectionState client prefixOnA msg.proofConnEndOnA
    (.connection vars.connIdOnA) expectedConnEndOnA.toRaw.encode
  verifyConnectionMembership H (.clientStateVerificationFailure msg.clientIdOnB) client prefixOnA
    msg.proofClientStateOfBOnA (.clientState clientIdOnA)
    msg.clientStateOfBOnA.encode
  let expectedConsensusStateOfBOnA ← s.env.hostConsensusState msg.consensusHeightOfBOnA
  verifyConnectionMembership H (.consensusStateVerificationFailure msg.proofsHeightOnA) client
    prefixOnA msg.proofConsensusStateOfBOnA
    (.clientConsensusState clientIdOnA msg.consensusHeightOfBOnA)
    (H.lightClient.encodeVec expectedConsensusStateOfBOnA)

/-- The new end, and the connection of its client. -/
def connOpenTryExecute (msg : MsgConnectionOpenTry) : Handler CS Cons μ Unit := do
  let s ← Exec.read
  let vars ← ConnOpenTryVars.new H s msg
  let connIdOnA ← vars.connEndOnB.counterparty.requireConnectionId
  Exec.write (·.emitIbcEvent (.message .connection))
  Exec.write (·.emitIbcEvent
    (.openTryConnection vars.connIdOnB msg.clientIdOnB connIdOnA vars.clientIdOnA))
  Exec.write (·.logMessage "success: conn_open_try verification passed")
  increaseConnectionCounter
  Exec.write (·.onConnection (·.storeConnectionToClient msg.clientIdOnB vars.connIdOnB))
  Exec.write (·.onConnection (·.storeConnection vars.connIdOnB vars.connEndOnB))

/-! ### Ack -/

/-- An end in `init`, a version of its own, and the three proofs. -/
def connOpenAckValidate (msg : MsgConnectionOpenAck) : Result ContextError Unit := do
  let connEndOnA ← s.connectionEnd msg.connIdOnA
  let clientIdOnA := connEndOnA.clientId
  let clientIdOnB := connEndOnA.counterparty.clientId
  H.validateMessageSigner msg.signer
  verifyConsensusHeight s msg.consensusHeightOfAOnB
  s.env.validateSelfClient msg.clientStateOfAOnB
  msg.version.verifyIsSupported connEndOnA.versions
  connEndOnA.verifyStateMatches .init
  let client ← clientForProof H s clientIdOnA msg.proofsHeightOnB
  let prefixOnB := connEndOnA.counterparty.pfx
  let expectedConnEndOnB ← ConnectionEnd.new .tryOpen clientIdOnB
    ⟨clientIdOnA, some msg.connIdOnA, H.commitmentPrefix⟩ [msg.version] connEndOnA.delayPeriod
  verifyConnectionMembership H .verifyConnectionState client prefixOnB msg.proofConnEndOnB
    (.connection msg.connIdOnB) expectedConnEndOnB.toRaw.encode
  verifyConnectionMembership H (.clientStateVerificationFailure clientIdOnB) client prefixOnB
    msg.proofClientStateOfAOnB (.clientState clientIdOnB)
    msg.clientStateOfAOnB.encode
  let expectedConsensusStateOfAOnB ← s.env.hostConsensusState msg.consensusHeightOfAOnB
  verifyConnectionMembership H (.consensusStateVerificationFailure msg.proofsHeightOnB) client
    prefixOnB msg.proofConsensusStateOfAOnB
    (.clientConsensusState clientIdOnB msg.consensusHeightOfAOnB)
    (H.lightClient.encodeVec expectedConsensusStateOfAOnB)

/-- The end after the acknowledgement: open, with the one version and the other side's id. -/
def ConnectionEnd.opened (e : ConnectionEnd) (version : ConnectionVersion)
    (connIdOnB : ConnectionId) : ConnectionEnd :=
  { e with
    state := .open
    versions := [version]
    counterparty := { e.counterparty with connectionId := some connIdOnB } }

/-- The end is opened. -/
def connOpenAckExecute (msg : MsgConnectionOpenAck) : Handler CS Cons μ Unit := do
  let s ← Exec.read
  let connEndOnA ← s.connectionEnd msg.connIdOnA
  Exec.write (·.emitIbcEvent (.message .connection))
  Exec.write (·.emitIbcEvent (.openAckConnection msg.connIdOnA connEndOnA.clientId msg.connIdOnB
    connEndOnA.counterparty.clientId))
  Exec.write (·.logMessage "success: conn_open_ack verification passed")
  Exec.write (·.onConnection
    (·.storeConnection msg.connIdOnA (connEndOnA.opened msg.version msg.connIdOnB)))

/-! ### Confirm -/

/-- An end in `tryOpen`, and the proof that the other one is open. -/
def connOpenConfirmValidate (msg : MsgConnectionOpenConfirm) : Result ContextError Unit := do
  let connEndOnB ← s.connectionEnd msg.connIdOnB
  H.validateMessageSigner msg.signer
  connEndOnB.verifyStateMatches .tryOpen
  let clientIdOnA := connEndOnB.counterparty.clientId
  let clientIdOnB := connEndOnB.clientId
  let connIdOnA ← connEndOnB.counterparty.requireConnectionId
  let client ← clientForProof H s clientIdOnB msg.proofHeightOnA
  let expectedConnEndOnA ← ConnectionEnd.new .open clientIdOnA
    ⟨clientIdOnB, some msg.connIdOnB, H.commitmentPrefix⟩ connEndOnB.versions
    connEndOnB.delayPeriod
  verifyConnectionMembership H .verifyConnectionState client connEndOnB.counterparty.pfx
    msg.proofConnEndOnA (.connection connIdOnA)
    expectedConnEndOnA.toRaw.encode

/-- The end is opened. -/
def connOpenConfirmExecute (msg : MsgConnectionOpenConfirm) : Handler CS Cons μ Unit := do
  let s ← Exec.read
  let connEndOnB ← s.connectionEnd msg.connIdOnB
  let connIdOnA ← connEndOnB.counterparty.requireConnectionId
  Exec.write (·.emitIbcEvent (.message .connection))
  Exec.write (·.emitIbcEvent (.openConfirmConnection msg.connIdOnB connEndOnB.clientId connIdOnA
    connEndOnB.counterparty.clientId))
  Exec.write (·.logMessage "success: conn_open_confirm verification passed")
  Exec.write (·.onConnection
    (·.storeConnection msg.connIdOnB { connEndOnB with state := .open }))

end Ibc
