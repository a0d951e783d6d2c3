import Ibc.Model.Checks

/-!
# Client handlers

Creating a client, updating it with a header, submitting misbehaviour, and upgrading it. A handler
is a pair: `validate` reads the state, `execute` writes it.
-/

namespace Ibc

variable {CS Cons μ : Type} (H : Host CS Cons μ) (s : Ctx CS Cons μ)

/-! ### Writes to the client store -/

namespace ClientStore

/-- The time of the host at which the client learnt of a height. -/
def storeUpdateTime (id : ClientId) (h : Height) (t : Timestamp) (c : ClientStore CS Cons) :
    ClientStore CS Cons :=
  { c with clientProcessedTimes := Function.update c.clientProcessedTimes (id, h) (some t) }

/-- The height of the host at which the client learnt of a height. -/
def storeUpdateHeight (id : ClientId) (h hostHeight : Height) (c : ClientStore CS Cons) :
    ClientStore CS Cons :=
  { c with
    clientProcessedHeights := Function.update c.clientProcessedHeights (id, h) (some hostHeight) }

end ClientStore

/-- The counter of clients grows by one. -/
def increaseClientCounter : Handler CS Cons μ Unit := do
  let s ← Exec.read
  let n ← (Result.addU64 s.store.client.clientIdsCounter 1 : Result ContextError ℕ)
  Exec.write (·.onClient fun c => { c with clientIdsCounter := n })

/-! ### Creating a client -/

/-- The identifier of the next client, of the type of `clientState`. -/
def newClientId (clientState : CS) : Except ClientError ClientId :=
  let clientType := H.lightClient.clientType clientState
  let counter := s.store.client.clientIdsCounter
  (ClientId.new H.library.isAlphanumeric clientType counter).mapError
    (.clientIdentifierConstructor clientType counter)

/-- Both states are of one light client, and the identifier is free. -/
def createClientValidate (msg : MsgCreateClient) : Result ContextError Unit := do
  H.validateMessageSigner msg.signer
  let clientState ← H.decodeClientState msg.clientState
  H.lightClient.verifyConsensusState clientState msg.consensusState
  let clientId ← newClientId H s clientState
  (Result.ensure (s.store.client.clients.clientState clientId = none)
    (.clientStateAlreadyExists clientId) : Except ClientError Unit)

/-- The two states, the time and height of the host, and the counter. -/
def createClientExecute (msg : MsgCreateClient) : Handler CS Cons μ Unit := do
  let s ← Exec.read
  let clientState ← H.decodeClientState msg.clientState
  let clientId ← newClientId H s clientState
  runClient (H.lightClient.initialise clientState clientId msg.consensusState)
  let latestHeight := H.lightClient.latestHeight clientState
  Exec.write (·.onClient (·.storeUpdateTime clientId latestHeight s.env.hostTimestamp))
  Exec.write (·.onClient (·.storeUpdateHeight clientId latestHeight s.env.hostHeight))
  increaseClientCounter
  Exec.write (·.emitIbcEvent (.message .client))
  Exec.write (·.emitIbcEvent
    (.createClient clientId (H.lightClient.clientType clientState) latestHeight))
  Exec.write (·.logMessage ("success: generated new client identifier: " ++ clientId.str))

/-! ### Updating a client, and misbehaviour -/

/-- A header or a misbehaviour report, as one message. -/
structure MsgUpdateOrMisbehaviour where
  clientId : ClientId
  clientMessage : Any
  signer : Signer
  updateKind : UpdateKind

/-- A header. -/
def MsgUpdateClient.toUpdate (msg : MsgUpdateClient) : MsgUpdateOrMisbehaviour :=
  ⟨msg.clientId, msg.header, msg.signer, .updateClient⟩

/-- A report of misbehaviour. -/
def MsgSubmitMisbehaviour.toUpdate (msg : MsgSubmitMisbehaviour) : MsgUpdateOrMisbehaviour :=
  ⟨msg.clientId, msg.misbehaviour, msg.signer, .submitMisbehaviour⟩

/-- The client is active and verifies the message. -/
def updateClientValidate (msg : MsgUpdateOrMisbehaviour) : Result ContextError Unit := do
  H.validateMessageSigner msg.signer
  let clientState ← s.clientState msg.clientId
  H.lightClient.confirmNotFrozen clientState
  H.lightClient.verifyClientMessage clientState s.store.client.clients s.env.hostTimestamp
    msg.clientId msg.clientMessage msg.updateKind

/-- The host's time and height, noted for each updated height. -/
def storeUpdateTimes (clientId : ClientId) (heights : List Height) (hostTimestamp : Timestamp)
    (hostHeight : Height) (c : ClientStore CS Cons) : ClientStore CS Cons :=
  heights.foldl (fun c h =>
    (c.storeUpdateTime clientId h hostTimestamp).storeUpdateHeight clientId h hostHeight) c

/-- Misbehaviour freezes the client, whichever kind the message is; a report without misbehaviour is
an error. -/
def updateClientExecute (msg : MsgUpdateOrMisbehaviour) : Handler CS Cons μ Unit := do
  let s ← Exec.read
  let clientState ← s.clientState msg.clientId
  let foundMisbehaviour ← H.lightClient.checkForMisbehaviour clientState s.store.client.clients
    msg.clientId msg.clientMessage msg.updateKind
  if foundMisbehaviour then
    runClient (H.lightClient.updateStateOnMisbehaviour clientState msg.clientId msg.clientMessage
      msg.updateKind)
    Exec.write (·.emitIbcEvent (.message .client))
    Exec.write (·.emitIbcEvent
      (.clientMisbehaviour msg.clientId (H.lightClient.clientType clientState)))
  else
    (Result.ensure (msg.updateKind = .updateClient) (.misbehaviourHandlingFailure
      "misbehaviour submitted, but none found") : Except ClientError Unit)
    let consensusHeights ← runClient
      (H.lightClient.updateState clientState msg.clientId msg.clientMessage)
    Exec.write (·.onClient
      (storeUpdateTimes msg.clientId consensusHeights s.env.hostTimestamp s.env.hostHeight))
    let consensusHeight ← (Result.okOr consensusHeights.head? (.other
      "client update state returned no updated height") : Except ClientError Height)
    Exec.write (·.emitIbcEvent (.message .client))
    Exec.write (·.emitIbcEvent (.updateClient msg.clientId (H.lightClient.clientType clientState)
      consensusHeight consensusHeights msg.clientMessage.value))

/-! ### Upgrading a client -/

/-- The client is active, its latest state is in the trusting period, and the upgrade verifies. -/
def upgradeClientValidate (msg : MsgUpgradeClient) : Result ContextError Unit := do
  H.validateMessageSigner msg.signer
  let oldClientState ← s.clientState msg.clientId
  H.lightClient.confirmNotFrozen oldClientState
  let latestHeight := H.lightClient.latestHeight oldClientState
  let oldConsensusState ← s.consensusState msg.clientId latestHeight
  let oldTimestamp := H.lightClient.timestamp oldConsensusState
  let now := s.env.hostTimestamp
  let duration ← (Result.okOr (now.durationSince oldTimestamp)
    (.invalidConsensusStateTimestamp oldTimestamp now) : Except ClientError Duration)
  (Result.ensure (H.lightClient.expired oldClientState duration = false)
    (.headerNotWithinTrustPeriod oldTimestamp now) : Except ClientError Unit)
  H.lightClient.verifyUpgradeClient oldClientState msg.upgradedClientState
    msg.upgradedConsensusState msg.proofUpgradeClient msg.proofUpgradeConsensusState
    (H.lightClient.root oldConsensusState)

/-- The upgraded states. The time and height of the host are not noted. -/
def upgradeClientExecute (msg : MsgUpgradeClient) : Handler CS Cons μ Unit := do
  let s ← Exec.read
  let oldClientState ← s.clientState msg.clientId
  let latestHeight ← runClient (H.lightClient.updateStateOnUpgrade oldClientState msg.clientId
    msg.upgradedClientState msg.upgradedConsensusState)
  Exec.write (·.emitIbcEvent (.message .client))
  Exec.write (·.emitIbcEvent
    (.upgradeClient msg.clientId (H.lightClient.clientType oldClientState) latestHeight))

end Ibc
