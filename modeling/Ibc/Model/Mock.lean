import Ibc.Model.ClientHandler

/-!
# The mock client and the mock host

The repository's stand-in light client, which accepts every proof, its dummy application module,
which answers every packet with one byte, and the host that carries them. Concrete runs of the core
are runs of this host.

Decoding a client message is a parameter (`MockCodec`); `MockCodec.ofHeaders` decodes the messages
made of known headers.
-/

namespace Ibc

open Proto

/-! ### Mock messages -/

/-- A block of the mock chain. -/
structure MockHeader where
  height : Height
  timestamp : Timestamp
deriving DecidableEq

/-- The latest header, and the height the client is frozen at. -/
structure MockClientState where
  header : MockHeader
  frozenHeight : Option Height
deriving DecidableEq

/-- A header, with a root that is never looked at. -/
structure MockConsensusState where
  header : MockHeader
  root : CommitmentRoot
deriving DecidableEq

/-- A chain all of whose clients are mock clients. -/
abbrev MockCtx (μ : Type) := Ctx MockClientState MockConsensusState μ

/-- The client at a header. -/
def MockClientState.new (header : MockHeader) : MockClientState := ⟨header, none⟩

/-- The root is one zero byte. -/
def MockConsensusState.new (header : MockHeader) : MockConsensusState := ⟨header, ⟨[0]⟩⟩

/-- The decoders of the mock messages: a header, a client state and a consensus state (each a
header), and a misbehaviour (two headers). The header of a client state may be missing. -/
structure MockCodec where
  header : Bytes → Except ClientError MockHeader
  clientState : Bytes → Except ClientError (Option MockHeader)
  consensusState : Bytes → Except ClientError MockHeader
  misbehaviour : Bytes → Except ClientError (MockHeader × MockHeader)

namespace MockCodec

variable (codec : MockCodec)

/-- The type is checked first. -/
def headerOf (any : Any) : Except ClientError MockHeader :=
  if any.typeUrl = "/ibc.mock.Header" then codec.header any.value
  else .error (.unknownHeaderType any.typeUrl)

/-- A client state without its header panics, where a consensus state or a misbehaviour fails. -/
def clientStateOf (any : Any) : Result ClientError MockClientState :=
  if any.typeUrl = "/ibc.mock.ClientState" then do
    let header ← Result.ofExcept (·) (codec.clientState any.value)
    pure (.new (← Result.expect header))
  else .error (.err (.unknownClientStateType any.typeUrl))

/-- The client state of the mock host. Whatever the error, the type is not known. -/
def decodeClientState (any : Any) : Result ContextError MockClientState :=
  Result.mapErr (fun _ => .clientError (.unknownClientStateType any.typeUrl))
    (codec.clientStateOf any)

/-- The type is checked first. -/
def consensusStateOf (any : Any) : Except ClientError MockConsensusState :=
  if any.typeUrl = "/ibc.mock.ConsensusState" then (codec.consensusState any.value).map .new
  else .error (.unknownConsensusStateType any.typeUrl)

/-- The type is checked first. -/
def misbehaviourOf (any : Any) : Except ClientError (MockHeader × MockHeader) :=
  if any.typeUrl = "/ibc.mock.Misbehavior" then codec.misbehaviour any.value
  else .error (.unknownMisbehaviourType any.typeUrl)

end MockCodec

/-- The wire form of a header. Its timestamp is taken to be after the epoch. -/
def MockHeader.encode (h : MockHeader) : Bytes :=
  messageField 0x0a (varintField 0x08 h.height.revisionNumber ++
    varintField 0x10 h.height.revisionHeight) ++
    varintField 0x10 ((h.timestamp.time.map fun t => t.unixNanos.toNat).getD 0)

/-- A client state or consensus state on the wire: a message with the header in it. -/
def MockHeader.encodeWrapped (h : MockHeader) : Bytes := messageField 0x0a h.encode

/-- The encoding, with its type. -/
def MockConsensusState.encodeVec (c : MockConsensusState) : Bytes :=
  Any.encode ⟨"/ibc.mock.ConsensusState", c.header.encodeWrapped⟩

/-- The decoders, on messages made of these headers. -/
def MockCodec.ofHeaders (headers : List MockHeader) : MockCodec where
  header b := Result.okOr (headers.find? fun h => h.encode = b) .decode
  clientState b :=
    if b = [] then .ok none
    else (Result.okOr (headers.find? fun h => h.encodeWrapped = b) .decode).map some
  consensusState b := Result.okOr (headers.find? fun h => h.encodeWrapped = b) .decode
  misbehaviour b := Result.okOr ((headers.product headers).find? fun hh =>
    messageField 0x12 hh.1.encode ++ messageField 0x1a hh.2.encode = b) .decode

/-! ### The mock light client -/

namespace MockClientState

variable (codec : MockCodec)

/-- The height of the header. -/
def latestHeight (cs : MockClientState) : Height := cs.header.height

/-- No height is frozen. -/
def confirmNotFrozen (cs : MockClientState) : Except ClientError Unit :=
  match cs.frozenHeight with
  | some h => .error (.clientFrozen ("The client is frozen at height " ++ h.toText))
  | none => .ok ()

/-- The client has reached the height. -/
def validateProofHeight (cs : MockClientState) (h : Height) : Except ClientError Unit :=
  Result.ensure (¬ cs.latestHeight < h) (.invalidProofHeight cs.latestHeight h)

/-- Both states decode, and the height grows. -/
def verifyUpgradeClient (cs : MockClientState) (clientState consensusState : Any) :
    Result ClientError Unit := do
  let upgraded ← codec.clientStateOf clientState
  let _ ← Result.ofExcept (·) (codec.consensusStateOf consensusState)
  Result.require (¬ upgraded.latestHeight ≤ cs.latestHeight)
    (.upgrade (.lowUpgradeHeight cs.latestHeight upgraded.latestHeight))

/-- A header is above the latest one; of a report only the form is checked. -/
def verifyClientMessage (cs : MockClientState) (msg : Any) : UpdateKind → Except ClientError Unit
  | .updateClient => do
      let header ← codec.headerOf msg
      Result.ensure (¬ header.height ≤ cs.latestHeight)
        (.lowHeaderHeight header.height cs.latestHeight)
  | .submitMisbehaviour => do
      let _ ← codec.misbehaviourOf msg
      pure ()

/-- Two headers of one height above the latest one. A header is never misbehaviour. -/
def checkForMisbehaviour (cs : MockClientState) (msg : Any) :
    UpdateKind → Except ClientError Bool
  | .updateClient => .ok false
  | .submitMisbehaviour => do
      let (header1, header2) ← codec.misbehaviourOf msg
      pure (decide (header1.height = header2.height) && decide (cs.latestHeight < header1.height))

/-- The client records as this client writes them. -/
abbrev Records := Clients MockClientState MockConsensusState

/-- Both states of the new client. -/
def initialise (cs : MockClientState) (id : ClientId) (consensusState : Any) :
    Exec Records ClientError Unit := do
  let cons ← Exec.ofExcept (codec.consensusStateOf consensusState)
  Exec.write (·.storeClientState id cs)
  Exec.write (·.storeConsensusState id cs.latestHeight cons)

/-- The header becomes the client state and a consensus state. -/
def updateState (id : ClientId) (msg : Any) : Exec Records ClientError (List Height) := do
  let header ← Exec.ofExcept (codec.headerOf msg)
  Exec.write (·.storeConsensusState id header.height (.new header))
  Exec.write (·.storeClientState id (.new header))
  pure [header.height]

/-- Frozen at height one. -/
def updateStateOnMisbehaviour (cs : MockClientState) (id : ClientId) :
    Exec Records ClientError Unit :=
  Exec.write (·.storeClientState id { cs with frozenHeight := some (Height.min 0) })

/-- Both upgraded states. -/
def updateStateOnUpgrade (id : ClientId) (clientState consensusState : Any) :
    Exec Records ClientError Height := do
  let cs ← Exec.ofResult (codec.clientStateOf clientState)
  let cons ← Exec.ofExcept (codec.consensusStateOf consensusState)
  Exec.write (·.storeConsensusState id cs.latestHeight cons)
  Exec.write (·.storeClientState id cs)
  pure cs.latestHeight

end MockClientState

/-- The mock light client. It accepts every proof. -/
def mockClient (codec : MockCodec) : LightClient MockClientState MockConsensusState where
  verifyConsensusState _ cons := Result.ofExcept id ((codec.consensusStateOf cons).map fun _ => ())
  clientType _ := ⟨"9999-mock"⟩
  latestHeight := MockClientState.latestHeight
  validateProofHeight cs h := Result.ofExcept id (cs.validateProofHeight h)
  confirmNotFrozen cs := Result.ofExcept id cs.confirmNotFrozen
  expired _ _ := false
  verifyUpgradeClient cs clientState cons _ _ _ := cs.verifyUpgradeClient codec clientState cons
  verifyMembership _ _ _ _ _ _ := .ok ()
  verifyNonMembership _ _ _ _ _ := .ok ()
  verifyClientMessage cs _ _ _ msg kind :=
    Result.ofExcept id (cs.verifyClientMessage codec msg kind)
  checkForMisbehaviour cs _ _ msg kind :=
    Result.ofExcept id (cs.checkForMisbehaviour codec msg kind)
  initialise := MockClientState.initialise codec
  updateState _ := MockClientState.updateState codec
  updateStateOnMisbehaviour cs id _ _ := cs.updateStateOnMisbehaviour id
  updateStateOnUpgrade _ := MockClientState.updateStateOnUpgrade codec
  root := MockConsensusState.root
  timestamp c := c.header.timestamp
  encodeVec := MockConsensusState.encodeVec

/-! ### The dummy module and the mock host -/

/-- The one byte the module below answers a packet with. -/
def dummyAcknowledgement : Acknowledgement := ⟨[1], List.cons_ne_nil _ _⟩

/-- The module that agrees to everything. -/
def dummyTransferModule {St μ : Type} : Module St μ where
  onChanOpenInitValidate _ _ _ _ _ _ _ version := .ok version
  onChanOpenInitExecute _ _ _ _ _ version := fun st a => (.ok (.empty, version), st, a)
  onChanOpenTryValidate _ _ _ _ _ _ _ version := .ok version
  onChanOpenTryExecute _ _ _ _ _ version := fun st a => (.ok (.empty, version), st, a)
  onRecvPacketExecute _ _ := fun st a => ((.empty, dummyAcknowledgement), st, a)
  onAcknowledgementPacketValidate _ _ _ _ _ := .ok ()
  onAcknowledgementPacketExecute _ _ _ := fun st a => ((.empty, .ok ()), st, a)
  onTimeoutPacketValidate _ _ _ _ := .ok ()
  onTimeoutPacketExecute _ _ := fun st a => ((.empty, .ok ()), st, a)

/-- The mock host with the dummy module on the transfer port and blocks `blockTime` apart. -/
def mockHost (codec : MockCodec) (library : Library) (blockTime : Duration) :
    Host MockClientState MockConsensusState Unit where
  library := library
  lightClient := mockClient codec
  getRoute id := if id = ⟨"transfer"⟩ then some dummyTransferModule else none
  lookupModuleByPort port := if port = .transfer then some ⟨"transfer"⟩ else none
  decodeClientState := codec.decodeClientState
  validateMessageSigner _ := .ok ()
  commitmentPrefix := ⟨utf8 "mock"⟩
  blockDelay delay := calculateBlockDelay delay blockTime

/-- The mock chain at a height, with a clock and the headers of its own blocks. Its check of a
client of this chain fails where the source panics: on a client state without a header. -/
def mockEnv (codec : MockCodec) (revision : ℕ) (latest : Height) (now : Timestamp)
    (blocks : List MockHeader) : HostEnv MockConsensusState where
  hostHeight := latest
  hostTimestamp := now
  hostConsensusState h := Result.okOr ((blocks.find? fun b => b.height = h).map .new)
    (.connectionError (.client (.missingLocalConsensusState h)))
  validateSelfClient any := do
    let cs ← (codec.clientStateOf any).mapError fun _ =>
      ContextError.connectionError (.invalidClientState "client must be a mock client")
    cs.confirmNotFrozen.mapError .clientError
    Result.ensure (revision = cs.latestHeight.revisionNumber)
      (.connectionError (.invalidClientState
        ("client is not in the same revision as the chain. expected: " ++ toString revision ++
          ", got: " ++ toString cs.latestHeight.revisionNumber)))
    let current : Height := ⟨latest.revisionNumber, latest.revisionHeight + 1⟩
    Result.ensure (¬ current ≤ cs.latestHeight)
      (.connectionError (.invalidClientState ("client has latest height " ++
        cs.latestHeight.toText ++ " greater than or equal to chain height " ++ current.toText)))

end Ibc
