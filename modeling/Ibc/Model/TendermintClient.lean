import Ibc.Model.Tendermint

/-!
# The Tendermint light client

The client state and its operations: the checks on a header and on a misbehaviour report against the
stored consensus states, and what each message writes to the client's records. `tmClient` is the
light client made of them.
-/

namespace Ibc

open Proto

/-! ### The client state -/

/-- The longest chain id the Tendermint library takes. -/
def maxChainIdLen : ℕ := 50

namespace TmClientState

variable (lib : TmLibrary)

/-- The first key of the upgrade path that is blank, with its index. -/
def blankUpgradeKey (path : List String) : Option ℕ := path.findIdx? fun key => trim key = ""

/-- The parameters make sense: periods, trust level, height, proof specs and upgrade path. -/
def validate (cs : TmClientState) : Result TmError Unit := do
  (cs.chainId.validateLength lib.isAlphanumeric 3 maxChainIdLen).mapErr .invalidIdentifier
  Result.require (cs.trustLevel ≠ .zero)
    (.invalidTrustThreshold "ClientState trust-level cannot be zero")
  Result.ofExcept .invalidTendermintTrustThreshold (lib.checkTrustThreshold cs.trustLevel)
  Result.require (0 < cs.trustingPeriod) (.invalidTrustThreshold
    ("ClientState trusting period (" ++ lib.debugDuration cs.trustingPeriod ++
      ") must be greater than zero"))
  Result.require (0 < cs.unbondingPeriod) (.invalidTrustThreshold
    ("ClientState unbonding period (" ++ lib.debugDuration cs.unbondingPeriod ++
      ") must be greater than zero"))
  Result.require (cs.trustingPeriod < cs.unbondingPeriod) (.invalidTrustThreshold
    ("ClientState trusting period (" ++ lib.debugDuration cs.trustingPeriod ++
      ") must be smaller than unbonding period (" ++ lib.debugDuration cs.unbondingPeriod ++ ")"))
  Result.require (0 < cs.maxClockDrift)
    (.invalidMaxClockDrift "ClientState max-clock-drift must be greater than zero")
  Result.require (cs.latestHeight.revisionNumber = cs.chainId.revisionNumber)
    (.invalidLatestHeight "ClientState latest-height revision number must match chain-id version")
  Result.require (cs.proofSpecs ≠ []) (.validation "ClientState proof-specs cannot be empty")
  match blankUpgradeKey cs.upgradePath with
  | none => pure ()
  | some i => .error (.err (.validation
      ("ClientState upgrade-path key at index " ++ toString i ++ " cannot be empty")))

/-- A valid client that is not frozen. -/
def new (cs : TmClientState) : Result TmError TmClientState := do
  let cs := { cs with frozenHeight := none }
  cs.validate lib
  pure cs

/-- The client state after a header at `height`. -/
def withHeader (cs : TmClientState) (height : Height) : TmClientState :=
  { cs with latestHeight := max height cs.latestHeight }

/-- The client, frozen. -/
def withFrozenHeight (cs : TmClientState) (h : Height) : TmClientState :=
  { cs with frozenHeight := some h }

/-- The fields that each client chooses for itself are taken out. -/
def zeroCustomFields (cs : TmClientState) : TmClientState :=
  { cs with
    trustingPeriod := 0
    trustLevel := .zero
    allowUpdate := ⟨false, false⟩
    frozenHeight := none
    maxClockDrift := 0 }

/-- What the verifier is told of the client. -/
def asLightClientOptions (cs : TmClientState) : Except TmError TmOptions :=
  match lib.checkTrustThreshold cs.trustLevel with
  | .ok () => .ok ⟨cs.trustLevel, cs.trustingPeriod, cs.maxClockDrift⟩
  | .error _ => .error (.invalidTrustThreshold
      ("failed to build Tendermint domain type trust threshold from fraction: `" ++
        toString cs.trustLevel.numerator ++ "`/`" ++ toString cs.trustLevel.denominator ++ "`"))

/-- A consensus state with a root. -/
def verifyConsensusState (cons : Any) : Except ClientError Unit := do
  let cons ← lib.consensusStateOf cons
  Result.ensure (cons.root.bytes ≠ []) (.other "empty commitment root")

/-- The client has reached the height. -/
def validateProofHeight (cs : TmClientState) (h : Height) : Except ClientError Unit :=
  Result.ensure (¬ cs.latestHeight < h) (.invalidProofHeight cs.latestHeight h)

/-- No height is frozen. -/
def confirmNotFrozen (cs : TmClientState) : Except ClientError Unit :=
  match cs.frozenHeight with
  | some h => .error (.clientFrozen ("the client is frozen at height " ++ h.toText))
  | none => .ok ()

/-- The trusting period is over. -/
def expired (cs : TmClientState) (elapsed : Duration) : Bool := decide (cs.trustingPeriod < elapsed)

/-- The value is in the store of the other chain, under the prefix. -/
def verifyMembership (cs : TmClientState) (pfx : CommitmentPrefix) (proof : CommitmentProofBytes)
    (root : CommitmentRoot) (path : Path) (value : Bytes) : Except ClientError Unit := do
  let merklePath := applyPrefix pfx [path.toText]
  let merkleProof ← (lib.decodeProof proof).mapError .invalidCommitmentProof
  (merkleProof.verifyMembership lib.ics23 cs.proofSpecs root.bytes merklePath value 0).mapError
    .ics23Verification

/-- There is no value in the store of the other chain. -/
def verifyNonMembership (cs : TmClientState) (pfx : CommitmentPrefix)
    (proof : CommitmentProofBytes) (root : CommitmentRoot) (path : Path) :
    Except ClientError Unit := do
  let merklePath := applyPrefix pfx [path.toText]
  let merkleProof ← (lib.decodeProof proof).mapError .invalidCommitmentProof
  (merkleProof.verifyNonMembership lib.ics23 cs.proofSpecs root.bytes merklePath).mapError
    .ics23Verification

section Lemmas

variable {lib : TmLibrary} {cs : TmClientState} {pfx : CommitmentPrefix}
  {proof : CommitmentProofBytes} {root : CommitmentRoot} {path : Path} {value : Bytes}

theorem verifyMembership_ok_iff :
    cs.verifyMembership lib pfx proof root path value = .ok () ↔
      ∃ m, lib.decodeProof proof = .ok m ∧ m.verifyMembership lib.ics23 cs.proofSpecs root.bytes
        (applyPrefix pfx [path.toText]) value 0 = .ok () := by
  simp only [verifyMembership, Result.bind_eq_ok, Result.mapError_eq_ok]

theorem verifyNonMembership_ok_iff :
    cs.verifyNonMembership lib pfx proof root path = .ok () ↔
      ∃ m, lib.decodeProof proof = .ok m ∧ m.verifyNonMembership lib.ics23 cs.proofSpecs root.bytes
        (applyPrefix pfx [path.toText]) = .ok () := by
  simp only [verifyNonMembership, Result.bind_eq_ok, Result.mapError_eq_ok]

end Lemmas

/-- The upgraded client and consensus state are proved under the first key of the upgrade path,
with its last key taken off. A path of one key panics. -/
def verifyUpgradeClient (cs : TmClientState) (clientState consensusState : Any)
    (proofClient proofConsensus : CommitmentProofBytes) (root : CommitmentRoot) :
    Result ClientError Unit := do
  let upgraded ← Result.ofExcept (·) (lib.clientStateOf clientState)
  let _ ← Result.ofExcept (·) (lib.consensusStateOf consensusState)
  Result.require (¬ upgraded.latestHeight ≤ cs.latestHeight)
    (.upgrade (.lowUpgradeHeight cs.latestHeight upgraded.latestHeight))
  Result.require (cs.upgradePath ≠ [])
    (.clientSpecific "cannot upgrade client as no upgrade path has been set")
  let key ← Result.index cs.upgradePath.dropLast 0
  let pfx : CommitmentPrefix := ⟨utf8 key⟩
  Result.require (pfx.bytes ≠ []) (.invalidCommitmentProof .emptyCommitmentPrefix)
  let lastHeight := cs.latestHeight.revisionHeight
  Result.ofExcept (·) (cs.verifyMembership lib pfx proofClient root
    (.upgradedClientState lastHeight) clientState.encode)
  Result.ofExcept (·) (cs.verifyMembership lib pfx proofConsensus root
    (.upgradedClientConsensusState lastHeight) consensusState.encode)

/-! ### Checking headers -/

/-- The client records this client reads and writes. -/
abbrev Records := Clients TmClientState TmConsensusState

/-- The consensus state a header is checked against. -/
def trustedConsensusState (clients : Records) (clientId : ClientId) (header : TmHeader) :
    Except ClientError TmConsensusState :=
  Result.okOr (clients.consensusState clientId header.trustedHeight)
    (.consensusStateNotFound clientId header.trustedHeight)

/-- The chain id as the Tendermint library takes it. -/
def tmChainId (cs : TmClientState) : Except ClientError Unit :=
  (lib.checkChainId cs.chainId.id).mapError fun e => .other ("failed to parse chain id: " ++ e)

/-- The header is checked against the consensus state at its trusted height. -/
def verifyHeader (cs : TmClientState) (clients : Records) (hostTimestamp : Timestamp)
    (clientId : ClientId) (header : TmHeader) : Result ClientError Unit := do
  (header.validateBasic lib).mapErr (TmError.toClient lib)
  (header.verifyChainIdVersionMatchesHeight lib cs.chainId).mapErr (TmError.toClient lib)
  let trusted ← Result.ofExcept (·) (trustedConsensusState clients clientId header)
  Result.ofExcept (·) (checkHeaderTrustedNextValidatorSet lib header trusted)
  Result.ofExcept (·) (cs.tmChainId lib)
  let trustedState ← Result.ofExcept (TmError.toClient lib)
    (header.asTrustedBlockState trusted cs.chainId.id)
  let options ← Result.ofExcept (TmError.toClient lib) (cs.asLightClientOptions lib)
  let now ← Result.ofExcept (·) (Result.okOr hostTimestamp.time
    (.clientSpecific "host timestamp is not a valid TM timestamp"))
  Result.ofExcept (TmError.toClient lib) (lib.verifyUpdateHeader header.asUntrustedBlockState
    trustedState options now).intoResult

/-- One header of a report, in the trusting period of its trusted state. -/
def verifyMisbehaviourHeader (cs : TmClientState) (header : TmHeader) (trusted : TmConsensusState)
    (hostTimestamp : Timestamp) : Result ClientError Unit := do
  Result.ofExcept (·) (checkHeaderTrustedNextValidatorSet lib header trusted)
  let elapsed ← Result.ofExcept (·) (Result.okOr
    (hostTimestamp.durationSince trusted.toTimestamp)
    (.invalidConsensusStateTimestamp trusted.toTimestamp hostTimestamp))
  Result.require (elapsed < cs.trustingPeriod)
    (.clientSpecific
      ((TmError.consensusStateTimestampGteTrustingPeriod elapsed cs.trustingPeriod).toText lib))
  Result.ofExcept (·) (cs.tmChainId lib)
  let trustedState ← Result.ofExcept (TmError.toClient lib)
    (header.asTrustedBlockState trusted cs.chainId.id)
  let options ← Result.ofExcept (TmError.toClient lib) (cs.asLightClientOptions lib)
  let now ← Result.ofExcept (·) (Result.okOr hostTimestamp.time
    (.other "host timestamp must not be zero"))
  Result.ofExcept (TmError.toClient lib) (lib.verifyMisbehaviourHeader header.asUntrustedBlockState
    trustedState options now).intoResult

/-- Both headers of a report. -/
def verifyMisbehaviour (cs : TmClientState) (clients : Records) (hostTimestamp : Timestamp)
    (clientId : ClientId) (m : TmMisbehaviour) : Result ClientError Unit := do
  (m.validateBasic lib).mapErr (TmError.toClient lib)
  let trusted1 ← Result.ofExcept (·) (trustedConsensusState clients clientId m.header1)
  let trusted2 ← Result.ofExcept (·) (trustedConsensusState clients clientId m.header2)
  cs.verifyMisbehaviourHeader lib m.header1 trusted1 hostTimestamp
  cs.verifyMisbehaviourHeader lib m.header2 trusted2 hostTimestamp

/-- A header or a report. -/
def verifyClientMessage (cs : TmClientState) (clients : Records) (hostTimestamp : Timestamp)
    (clientId : ClientId) (msg : Any) : UpdateKind → Result ClientError Unit
  | .updateClient => do
      let header ← Result.ofExcept (·) (lib.headerOf msg)
      cs.verifyHeader lib clients hostTimestamp clientId header
  | .submitMisbehaviour => do
      let m ← Result.ofExcept (·) (lib.misbehaviourOf msg)
      cs.verifyMisbehaviour lib clients hostTimestamp clientId m

/-! ### Finding misbehaviour -/

/-- A header contradicts the consensus state stored at its height, or the time of a stored
neighbour. -/
def checkForMisbehaviourUpdateClient (cs : TmClientState) (clients : Records) (clientId : ClientId)
    (header : TmHeader) : Result ClientError Bool := do
  let height ← header.height lib
  match clients.consensusState clientId height with
  | some existing => pure (decide (existing ≠ .ofHeader header))
  | none =>
      let prev ← Result.ofExcept (·) (clients.prevConsensusState clientId height)
      if prev.any fun c => decide (header.time ≤ c.timestamp) then
        pure true
      else if height < cs.latestHeight then
        let next ← Result.ofExcept (·) (clients.nextConsensusState clientId height)
        pure (next.any fun c => decide (c.timestamp ≤ header.time))
      else
        pure false

/-- Two blocks at one height, or a time that does not grow with the height. -/
def checkForMisbehaviourMisbehavior (m : TmMisbehaviour) : Result ClientError Bool := do
  let height1 ← m.header1.height lib
  let height2 ← m.header2.height lib
  if height1 = height2 then
    pure (decide (m.header1.signedHeader.blockHash ≠ m.header2.signedHeader.blockHash))
  else
    pure (decide (m.header1.time ≤ m.header2.time))

/-- In a header or in a report. -/
def checkForMisbehaviour (cs : TmClientState) (clients : Records) (clientId : ClientId)
    (msg : Any) : UpdateKind → Result ClientError Bool
  | .updateClient => do
      let header ← Result.ofExcept (·) (lib.headerOf msg)
      cs.checkForMisbehaviourUpdateClient lib clients clientId header
  | .submitMisbehaviour => do
      let m ← Result.ofExcept (·) (lib.misbehaviourOf msg)
      checkForMisbehaviourMisbehavior lib m

/-! ### Writing the client's records -/

/-- Both states of the new client. -/
def initialise (cs : TmClientState) (id : ClientId) (consensusState : Any) :
    Exec Records ClientError Unit := do
  let cons ← Exec.ofExcept (lib.consensusStateOf consensusState)
  Exec.write (·.storeClientState id cs)
  Exec.write (·.storeConsensusState id cs.latestHeight cons)

/-- A header at a height that has a consensus state changes nothing. Otherwise its consensus state
is stored at the latest height of the *new* client state. -/
def updateState (cs : TmClientState) (id : ClientId) (msg : Any) :
    Exec Records ClientError (List Height) := do
  let header ← Exec.ofExcept (lib.headerOf msg)
  let headerHeight ← (header.height lib : Result ClientError Height)
  let clients ← Exec.read
  if clients.consensusState id headerHeight ≠ none then
    pure [headerHeight]
  else
    let newClientState := cs.withHeader headerHeight
    Exec.write (·.storeConsensusState id newClientState.latestHeight (.ofHeader header))
    Exec.write (·.storeClientState id newClientState)
    pure [headerHeight]

/-- Frozen at height one. -/
def updateStateOnMisbehaviour (cs : TmClientState) (id : ClientId) :
    Exec Records ClientError Unit :=
  Exec.write (·.storeClientState id (cs.withFrozenHeight (Height.min 0)))

/-- The root of the consensus state of an upgraded client. No proof verifies against it. -/
def sentinelRoot : CommitmentRoot := ⟨utf8 "sentinel_root"⟩

/-- The chain's own parameters come from the upgraded client, the others from this one. -/
def updateStateOnUpgrade (cs : TmClientState) (id : ClientId) (clientState consensusState : Any) :
    Exec Records ClientError Height := do
  let upgraded ← Exec.ofExcept (lib.clientStateOf clientState)
  let cons ← Exec.ofExcept (lib.consensusStateOf consensusState)
  let upgraded := upgraded.zeroCustomFields
  let newClientState ← ((TmClientState.new lib { upgraded with
    trustLevel := cs.trustLevel
    trustingPeriod := cs.trustingPeriod
    maxClockDrift := cs.maxClockDrift
    allowUpdate := cs.allowUpdate }).mapErr (TmError.toClient lib) :
      Result ClientError TmClientState)
  let latestHeight := newClientState.latestHeight
  Exec.write (·.storeClientState id newClientState)
  Exec.write (·.storeConsensusState id latestHeight { cons with root := sentinelRoot })
  pure latestHeight

end TmClientState

/-- The Tendermint light client. -/
def tmClient (lib : TmLibrary) : LightClient TmClientState TmConsensusState where
  verifyConsensusState _ cons := Result.ofExcept (·) (TmClientState.verifyConsensusState lib cons)
  clientType _ := ⟨"07-tendermint"⟩
  latestHeight := TmClientState.latestHeight
  validateProofHeight cs h := Result.ofExcept (·) (cs.validateProofHeight h)
  confirmNotFrozen cs := Result.ofExcept (·) cs.confirmNotFrozen
  expired := TmClientState.expired
  verifyUpgradeClient := TmClientState.verifyUpgradeClient lib
  verifyMembership := TmClientState.verifyMembership lib
  verifyNonMembership := TmClientState.verifyNonMembership lib
  verifyClientMessage := TmClientState.verifyClientMessage lib
  checkForMisbehaviour := TmClientState.checkForMisbehaviour lib
  initialise := TmClientState.initialise lib
  updateState := TmClientState.updateState lib
  updateStateOnMisbehaviour cs id _ _ := cs.updateStateOnMisbehaviour id
  updateStateOnUpgrade := TmClientState.updateStateOnUpgrade lib
  root := TmConsensusState.root
  timestamp := TmConsensusState.toTimestamp
  encodeVec := TmConsensusState.encodeVec

end Ibc
