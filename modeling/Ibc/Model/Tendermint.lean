import Ibc.Model.ClientHandler
import Ibc.Model.Merkle
import Ibc.Support.Hex

/-!
# Tendermint headers and states

The client state, the consensus state and the messages of the Tendermint client, with the checks a
header passes on its own.

What comes from other libraries is collected in `TmLibrary`: the verifier that checks signatures and
voting power, the hash of a validator set, Merkle proofs, and the decoders of the messages. A header
keeps the fields the client reads; what only the verifier reads stays in wire form (`rest`).
-/

namespace Ibc

open Proto

/-! ### Data -/

/-- A hash; no bytes stand for a missing one. -/
abbrev Hash := Bytes

/-- A validator set, in wire form. -/
structure ValidatorSet where
  bytes : Bytes
deriving DecidableEq

/-- A block header. -/
structure TmBlockHeader where
  chainId : String
  height : ℕ
  time : Time
  validatorsHash : Hash
  nextValidatorsHash : Hash
  appHash : Bytes
  rest : Bytes
deriving DecidableEq

/-- A block header with its commit, of which the client reads the block hash. -/
structure SignedHeader where
  header : TmBlockHeader
  blockHash : Hash
  rest : Bytes
deriving DecidableEq

/-- A header a relayer submits, with the validator sets needed to check it. -/
structure TmHeader where
  signedHeader : SignedHeader
  validatorSet : ValidatorSet
  trustedHeight : Height
  trustedNextValidatorSet : ValidatorSet
deriving DecidableEq

/-- A report of two headers that contradict each other. -/
structure TmMisbehaviour where
  clientId : ClientId
  header1 : TmHeader
  header2 : TmHeader
deriving DecidableEq

/-- What the client keeps of a block. -/
structure TmConsensusState where
  timestamp : Time
  root : CommitmentRoot
  nextValidatorsHash : Hash
deriving DecidableEq

/-- The part of the trusted validators that has to have signed. -/
structure TrustThreshold where
  numerator : ℕ
  denominator : ℕ
deriving DecidableEq

/-- The threshold of a client state without custom fields. -/
def TrustThreshold.zero : TrustThreshold := ⟨0, 0⟩

/-- Whether a client may be updated after it expired or was frozen. -/
structure AllowUpdate where
  afterExpiry : Bool
  afterMisbehaviour : Bool
deriving DecidableEq

/-- The client state. A proof spec is kept in wire form. -/
structure TmClientState where
  chainId : ChainId
  trustLevel : TrustThreshold
  trustingPeriod : Duration
  unbondingPeriod : Duration
  maxClockDrift : Duration
  latestHeight : Height
  proofSpecs : List ProofSpec
  upgradePath : List String
  allowUpdate : AllowUpdate
  frozenHeight : Option Height
deriving DecidableEq

/-- A chain all of whose clients are Tendermint clients. -/
abbrev TmCtx (μ : Type) := Ctx TmClientState TmConsensusState μ

/-- A host of Tendermint clients. -/
abbrev TmHost (μ : Type) := Host TmClientState TmConsensusState μ

/-- The wire form of a client state. A duration is its nanoseconds, a height its two numbers. -/
structure RawTmClientState where
  chainId : String
  trustLevel : Option TrustThreshold
  trustingPeriod : Option ℤ
  unbondingPeriod : Option ℤ
  maxClockDrift : Option ℤ
  frozenHeight : Option (ℕ × ℕ)
  latestHeight : Option (ℕ × ℕ)
  proofSpecs : List ProofSpec
  upgradePath : List String
  allowUpdateAfterExpiry : Bool
  allowUpdateAfterMisbehaviour : Bool
deriving DecidableEq

/-- The consensus state a block header stands for. -/
def TmConsensusState.ofBlockHeader (h : TmBlockHeader) : TmConsensusState :=
  ⟨h.time, ⟨h.appHash⟩, h.nextValidatorsHash⟩

/-- The consensus state of a submitted header. -/
def TmConsensusState.ofHeader (h : TmHeader) : TmConsensusState :=
  .ofBlockHeader h.signedHeader.header

/-- The time of the block. -/
def TmConsensusState.toTimestamp (c : TmConsensusState) : Timestamp := ⟨some c.timestamp⟩

/-! ### Errors -/

/-- The errors of the Tendermint client. -/
inductive TmError where
  | invalidIdentifier (e : IdentifierError)
  | invalidTrustThreshold (reason : String)
  | invalidTendermintTrustThreshold (reason : String)
  | invalidMaxClockDrift (reason : String)
  | invalidLatestHeight (reason : String)
  | validation (reason : String)
  | missingTrustingPeriod
  | missingUnbondingPeriod
  | negativeMaxClockDrift
  | missingLatestHeight
  | frozenHeightNotAllowed
  | invalidRawMisbehaviour (reason : String)
  | invalidHeaderHeight (height : ℕ)
  | mismatchHeightRevisions (trustedRevision headerRevision : ℕ)
  | mismatchHeaderChainId (given expected : String)
  | notEnoughTrustedValsSigned (reason : String)
  | verificationError (detail : String)
  | mismatchValidatorsHashes (validatorsHash signedHeaderValidatorsHash : Hash)
  | consensusStateTimestampGteTrustingPeriod (durationSince trustingPeriod : Duration)
deriving DecidableEq

/-! ### Other libraries -/

/-- The trusted side of a header check. -/
structure TrustedBlockState where
  chainId : String
  headerTime : Time
  height : ℕ
  nextValidators : ValidatorSet
  nextValidatorsHash : Hash
deriving DecidableEq

/-- The untrusted side. The validators after it are never given. -/
structure UntrustedBlockState where
  signedHeader : SignedHeader
  validators : ValidatorSet
deriving DecidableEq

/-- What the verifier is told of the client. -/
structure TmOptions where
  trustThreshold : TrustThreshold
  trustingPeriod : Duration
  clockDrift : Duration
deriving DecidableEq

/-- The answer of the verifier. -/
inductive Verdict where
  | success
  | notEnoughTrust (reason : String)
  | invalid (detail : String)
deriving DecidableEq

/-- What comes from other libraries. -/
structure TmLibrary where
  isAlphanumeric : Char → Bool
  validatorSetHash : ValidatorSet → Hash
  verifyUpdateHeader : UntrustedBlockState → TrustedBlockState → TmOptions → Time → Verdict
  verifyMisbehaviourHeader : UntrustedBlockState → TrustedBlockState → TmOptions → Time → Verdict
  /-- The checks of the Tendermint library on a chain id and on a trust threshold; the text is the
  error. -/
  checkChainId : String → Except String Unit
  checkTrustThreshold : TrustThreshold → Except String Unit
  decodeProof : CommitmentProofBytes → Except CommitmentError MerkleProof
  ics23 : Ics23
  decodeHeader : Bytes → Except ClientError TmHeader
  decodeMisbehaviour : Bytes → Except ClientError TmMisbehaviour
  decodeClientState : Bytes → Except ClientError RawTmClientState
  decodeConsensusState : Bytes → Except ClientError TmConsensusState
  debugDuration : Duration → String

/-- The upper-case hexadecimal text of a hash. -/
def Hash.toText (h : Hash) : String :=
  String.ofList ((h.flatMap Hex.digits).map Char.toUpper)

/-- The text of an error. -/
def TmError.toText (lib : TmLibrary) : TmError → String
  | .invalidIdentifier e => "invalid identifier: `" ++ e.toText ++ "`"
  | .invalidTrustThreshold reason => "invalid client state trust threshold: `" ++ reason ++ "`"
  | .invalidTendermintTrustThreshold reason =>
      "invalid tendermint client state trust threshold error: `" ++ reason ++ "`"
  | .invalidMaxClockDrift reason => "invalid client state max clock drift: `" ++ reason ++ "`"
  | .invalidLatestHeight reason => "invalid client state latest height: `" ++ reason ++ "`"
  | .validation reason => "invalid header, failed basic validation: `" ++ reason ++ "`"
  | .missingTrustingPeriod => "missing trusting period"
  | .missingUnbondingPeriod => "missing unbonding period"
  | .negativeMaxClockDrift => "negative max clock drift"
  | .missingLatestHeight => "missing latest height"
  | .frozenHeightNotAllowed => "Disallowed to create a new client with a frozen height"
  | .invalidRawMisbehaviour reason => "invalid raw misbehaviour: `" ++ reason ++ "`"
  | .invalidHeaderHeight height =>
      "header revision height = `" ++ toString height ++ "` is invalid"
  | .mismatchHeightRevisions trusted header =>
      "the header's trusted revision number (`" ++ toString trusted ++
        "`) and the update's revision number (`" ++ toString header ++ "`) should be the same"
  | .mismatchHeaderChainId given expected => "the given chain-id (`" ++ given ++
      "`) does not match the chain-id of the client (`" ++ expected ++ "`)"
  | .notEnoughTrustedValsSigned reason =>
      "not enough trust because insufficient validators overlap: `" ++ reason ++ "`"
  | .verificationError detail => "verification failed: `" ++ detail ++ "`"
  | .mismatchValidatorsHashes validators signed =>
      "The given hash of the validators does not matches the given hash in the signed header. " ++
        "Expected: `" ++ signed.toText ++ "`, got: `" ++ validators.toText ++ "`"
  | .consensusStateTimestampGteTrustingPeriod duration period =>
      "current timestamp minus the latest consensus state timestamp is greater than or equal to " ++
        "the trusting period (`" ++ lib.debugDuration duration ++ "` >= `" ++
        lib.debugDuration period ++ "`)"

/-- A Tendermint error as an error of the client. -/
def TmError.toClient (lib : TmLibrary) (e : TmError) : ClientError := .clientSpecific (e.toText lib)

/-! ### Headers -/

/-- A height as the Tendermint library keeps it: a signed 64-bit word. -/
def toTmHeight (n : ℕ) : Option ℕ := if n < 2 ^ 63 then some n else none

/-- Only success is no error. -/
def Verdict.intoResult : Verdict → Except TmError Unit
  | .success => .ok ()
  | .notEnoughTrust reason => .error (.notEnoughTrustedValsSigned reason)
  | .invalid detail => .error (.verificationError detail)

namespace TmHeader

variable (lib : TmLibrary)

/-- The height of the header. A chain id without a revision, or a zero height, panics. -/
def height {ε : Type} (h : TmHeader) : Result ε Height :=
  match ChainId.fromStr lib.isAlphanumeric h.signedHeader.header.chainId with
  | .error _ => .error (.panic .expect)
  | .ok chainId =>
      match Height.new chainId.revisionNumber h.signedHeader.header.height with
      | some height => .ok height
      | none => .error (.panic .expect)

/-- The time of the block. -/
def time (h : TmHeader) : Time := h.signedHeader.header.time

/-- The header as the verifier takes it. -/
def asUntrustedBlockState (h : TmHeader) : UntrustedBlockState := ⟨h.signedHeader, h.validatorSet⟩

/-- The consensus state at the trusted height, as the verifier takes it. -/
def asTrustedBlockState (h : TmHeader) (cons : TmConsensusState) (chainId : String) :
    Except TmError TrustedBlockState := do
  let height ← Result.okOr (toTmHeight h.trustedHeight.revisionHeight)
    (.invalidHeaderHeight h.trustedHeight.revisionHeight)
  pure ⟨chainId, cons.timestamp, height, h.trustedNextValidatorSet, cons.nextValidatorsHash⟩

/-- The revision of the header is that of the chain. -/
def verifyChainIdVersionMatchesHeight (h : TmHeader) (chainId : ChainId) :
    Result TmError Unit := do
  let height ← h.height lib
  Result.require (height.revisionNumber = chainId.revisionNumber)
    (.mismatchHeaderChainId h.signedHeader.header.chainId chainId.id)

/-- The header is above its trusted height in the same revision, and the hashes are those of the
given validators. -/
def validateBasic (h : TmHeader) : Result TmError Unit := do
  let height ← h.height lib
  Result.require (height.revisionNumber = h.trustedHeight.revisionNumber)
    (.mismatchHeightRevisions h.trustedHeight.revisionNumber height.revisionNumber)
  Result.require (¬ height ≤ h.trustedHeight) (.invalidHeaderHeight height.revisionHeight)
  let header := h.signedHeader.header
  Result.require (lib.validatorSetHash h.validatorSet = header.validatorsHash)
    (.mismatchValidatorsHashes (lib.validatorSetHash h.validatorSet) header.validatorsHash)
  -- The *trusted* next validators are compared with those after the *new* header.
  Result.require (lib.validatorSetHash h.trustedNextValidatorSet = header.nextValidatorsHash)
    (.mismatchValidatorsHashes (lib.validatorSetHash h.trustedNextValidatorSet)
      header.nextValidatorsHash)

end TmHeader

/-- Two valid headers of one chain, the first not below the second. -/
def TmMisbehaviour.validateBasic (lib : TmLibrary) (m : TmMisbehaviour) : Result TmError Unit := do
  m.header1.validateBasic lib
  m.header2.validateBasic lib
  Result.require (m.header1.signedHeader.header.chainId = m.header2.signedHeader.header.chainId)
    (.invalidRawMisbehaviour "headers must have identical chain_ids")
  let height1 ← m.header1.height lib
  let height2 ← m.header2.height lib
  Result.require (¬ height1 < height2) (.invalidRawMisbehaviour
    ("header1 height is less than header2 height (" ++ height1.toText ++ " < " ++
      height2.toText ++ ")"))

/-- The relayer gave the validators the trusted consensus state names. -/
def checkHeaderTrustedNextValidatorSet (lib : TmLibrary) (header : TmHeader)
    (trusted : TmConsensusState) : Except ClientError Unit :=
  Result.ensure (lib.validatorSetHash header.trustedNextValidatorSet = trusted.nextValidatorsHash)
    (.headerVerificationFailure
      "header trusted next validator set hash does not match hash stored on chain")

/-! ### Decoding -/

/-- The fraction is below one; zero over zero is let through. -/
def TrustThreshold.new (t : TrustThreshold) : Except ClientError TrustThreshold :=
  if t.denominator < t.numerator ∨ (t.denominator = 0 ∧ t.numerator ≠ 0) ∨
      (t.numerator = t.denominator ∧ t.numerator ≠ 0) then
    .error (.invalidTrustThreshold t.numerator t.denominator)
  else .ok t

/-- A duration on the wire that is set and not negative. -/
def decodeDuration (raw : Option ℤ) (e : TmError) : Except TmError Duration := do
  let nanos ← Result.okOr raw e
  if 0 ≤ nanos then pure nanos.toNat else .error e

/-- A height on the wire that is set and not zero. -/
def decodeHeight (raw : Option (ℕ × ℕ)) : Option Height := raw.bind fun h => Height.new h.1 h.2

/-- The client state on the wire. A missing trust level is reported as a missing trusting period,
and a client state that is frozen is refused. -/
def TmClientState.tryFromRaw (alnum : Char → Bool) (raw : RawTmClientState) :
    Except TmError TmClientState := do
  let chainId ← (ChainId.fromStr alnum raw.chainId).mapError .invalidIdentifier
  let trustLevel ← Result.okOr raw.trustLevel .missingTrustingPeriod
  let trustLevel ← trustLevel.new.mapError fun _ => .invalidTrustThreshold
    ("failed to build trust threshold from fraction: `" ++ toString trustLevel.numerator ++ "`/`" ++
      toString trustLevel.denominator ++ "`")
  let trustingPeriod ← decodeDuration raw.trustingPeriod .missingTrustingPeriod
  let unbondingPeriod ← decodeDuration raw.unbondingPeriod .missingUnbondingPeriod
  let maxClockDrift ← decodeDuration raw.maxClockDrift .negativeMaxClockDrift
  let latestHeight ← Result.okOr (decodeHeight raw.latestHeight) .missingLatestHeight
  Result.ensure (decodeHeight raw.frozenHeight = none) .frozenHeightNotAllowed
  pure ⟨chainId, trustLevel, trustingPeriod, unbondingPeriod, maxClockDrift, latestHeight,
    raw.proofSpecs, raw.upgradePath,
    ⟨raw.allowUpdateAfterExpiry, raw.allowUpdateAfterMisbehaviour⟩, none⟩

/-- The wire form of a client state; no frozen height is zero. -/
def TmClientState.toRaw (cs : TmClientState) : RawTmClientState where
  chainId := cs.chainId.id
  trustLevel := some cs.trustLevel
  trustingPeriod := some cs.trustingPeriod
  unbondingPeriod := some cs.unbondingPeriod
  maxClockDrift := some cs.maxClockDrift
  frozenHeight :=
    some ((cs.frozenHeight.map fun h => (h.revisionNumber, h.revisionHeight)).getD (0, 0))
  latestHeight := some (cs.latestHeight.revisionNumber, cs.latestHeight.revisionHeight)
  proofSpecs := cs.proofSpecs
  upgradePath := cs.upgradePath
  allowUpdateAfterExpiry := cs.allowUpdate.afterExpiry
  allowUpdateAfterMisbehaviour := cs.allowUpdate.afterMisbehaviour

/-- A decoded client state is not frozen. -/
theorem TmClientState.frozenHeight_of_tryFromRaw {alnum : Char → Bool} {raw : RawTmClientState}
    {cs : TmClientState} (h : TmClientState.tryFromRaw alnum raw = .ok cs) :
    cs.frozenHeight = none := by
  simp only [tryFromRaw, Result.bind_eq_ok, Result.pure_eq_ok] at h
  obtain ⟨_, _, _, _, _, _, _, _, _, _, _, _, _, _, _, _, rfl⟩ := h
  rfl

namespace TmLibrary

variable (lib : TmLibrary)

/-- A client state, by its type. -/
def clientStateOf (any : Any) : Except ClientError TmClientState :=
  if any.typeUrl = "/ibc.lightclients.tendermint.v1.ClientState" then do
    let raw ← lib.decodeClientState any.value
    (TmClientState.tryFromRaw lib.isAlphanumeric raw).mapError (TmError.toClient lib)
  else .error (.unknownClientStateType any.typeUrl)

/-- A consensus state, by its type. -/
def consensusStateOf (any : Any) : Except ClientError TmConsensusState :=
  if any.typeUrl = "/ibc.lightclients.tendermint.v1.ConsensusState" then
    lib.decodeConsensusState any.value
  else .error (.unknownConsensusStateType any.typeUrl)

/-- A header, by its type. -/
def headerOf (any : Any) : Except ClientError TmHeader :=
  if any.typeUrl = "/ibc.lightclients.tendermint.v1.Header" then lib.decodeHeader any.value
  else .error (.unknownHeaderType any.typeUrl)

/-- A misbehaviour, by its type. -/
def misbehaviourOf (any : Any) : Except ClientError TmMisbehaviour :=
  if any.typeUrl = "/ibc.lightclients.tendermint.v1.Misbehaviour" then
    lib.decodeMisbehaviour any.value
  else .error (.unknownMisbehaviourType any.typeUrl)

end TmLibrary

/-! ### Wire forms

Protobuf fields can be read in any order: the fields kept in wire form come last. -/

/-- Seconds and nanoseconds; a negative number of seconds is its two's complement. -/
def Time.encode (t : Time) : Bytes :=
  varintField 0x08 ((t.unixNanos / 1000000000) % UInt64.size).toNat ++
    varintField 0x10 (t.unixNanos % 1000000000).toNat

/-- Seconds and nanoseconds. -/
def Duration.encode (d : Duration) : Bytes :=
  varintField 0x08 (d / 1000000000) ++ varintField 0x10 (d % 1000000000)

/-- Two numbers. -/
def Height.encode (h : Height) : Bytes :=
  varintField 0x08 h.revisionNumber ++ varintField 0x10 h.revisionHeight

/-- Time, root and validators. -/
def TmConsensusState.encode (c : TmConsensusState) : Bytes :=
  messageField 0x0a c.timestamp.encode ++ messageField 0x12 (bytesField 0x0a c.root.bytes) ++
    bytesField 0x1a c.nextValidatorsHash

/-- The encoding, with its type. -/
def TmConsensusState.encodeVec (c : TmConsensusState) : Bytes :=
  Any.encode ⟨"/ibc.lightclients.tendermint.v1.ConsensusState", c.encode⟩

/-- The fields that the client reads, then the others. -/
def TmBlockHeader.encode (h : TmBlockHeader) : Bytes :=
  bytesField 0x12 (utf8 h.chainId) ++ varintField 0x18 h.height ++
    messageField 0x22 h.time.encode ++ bytesField 0x42 h.validatorsHash ++
    bytesField 0x4a h.nextValidatorsHash ++ bytesField 0x5a h.appHash ++ h.rest

/-- The block header and the commit. -/
def SignedHeader.encode (h : SignedHeader) : Bytes :=
  messageField 0x0a h.header.encode ++
    messageField 0x12 (messageField 0x1a (bytesField 0x0a h.blockHash) ++ h.rest)

/-- The header as a relayer submits it. -/
def TmHeader.encode (h : TmHeader) : Bytes :=
  messageField 0x0a h.signedHeader.encode ++ messageField 0x12 h.validatorSet.bytes ++
    messageField 0x1a h.trustedHeight.encode ++ messageField 0x22 h.trustedNextValidatorSet.bytes

/-- The client state on the wire. -/
def RawTmClientState.encode (cs : RawTmClientState) : Bytes :=
  let message {α : Type} (tag : UInt8) (f : α → Bytes) (x : Option α) : Bytes :=
    (x.map fun a => messageField tag (f a)).getD []
  let height (h : ℕ × ℕ) : Bytes := varintField 0x08 h.1 ++ varintField 0x10 h.2
  let duration (d : ℤ) : Bytes := Duration.encode d.toNat
  bytesField 0x0a (utf8 cs.chainId) ++
    message 0x12 (fun t => varintField 0x08 t.numerator ++ varintField 0x10 t.denominator)
      cs.trustLevel ++
    message 0x1a duration cs.trustingPeriod ++ message 0x22 duration cs.unbondingPeriod ++
    message 0x2a duration cs.maxClockDrift ++ message 0x32 height cs.frozenHeight ++
    message 0x3a height cs.latestHeight ++ repeatedField 0x42 cs.proofSpecs ++
    repeatedField 0x4a (cs.upgradePath.map utf8) ++
    varintField 0x50 cs.allowUpdateAfterExpiry.toNat ++
    varintField 0x58 cs.allowUpdateAfterMisbehaviour.toNat

end Ibc
