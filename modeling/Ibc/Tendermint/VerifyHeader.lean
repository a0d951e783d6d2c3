import Ibc.Model.TendermintClient

/-!
# Which headers the Tendermint client accepts

A header comes with the validators that follow the trusted consensus state. The client compares
their hash with the one in the trusted state, as it must, and also with the hash of the validators
that follow the *new* header.

* **`verifyHeader_ok_iff`**: a header with which nothing else is wrong is accepted exactly when its
  trusted height is of the same revision and the next validators did not change between the trusted
  state and the header.
* **`validator_change_refused`**: a header that announces other validators is refused.
-/

namespace Ibc

section VerifyHeader

variable {lib : TmLibrary} {header : TmHeader} {height : Height}

/-- Reading the height fails in one way only, whatever the errors around it. -/
theorem TmHeader.height_eq_ok {ε ε' : Type}
    (h : header.height lib = (.ok height : Result ε Height)) :
    header.height lib = (.ok height : Result ε' Height) := by
  unfold TmHeader.height at h ⊢
  cases hc : ChainId.fromStr lib.isAlphanumeric header.signedHeader.header.chainId with
  | error e => simp [hc] at h
  | ok chainId =>
    cases hn : Height.new chainId.revisionNumber header.signedHeader.header.height with
    | none => simp [hc, hn] at h
    | some height' => simpa [hc, hn] using h

/-- The header has this height, and reading it does not panic. -/
def TmHeader.HasHeight (lib : TmLibrary) (header : TmHeader) (height : Height) : Prop :=
  header.height lib = (.ok height : Result ClientError Height)

theorem TmHeader.HasHeight.eq_ok {ε : Type} (h : header.HasHeight lib height) :
    header.height lib = (.ok height : Result ε Height) := TmHeader.height_eq_ok h

/-- What a header passes on its own. -/
theorem TmHeader.validateBasic_eq_ok (hh : header.HasHeight lib height) :
    header.validateBasic lib = .ok () ↔
      height.revisionNumber = header.trustedHeight.revisionNumber ∧
      header.trustedHeight < height ∧
      lib.validatorSetHash header.validatorSet = header.signedHeader.header.validatorsHash ∧
      lib.validatorSetHash header.trustedNextValidatorSet =
        header.signedHeader.header.nextValidatorsHash := by
  simp only [validateBasic, hh.eq_ok, Result.ok_bind, Result.bind_eq_ok, Result.require_eq_ok,
    not_le]
  constructor
  · rintro ⟨_, hrev, _, hlt, _, hvals, hnext⟩
    exact ⟨hrev, hlt, hvals, hnext⟩
  · rintro ⟨hrev, hlt, hvals, hnext⟩
    exact ⟨(), hrev, (), hlt, (), hvals, hnext⟩

/-- Nothing stands against the header but, possibly, its next validators: it is a later header of
the client's revision, its validator sets hash to what the header and the trusted consensus state
say, the host's clock is set, all conversions succeed, and the verifier accepts. -/
structure Verifiable (lib : TmLibrary) (cs : TmClientState) (clients : TmClientState.Records)
    (hostTimestamp : Timestamp) (clientId : ClientId) (header : TmHeader) (height : Height)
    (trusted : TmConsensusState) : Prop where
  hasHeight : header.HasHeight lib height
  revision : height.revisionNumber = cs.chainId.revisionNumber
  later : header.trustedHeight < height
  validators : lib.validatorSetHash header.validatorSet = header.signedHeader.header.validatorsHash
  stored : clients.consensusState clientId header.trustedHeight = some trusted
  trustedNext : lib.validatorSetHash header.trustedNextValidatorSet = trusted.nextValidatorsHash
  chainId : lib.checkChainId cs.chainId.id = .ok ()
  trustedHeight : header.trustedHeight.revisionHeight < 2 ^ 63
  trustLevel : lib.checkTrustThreshold cs.trustLevel = .ok ()
  accepted : ∃ now, hostTimestamp.time = some now ∧
    lib.verifyUpdateHeader header.asUntrustedBlockState
      ⟨cs.chainId.id, trusted.timestamp, header.trustedHeight.revisionHeight,
        header.trustedNextValidatorSet, trusted.nextValidatorsHash⟩
      ⟨cs.trustLevel, cs.trustingPeriod, cs.maxClockDrift⟩ now = .success

variable {cs : TmClientState} {clients : TmClientState.Records} {hostTimestamp : Timestamp}
  {clientId : ClientId} {trusted : TmConsensusState}

/-- What follows the checks on the header alone succeeds. -/
theorem Verifiable.verifyHeader_eq
    (h : Verifiable lib cs clients hostTimestamp clientId header height trusted) :
    cs.verifyHeader lib clients hostTimestamp clientId header = .ok () ↔
      header.validateBasic lib = .ok () := by
  obtain ⟨now, hnow, hverdict⟩ := h.accepted
  have hmatch : header.verifyChainIdVersionMatchesHeight lib cs.chainId = .ok () := by
    simp only [TmHeader.verifyChainIdVersionMatchesHeight, h.hasHeight.eq_ok, Result.ok_bind,
      Result.require_eq_ok, h.revision]
  have htrusted : TmClientState.trustedConsensusState clients clientId header = .ok trusted := by
    rw [TmClientState.trustedConsensusState, h.stored, Result.okOr_some]
  have hnext : checkHeaderTrustedNextValidatorSet lib header trusted = .ok () :=
    Result.ensure_eq_ok.mpr h.trustedNext
  have hchain : cs.tmChainId lib = .ok () := by
    rw [TmClientState.tmChainId, h.chainId]
    rfl
  have hstate : header.asTrustedBlockState trusted cs.chainId.id =
      .ok ⟨cs.chainId.id, trusted.timestamp, header.trustedHeight.revisionHeight,
        header.trustedNextValidatorSet, trusted.nextValidatorsHash⟩ := by
    rw [TmHeader.asTrustedBlockState, toTmHeight, if_pos h.trustedHeight]
    rfl
  have hoptions : cs.asLightClientOptions lib =
      .ok ⟨cs.trustLevel, cs.trustingPeriod, cs.maxClockDrift⟩ := by
    rw [TmClientState.asLightClientOptions, h.trustLevel]
  rw [TmClientState.verifyHeader, Result.bind_eq_ok]
  simp only [Result.mapErr_eq_ok]
  constructor
  · rintro ⟨_, hbasic, _⟩
    exact hbasic
  · intro hbasic
    refine ⟨(), hbasic, ?_⟩
    simp only [hmatch, htrusted, hnext, hchain, hstate, hoptions, hnow, Result.mapErr,
      Result.ofExcept, Result.ok_bind, Result.okOr_some]
    rw [hverdict]
    rfl

/-- **A header with which nothing else is wrong is accepted exactly when it trusts a height of its
own revision and the next validators did not change.** -/
theorem verifyHeader_ok_iff
    (h : Verifiable lib cs clients hostTimestamp clientId header height trusted) :
    cs.verifyHeader lib clients hostTimestamp clientId header = .ok () ↔
      height.revisionNumber = header.trustedHeight.revisionNumber ∧
      header.signedHeader.header.nextValidatorsHash = trusted.nextValidatorsHash := by
  rw [h.verifyHeader_eq, TmHeader.validateBasic_eq_ok h.hasHeight, h.trustedNext]
  constructor
  · rintro ⟨hrev, -, -, hnext⟩
    exact ⟨hrev, hnext.symm⟩
  · rintro ⟨hrev, hnext⟩
    exact ⟨hrev, h.later, h.validators, hnext.symm⟩

end VerifyHeader

/-! ### A sample chain -/

namespace TmRun

open Proto

def publicKey : Bytes :=
  [243, 73, 83, 156, 126, 94, 247, 196, 149, 73, 176, 156, 75, 252, 35, 53, 49, 138, 176, 254, 81,
    251, 250, 162, 67, 59, 79, 19, 232, 22, 244, 167]

def address : Bytes :=
  [62, 235, 119, 120, 238, 37, 62, 139, 152, 219, 94, 116, 54, 123, 2, 8, 218, 223, 247, 207]

/-- The set of one validator, with the given voting power. -/
def validatorSet (power : ℕ) : ValidatorSet :=
  let validator := bytesField 0x0a address ++ messageField 0x12 (bytesField 0x0a publicKey) ++
    varintField 0x18 power
  ⟨messageField 0x0a validator ++ messageField 0x12 validator ++ varintField 0x18 power⟩

def validators : ValidatorSet := validatorSet 281815

def nextValidators : ValidatorSet := validatorSet 281816

def validatorsHash : Hash :=
  [145, 193, 171, 29, 204, 141, 63, 132, 42, 118, 54, 49, 108, 72, 36, 90, 255, 94, 18, 72, 146, 34,
    7, 215, 122, 121, 6, 140, 245, 247, 55, 150]

def nextValidatorsHash : Hash :=
  [219, 224, 87, 183, 253, 150, 241, 214, 81, 131, 246, 49, 162, 239, 121, 32, 25, 3, 177, 56, 150,
    84, 89, 209, 252, 232, 44, 149, 239, 245, 232, 6]

def clientId : ClientId := ⟨"07-tendermint-0", by decide, by decide⟩

/-- The header at a height, a second of block time for each, that trusts the first. -/
def header (height : ℕ) (next : Hash) : TmHeader where
  signedHeader.header.chainId := "chain-0"
  signedHeader.header.height := height
  signedHeader.header.time := ⟨1600000000000000000 + 1000000000 * min height 1000, by omega⟩
  signedHeader.header.validatorsHash := validatorsHash
  signedHeader.header.nextValidatorsHash := next
  signedHeader.header.appHash := List.replicate 32 (UInt8.ofNat height)
  signedHeader.header.rest := messageField 0x0a (varintField 0x08 11) ++ bytesField 0x72 address
  signedHeader.blockHash := List.replicate 32 (UInt8.ofNat (height + 128))
  signedHeader.rest := varintField 0x08 height
  validatorSet := validators
  trustedHeight := ⟨0, 1⟩
  trustedNextValidatorSet := validators

def clientState : TmClientState where
  chainId := ⟨"chain-0", 0⟩
  trustLevel := ⟨1, 3⟩
  trustingPeriod := 1209600000000000
  unbondingPeriod := 1814400000000000
  maxClockDrift := 3000000000
  latestHeight := ⟨0, 1⟩
  proofSpecs := []
  upgradePath := []
  allowUpdate := ⟨false, false⟩
  frozenHeight := none

def consensusState : TmConsensusState := .ofHeader (header 1 validatorsHash)

/-- The host's clock, an hour after the first block. -/
def now : Timestamp := .fromNanoseconds 1600003600000000000

/-- The functions of the other libraries on the sample messages. The verifier accepts what the
sample validators sign. -/
def library (headers : List TmHeader) : TmLibrary where
  isAlphanumeric := Char.isAlphanum
  validatorSetHash vs :=
    if vs = validators then validatorsHash
    else if vs = nextValidators then nextValidatorsHash
    else 0 :: vs.bytes
  verifyUpdateHeader untrusted _ _ _ :=
    if untrusted.validators = validators then .success else .invalid "invalid signature"
  verifyMisbehaviourHeader untrusted _ _ _ :=
    if untrusted.validators = validators then .success else .invalid "invalid signature"
  checkChainId id := if id.length ≤ 50 then .ok () else .error "chain id is too long"
  checkTrustThreshold t :=
    if t.numerator ≤ t.denominator ∧ 0 < t.denominator ∧ t.denominator ≤ 3 * t.numerator then .ok ()
    else .error "invalid trust threshold"
  decodeProof _ := .error .invalidRawMerkleProof
  ics23 := ⟨fun _ => none, fun _ _ _ _ _ => false, fun _ _ _ _ => false⟩
  decodeHeader b := Result.okOr (headers.find? fun h => h.encode = b) .decode
  decodeMisbehaviour _ := .error .decode
  decodeClientState b :=
    if b = clientState.toRaw.encode then .ok clientState.toRaw else .error .decode
  decodeConsensusState b := if b = consensusState.encode then .ok consensusState else .error .decode
  debugDuration d := toString d ++ "ns"

/-- The records of a client that knows the first block. -/
def records : TmClientState.Records :=
  Clients.storeConsensusState clientId ⟨0, 1⟩ consensusState
    (Clients.storeClientState clientId clientState fun _ => none)

theorem header_hasHeight {n : ℕ} (hn : n ≠ 0) (next : Hash) (headers : List TmHeader) :
    (header n next).HasHeight (library headers) ⟨0, n⟩ := by
  have hchain : ChainId.fromStr Char.isAlphanum "chain-0" = .ok ⟨"chain-0", 0⟩ := by decide +kernel
  simp [TmHeader.HasHeight, TmHeader.height, header, library, hchain, Height.new, hn]

/-- The second header can be verified, whatever validators it announces. -/
theorem header_verifiable (next : Hash) :
    Verifiable (library []) clientState records now clientId (header 2 next) ⟨0, 2⟩
      consensusState where
  hasHeight := header_hasHeight (by decide) next []
  revision := rfl
  later := (by decide : (⟨0, 1⟩ : Height) < ⟨0, 2⟩)
  validators :=
    (by decide +kernel : (library []).validatorSetHash TmRun.validators = validatorsHash)
  stored := (by decide +kernel : records.consensusState clientId ⟨0, 1⟩ = some consensusState)
  trustedNext := (by decide +kernel :
    (library []).validatorSetHash TmRun.validators = consensusState.nextValidatorsHash)
  chainId := by decide +kernel
  trustedHeight := (by decide : 1 < 2 ^ 63)
  trustLevel := by decide
  accepted := by
    refine ⟨⟨1600003600000000000, by decide⟩, by decide, ?_⟩
    simp [library, TmHeader.asUntrustedBlockState, header]

end TmRun

/-- The same validators again: the header is accepted. -/
theorem same_validators_accepted :
    TmRun.clientState.verifyHeader (TmRun.library []) TmRun.records TmRun.now TmRun.clientId
      (TmRun.header 2 TmRun.validatorsHash) = .ok () :=
  (verifyHeader_ok_iff (TmRun.header_verifiable _)).mpr ⟨rfl, rfl⟩

/-- A header that announces new validators: it is refused. -/
theorem validator_change_refused :
    Verifiable (TmRun.library []) TmRun.clientState TmRun.records TmRun.now TmRun.clientId
      (TmRun.header 2 TmRun.nextValidatorsHash) ⟨0, 2⟩ TmRun.consensusState ∧
    TmRun.clientState.verifyHeader (TmRun.library []) TmRun.records TmRun.now TmRun.clientId
      (TmRun.header 2 TmRun.nextValidatorsHash) ≠ .ok () :=
  ⟨TmRun.header_verifiable _, by decide +kernel⟩

end Ibc
