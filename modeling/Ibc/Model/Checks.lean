import Ibc.Model.Context
import Ibc.Support.Double
import Ibc.Support.Words

/-!
# Checks shared by the handlers

The methods of channel ends, connection ends, versions, timeouts and packets that the handlers
call, the packet and acknowledgement commitments, and the two blocks several handlers begin with:
fetching a usable client and its consensus state at the proof height (`clientForProof`), and the
connection's delay (`verifyConnDelayPassed`).
-/

namespace Ibc

/-! ### Channel ends -/

namespace ChannelEnd

/-- An end has a state and an ordering. -/
def validateBasic (e : ChannelEnd) : Except ChannelError Unit := do
  Result.ensure (e.state ≠ .uninitialized)
    (.invalidState "Channel state cannot be Uninitialized" e.state.asString)
  Result.ensure (e.ordering ≠ .none)
    (.invalidOrderType "Channel ordering cannot be None" e.ordering.asStr)

/-- A checked end. -/
def new (state : ChannelState) (ordering : Order) (remote : Counterparty)
    (connectionHops : List ConnectionId) (version : ChannelVersion) :
    Except ChannelError ChannelEnd := do
  let e : ChannelEnd := ⟨state, ordering, remote, connectionHops, version⟩
  e.validateBasic
  pure e

/-- The end is in the expected state. -/
def verifyStateMatches (e : ChannelEnd) (expected : ChannelState) : Except ChannelError Unit :=
  Result.ensure (e.state = expected) (.invalidState expected.asString e.state.asString)

/-- The end is not closed. -/
def verifyNotClosed (e : ChannelEnd) : Except ChannelError Unit :=
  Result.ensure (e.state ≠ .closed)
    (.invalidState "Channel state cannot be Closed" e.state.asString)

/-- The end has the expected counterparty. -/
def verifyCounterpartyMatches (e : ChannelEnd) (expected : Counterparty) :
    Except ChannelError Unit :=
  Result.ensure (e.remote = expected) (.invalidCounterparty expected e.remote)

end ChannelEnd

/-- The number of hops. -/
def verifyConnectionHopsLength (hops : List ConnectionId) (expected : ℕ) :
    Except ChannelError Unit :=
  Result.ensure (hops.length = expected) (.invalidConnectionHopsLength expected hops.length)

theorem ChannelEnd.new_eq_ok {state : ChannelState} {ordering : Order} {remote : Counterparty}
    {hops : List ConnectionId} {version : ChannelVersion} {e : ChannelEnd} :
    ChannelEnd.new state ordering remote hops version = .ok e ↔
      e = ⟨state, ordering, remote, hops, version⟩ ∧ state ≠ .uninitialized ∧ ordering ≠ .none := by
  simp only [new, validateBasic, Result.bind_eq_ok, Result.ensure_eq_ok, Result.pure_eq_ok]
  constructor
  · rintro ⟨_, ⟨_, hs, ho⟩, rfl⟩
    exact ⟨rfl, hs, ho⟩
  · rintro ⟨rfl, hs, ho⟩
    exact ⟨(), ⟨(), hs, ho⟩, rfl⟩

/-! ### Connection ends and versions -/

namespace ConnectionVersion

/-- The version has the feature. -/
def verifyFeatureSupported (v : ConnectionVersion) (feature : String) :
    Except ConnectionError Unit :=
  Result.ensure (feature ∈ v.features) (.featureNotSupported feature)

/-- The supported version with the same identifier. -/
def findSupported (v : ConnectionVersion) (supported : List ConnectionVersion) :
    Except ConnectionError ConnectionVersion :=
  Result.okOr (supported.find? fun sv => sv.identifier = v.identifier) (.versionNotSupported v)

/-- A supported version of this name has all the features, which are not none. -/
def verifyIsSupported (v : ConnectionVersion) (supported : List ConnectionVersion) :
    Except ConnectionError Unit := do
  let sv ← v.findSupported supported
  Result.ensure (v.features ≠ []) .emptyFeatures
  v.features.forM sv.verifyFeatureSupported

/-- The features both sides support, in the order of the first. -/
def featureSetIntersection (supported counterparty : List String) :
    Except ConnectionError (List String) :=
  let common := supported.filter (counterparty.contains ·)
  if common = [] then .error .noCommonFeatures else .ok common

/-- The versions both sides support, with their common features. -/
def intersection (supported counterparty : List ConnectionVersion) : List ConnectionVersion :=
  supported.filterMap fun sv =>
    match sv.findSupported counterparty with
    | .ok cv =>
        match featureSetIntersection sv.features cv.features with
        | .ok features => some ⟨cv.identifier, features⟩
        | .error _ => none
    | .error _ => none

/-- The common version with the least identifier, the first of those in a tie. -/
def pick (supported counterparty : List ConnectionVersion) :
    Except ConnectionError ConnectionVersion :=
  Result.okOr
    ((intersection supported counterparty).insertionSort
      (fun a b => a.identifier ≤ b.identifier)).head? .noCommonVersion

end ConnectionVersion

namespace ConnectionEnd

/-- Past `init` an end has exactly one version. -/
def new (state : ConnectionState) (clientId : ClientId) (counterparty : ConnectionCounterparty)
    (versions : List ConnectionVersion) (delayPeriod : Duration) :
    Except ConnectionError ConnectionEnd :=
  if state ≠ .init ∧ versions.length ≠ 1 then .error .invalidVersionLength
  else .ok ⟨state, clientId, counterparty, versions, delayPeriod⟩

/-- The end is in the expected state. -/
def verifyStateMatches (e : ConnectionEnd) (expected : ConnectionState) :
    Except ConnectionError Unit :=
  Result.ensure (e.state = expected) (.invalidState expected.asStr e.state.asStr)

theorem new_eq_ok {state : ConnectionState} {id : ClientId}
    {cp : ConnectionCounterparty} {versions : List ConnectionVersion} {delay : Duration}
    {e : ConnectionEnd} : ConnectionEnd.new state id cp versions delay = .ok e ↔
      e = ⟨state, id, cp, versions, delay⟩ ∧ (state ≠ .init → versions.length = 1) := by
  unfold ConnectionEnd.new
  split_ifs with h
  · simp only [false_iff, not_and, not_forall]
    exact fun _ => ⟨h.1, h.2⟩
  · rw [not_and_not_right] at h
    simp only [Except.ok.injEq]
    exact ⟨fun he => ⟨he.symm, h⟩, fun he => he.1.symm⟩

end ConnectionEnd

/-! ### Packets and their commitments -/

namespace TimeoutHeight

/-- Whether there is a timeout. -/
def isSet : TimeoutHeight → Bool
  | .never => false
  | .at _ => true

/-- The revision in a commitment; zero without a timeout. -/
def commitmentRevisionNumber : TimeoutHeight → ℕ
  | .never => 0
  | .at h => h.revisionNumber

/-- The height in a commitment; zero without a timeout. -/
def commitmentRevisionHeight : TimeoutHeight → ℕ
  | .never => 0
  | .at h => h.revisionHeight

/-- Whether the timeout lies strictly below `height`. -/
def hasExpired : TimeoutHeight → Height → Bool
  | .never, _ => false
  | .at t, height => decide (t < height)

/-- The timeout of an encoded height; both numbers zero stand for none. -/
def tryFrom (revisionNumber revisionHeight : ℕ) : Except ClientError TimeoutHeight :=
  if revisionNumber = 0 ∧ revisionHeight = 0 then .ok .never
  else
    match Height.new revisionNumber revisionHeight with
    | some h => .ok (.at h)
    | none => .error .invalidHeight

/-- The timeouts a decoder produces from two 64-bit words. -/
def Decoded (t : TimeoutHeight) : Prop :=
  ∃ n < UInt64.size, ∃ h < UInt64.size, tryFrom n h = .ok t

/-- Both numbers are 64-bit words, as they are in the source. -/
def InWords (t : TimeoutHeight) : Prop :=
  t.commitmentRevisionNumber < UInt64.size ∧ t.commitmentRevisionHeight < UInt64.size

instance (t : TimeoutHeight) : Decidable t.InWords :=
  inferInstanceAs (Decidable (_ ∧ _))

theorem decoded_iff {t : TimeoutHeight} :
    t.Decoded ↔ t.InWords ∧ ∀ h, t = .at h → h.revisionHeight ≠ 0 := by
  constructor
  · rintro ⟨n, hn, k, hk, ht⟩
    simp only [tryFrom, Height.new] at ht
    split_ifs at ht with hzero hk₀
    · cases ht
      exact ⟨⟨by decide, by decide⟩, nofun⟩
    · cases ht
      refine ⟨⟨hn, hk⟩, ?_⟩
      rintro h ⟨⟩
      exact hk₀
  · rintro ⟨⟨hn, hk⟩, hpos⟩
    cases t with
    | never => exact ⟨0, by decide, 0, by decide, rfl⟩
    | «at» h => exact ⟨_, hn, _, hk, by
        simp [tryFrom, Height.new, commitmentRevisionNumber, commitmentRevisionHeight, hpos h rfl]⟩

instance (t : TimeoutHeight) : Decidable t.Decoded :=
  decidable_of_iff (t.InWords ∧ (t.isSet = true → t.commitmentRevisionHeight ≠ 0)) <| by
    rw [decoded_iff]
    cases t <;> simp [isSet, commitmentRevisionHeight]

/-- A decoded timeout that is set is determined by its numbers. -/
theorem Decoded.at_eq {t t' : TimeoutHeight} {h : Height} (hd : t.Decoded)
    (hn : t.commitmentRevisionNumber = t'.commitmentRevisionNumber)
    (hh : t.commitmentRevisionHeight = t'.commitmentRevisionHeight) (ht : t = .at h) :
    t' = .at h := by
  have hpos := (decoded_iff.mp hd).2 h ht
  subst ht
  cases t' with
  | never => exact absurd hh hpos
  | «at» h' =>
    rcases h with ⟨n, k⟩
    rcases h' with ⟨n', k'⟩
    cases hn
    cases hh
    rfl

/-- Decoded timeouts with the same numbers are equal. -/
theorem Decoded.eq_of_numbers {t t' : TimeoutHeight} (h : t.Decoded) (h' : t'.Decoded)
    (hn : t.commitmentRevisionNumber = t'.commitmentRevisionNumber)
    (hh : t.commitmentRevisionHeight = t'.commitmentRevisionHeight) : t = t' := by
  cases ht : t with
  | «at» k => exact (h.at_eq hn hh ht).symm
  | never =>
    cases ht' : t' with
    | never => rfl
    | «at» k =>
      have hset := h'.at_eq hn.symm hh.symm ht'
      rw [ht] at hset
      cases hset

end TimeoutHeight

namespace Packet

/-- Whether the packet can no longer be received on a chain at this time and height. -/
def timedOut (p : Packet) (dstChainTs : Timestamp) (dstChainHeight : Height) : Bool :=
  p.timeoutHeightOnB.hasExpired dstChainHeight ||
    (p.timeoutTimestampOnB.isSet &&
      decide (dstChainTs.checkExpiry p.timeoutTimestampOnB = .expired))

/-- Both timeouts are ones a decoder produces. -/
structure TimeoutsDecoded (p : Packet) : Prop where
  height : p.timeoutHeightOnB.Decoded
  timestamp : p.timeoutTimestampOnB.Decoded

instance (p : Packet) : Decidable p.TimeoutsDecoded :=
  decidable_of_iff (p.timeoutHeightOnB.Decoded ∧ p.timeoutTimestampOnB.Decoded)
    ⟨fun h => ⟨h.1, h.2⟩, fun h => ⟨h.height, h.timestamp⟩⟩

/-- The key of the packet on the sending chain. -/
def keyOnA (p : Packet) : PacketKey := (p.portIdOnA, p.chanIdOnA, p.seqOnA)

/-- The key of the packet on the receiving chain. -/
def keyOnB (p : Packet) : PacketKey := (p.portIdOnB, p.chanIdOnB, p.seqOnA)

/-- The sending channel end. -/
def chanOnA (p : Packet) : ChannelKey := (p.portIdOnA, p.chanIdOnA)

/-- The receiving channel end. -/
def chanOnB (p : Packet) : ChannelKey := (p.portIdOnB, p.chanIdOnB)

end Packet

/-- The commitment to a packet: its timeouts and the hash of its data, hashed. -/
def computePacketCommitment {ε : Type} (lib : Library) (data : Bytes)
    (timeoutHeight : TimeoutHeight) (timeoutTimestamp : Timestamp) : Result ε PacketCommitment := do
  let nanoseconds ← timeoutTimestamp.nanoseconds
  let hashInput := Words.be64 nanoseconds ++ Words.be64 timeoutHeight.commitmentRevisionNumber ++
    Words.be64 timeoutHeight.commitmentRevisionHeight ++ lib.sha256 data
  pure ⟨lib.sha256 hashInput⟩

/-- The commitment to an acknowledgement. -/
def computeAckCommitment (lib : Library) (ack : Acknowledgement) : AcknowledgementCommitment :=
  ⟨lib.sha256 ack.bytes⟩

/-- The commitment to the data and timeouts of `p`. -/
def Packet.commitment {ε : Type} (lib : Library) (p : Packet) : Result ε PacketCommitment :=
  computePacketCommitment lib p.data p.timeoutHeightOnB p.timeoutTimestampOnB

/-! ### The delay in blocks -/

/-- A duration in seconds, as a double: the whole seconds and the rest are rounded apart. -/
def Duration.asSecsF64 (d : Duration) : ℚ :=
  let secs : ℕ := d / 1000000000
  let nanos : ℕ := d % 1000000000
  Double.round (Double.round secs + Double.round (Double.round nanos / 1000000000))

/-- The number of blocks a host makes of a delay, with one block in `maxExpectedTimePerBlock`. The
quotient is one of doubles, and the cast of its ceiling to a word saturates. -/
def calculateBlockDelay (delayPeriodTime maxExpectedTimePerBlock : Duration) : ℕ :=
  if maxExpectedTimePerBlock = 0 then 0
  else min ⌈Double.round (delayPeriodTime.asSecsF64 / maxExpectedTimePerBlock.asSecsF64)⌉₊
    (UInt64.size - 1)

/-! ### Blocks shared by the proof-checking handlers -/

section Handlers

variable {CS Cons μ : Type} (H : Host CS Cons μ) (s : Ctx CS Cons μ)

/-- The state of a client that is not frozen, and its consensus state at the height of a proof. -/
def clientForProof (clientId : ClientId) (proofHeight : Height) :
    Result ContextError (CS × Cons) := do
  let clientState ← s.clientState clientId
  H.lightClient.confirmNotFrozen clientState
  H.lightClient.validateProofHeight clientState proofHeight
  let consensusState ← s.consensusState clientId proofHeight
  pure (clientState, consensusState)

/-- A membership check of the connection handshake, with its failure wrapped. -/
def verifyConnectionMembership (wrap : ClientError → ConnectionError) (client : CS × Cons)
    (pfx : CommitmentPrefix) (proof : CommitmentProofBytes) (path : Path) (value : Bytes) :
    Except ConnectionError Unit :=
  (H.lightClient.verifyMembership client.1 pfx proof (H.lightClient.root client.2) path
    value).mapError wrap

/-- A membership check of the channel handshake, with its failure wrapped. -/
def verifyChannelMembership (wrap : ClientError → ChannelError) (client : CS × Cons)
    (pfx : CommitmentPrefix) (proof : CommitmentProofBytes) (path : Path) (value : Bytes) :
    Except ChannelError Unit :=
  (H.lightClient.verifyMembership client.1 pfx proof (H.lightClient.root client.2) path
    value).mapError wrap

/-- A membership check of the packet handlers, with its failure wrapped. -/
def verifyPacketMembership (wrap : ClientError → ChannelError) (client : CS × Cons)
    (pfx : CommitmentPrefix) (proof : CommitmentProofBytes) (path : Path) (value : Bytes) :
    Except PacketError Unit :=
  (verifyChannelMembership H wrap client pfx proof path value).mapError .channel

/-- A non-membership check of the packet handlers, with its failure wrapped. -/
def verifyPacketNonMembership (wrap : ClientError → ChannelError) (client : CS × Cons)
    (pfx : CommitmentPrefix) (proof : CommitmentProofBytes) (path : Path) :
    Except PacketError Unit :=
  ((H.lightClient.verifyNonMembership client.1 pfx proof (H.lightClient.root client.2)
    path).mapError wrap).mapError .channel

/-- The proof's consensus state has been known for the connection's delay, in time and in blocks. -/
def verifyConnDelayPassed (packetProofHeight : Height) (connectionEnd : ConnectionEnd) :
    Result ContextError Unit := do
  let currentHostTime := s.env.hostTimestamp
  let currentHostHeight := s.env.hostHeight
  let clientId := connectionEnd.clientId
  let lastClientUpdateTime ← s.clientUpdateTime clientId packetProofHeight
  let lastClientUpdateHeight ← s.clientUpdateHeight clientId packetProofHeight
  let connDelayTimePeriod := connectionEnd.delayPeriod
  let connDelayHeightPeriod := H.blockDelay connDelayTimePeriod
  let earliestValidTime ← (Result.okOr (lastClientUpdateTime.add connDelayTimePeriod)
    .timestampOverflow : Except ConnectionError Timestamp)
  (Result.ensure (currentHostTime.lt earliestValidTime = false)
    (.notEnoughTimeElapsed currentHostTime earliestValidTime) : Except ConnectionError Unit)
  let earliestValidHeight ← lastClientUpdateHeight.add connDelayHeightPeriod
  (Result.ensure (¬ currentHostHeight < earliestValidHeight)
    (.notEnoughBlocksElapsed currentHostHeight earliestValidHeight) : Except ConnectionError Unit)

end Handlers

end Ibc
