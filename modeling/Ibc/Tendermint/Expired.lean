import Ibc.Protocol.Effective
import Ibc.Tendermint.Frozen
import Ibc.Tendermint.Stored

/-!
# Expired clients

A client expires when more time than its trusting period has passed since its latest consensus
state. `MsgUpgradeClient` is refused then. The handlers that verify proofs of the other chain, and
the sending of packets, ask whether the client is frozen but never whether it has expired: they do
the same on a host whose clients never expire (`Input.run_neverExpiring`).

What they do ask is `Input.Acceptable`, handler by handler. **`expired_trusted_iff`**: an input
respects the trusting period of a client just when the client has not expired, or one of these other
conditions fails.
-/

namespace Ibc

open Exec

variable {CS Cons μ : Type}

/-! ### Relying on a client -/

/-- The input is handled and relies on the client: a message whose proof is verified against it and
that changes the store, or a packet that is sent on a channel over it. -/
def Input.ReliesOn (H : Host CS Cons μ) (s : Ctx CS Cons μ) (id : ClientId) : Input Cons μ → Prop
  | .dispatch msg => msg.verifiesProof = true ∧ msg.clientOf s.store = some id ∧
      ∃ s', Ibc.dispatch H msg s = (.ok (), s') ∧ s'.store ≠ s.store
  | .sendPacket p => s.store.clientOfChannel p.chanOnA = some id ∧
      ∃ s', Ibc.sendPacket H p s = (.ok (), s')
  | .newBlock _ => False
  | .application _ => False

/-- What the handlers ask of an input that is to rely on the client: of a message that takes a
proof, that it takes effect (`MsgEnvelope.Effective`); of a packet, that it may be sent
(`Packet.MaySend`). -/
def Input.Acceptable (H : Host CS Cons μ) (s : Ctx CS Cons μ) (id : ClientId) : Input Cons μ → Prop
  | .dispatch msg => msg.verifiesProof = true ∧ msg.clientOf s.store = some id ∧ msg.Effective H s
  | .sendPacket p => s.store.clientOfChannel p.chanOnA = some id ∧ p.MaySend H s
  | .newBlock _ => False
  | .application _ => False

theorem Input.reliesOn_iff {H : Host CS Cons μ} {s : Ctx CS Cons μ} (iso : H.Isolated)
    {i : Input Cons μ} {id : ClientId} : i.ReliesOn H s id ↔ i.Acceptable H s id := by
  cases i with
  | dispatch msg =>
    refine and_congr_right fun hproof => and_congr_right fun _ => ?_
    exact dispatch_changes_iff iso hproof
  | sendPacket p => exact and_congr_right fun _ => sendPacket_ok_iff
  | newBlock env => rfl
  | application app => rfl

/-- The same host, if no client ever expired. -/
def Host.neverExpiring (H : Host CS Cons μ) : Host CS Cons μ :=
  { H with lightClient := { H.lightClient with expired := fun _ _ => false } }

section NeverExpiring

variable {H : Host CS Cons μ}

theorem connection_neverExpiring (msg : ConnectionMsg) :
    dispatch H.neverExpiring (.connection msg) = dispatch H (.connection msg) := by
  cases msg <;> rfl

theorem channel_neverExpiring (msg : ChannelMsg) :
    dispatch H.neverExpiring (.channel msg) = dispatch H (.channel msg) := by
  cases msg <;> rfl

theorem packet_neverExpiring (msg : PacketMsg) :
    dispatch H.neverExpiring (.packet msg) = dispatch H (.packet msg) := by
  cases msg <;> rfl

theorem sendPacket_neverExpiring (p : Packet) :
    sendPacket H.neverExpiring p = sendPacket H p := rfl

/-- **No input but a message for a client asks whether a client has expired.** -/
theorem Input.run_neverExpiring {i : Input Cons μ} (hi : i.isClient = false) :
    i.run H.neverExpiring = i.run H := by
  cases i with
  | dispatch msg =>
    cases msg with
    | client msg => cases hi
    | connection msg => exact connection_neverExpiring msg
    | channel msg => exact channel_neverExpiring msg
    | packet msg => exact packet_neverExpiring msg
  | sendPacket p => exact sendPacket_neverExpiring p
  | newBlock env => rfl
  | application app => rfl

end NeverExpiring

/-! ### Tendermint clients -/

section Tendermint

variable {lib : TmLibrary} {H : TmHost μ}
  {s : TmCtx μ}

/-- At most the trusting period has passed since the latest consensus state of the client. -/
def Unexpired (s : TmCtx μ) (id : ClientId) : Prop :=
  ∀ cs cons elapsed, s.store.client.clients.clientState id = some cs →
    s.store.client.clients.consensusState id cs.latestHeight = some cons →
    s.env.hostTimestamp.durationSince ⟨some cons.timestamp⟩ = some elapsed →
    elapsed ≤ cs.trustingPeriod

theorem unexpired_of_upgrade (tm : H.Tendermint lib) {msg : MsgUpgradeClient}
    (hv : upgradeClientValidate H s msg = .ok ()) : Unexpired s msg.clientId := by
  simp only [upgradeClientValidate, Result.bind_eq_ok, lift_client_eq_ok, lift_result_client_eq_ok,
    Ctx.clientState, Ctx.consensusState, Result.okOr_eq_ok, Result.ensure_eq_ok,
    tm.lightClient] at hv
  obtain ⟨_, _, cs, hcs, _, _, cons, hcons, elapsed, helapsed, _, hnot, _⟩ := hv
  intro cs' cons' elapsed' hcs' hcons' helapsed'
  obtain rfl : cs = cs' := Option.some.inj (hcs.symm.trans hcs')
  obtain rfl : cons = cons' := Option.some.inj (hcons.symm.trans hcons')
  obtain rfl : elapsed = elapsed' := Option.some.inj (helapsed.symm.trans helapsed')
  exact not_lt.mp (of_decide_eq_false hnot)

/-- **When expired clients are not relied on.** An input respects the trusting period of a client
just when the client has not expired, or the input fails one of the conditions that its handler does
check. An upgrade always respects it, and no input but a message for a client depends on whether
clients expire. -/
theorem expired_trusted_iff (tm : H.Tendermint lib) (iso : H.Isolated) :
    (∀ (i : Input TmConsensusState μ) id, (i.ReliesOn H s id → Unexpired s id) ↔
      Unexpired s id ∨ ¬ i.Acceptable H s id) ∧
    (∀ msg s', dispatch H (.client (.upgradeClient msg)) s = (.ok (), s') →
      Unexpired s msg.clientId) ∧
    ∀ i : Input TmConsensusState μ, i.isClient = false → i.run H.neverExpiring = i.run H := by
  refine ⟨fun i id => ?_, fun msg s' hok => ?_, fun i hi => i.run_neverExpiring hi⟩
  · rw [Input.reliesOn_iff iso]
    exact imp_iff_or_not
  · exact unexpired_of_upgrade tm (dispatch_eq_ok_iff.mp hok).1

end Tendermint

/-! ### A channel over a client that expires -/

namespace TmRun

open Proto

/-- The client of this chain on the other one, and its consensus state there. -/
def selfClient : Any := ⟨"/ibc.lightclients.tendermint.v1.ClientState", validState.toRaw.encode⟩

def selfConsensusState : TmConsensusState := .ofHeader (header 4 validatorsHash)

/-- What the other chain keeps at height 1. -/
def otherStore : List (Path × Bytes) :=
  [(.connection MockRun.connectionId, (ConnectionEnd.mk .tryOpen clientId
      ⟨clientId, some MockRun.connectionId, ⟨utf8 "mock"⟩⟩ [.default] 0).toRaw.encode),
    (.clientState clientId, selfClient.encode),
    (.clientConsensusState clientId ⟨0, 4⟩, selfConsensusState.encodeVec),
    (.channelEnd .transfer MockRun.channelId, (ChannelEnd.mk .tryOpen .unordered
      ⟨.transfer, some MockRun.channelId⟩ [MockRun.connectionId] MockRun.version).toRaw.encode),
    (.commitment .transfer MockRun.channelId 1, MockRun.commitment.bytes)]

/-- The root of its IBC store. The root of the chain is that of its first block. -/
def ibcStoreRoot : Bytes := List.replicate 32 7

/-- The proofs of the entries, each with the root it leads to. -/
def otherProofs : List (ExistenceProof × Bytes) :=
  (⟨utf8 "ibc", ibcStoreRoot, [0]⟩, consensusState.root.bytes) ::
    otherStore.map fun entry => (⟨utf8 entry.1.toText, entry.2, [1]⟩, ibcStoreRoot)

/-- The proof library on these proofs. -/
def otherIcs23 : Ics23 where
  calculateExistenceRoot p := otherProofs.lookup p
  verifyMembership proof _ root key value :=
    match proof.proof with
    | some (.exist p) => p.key = key ∧ p.value = value ∧ otherProofs.lookup p = some root
    | _ => false
  verifyNonMembership _ _ _ _ := false

theorem proofOf_ne_nil (i : ℕ) : [UInt8.ofNat i] ≠ [] := List.cons_ne_nil _ _

/-- The proof of the `i`-th entry, counted from one, as it is sent. -/
def proofOf (i : ℕ) : CommitmentProofBytes := ⟨[UInt8.ofNat i], proofOf_ne_nil i⟩

/-- The sample library, with the proofs of the other chain. -/
def otherLibrary : TmLibrary :=
  { libraryFor validState with
    decodeProof := fun b =>
      match (List.range 6).find? fun i => 0 < i ∧ b = proofOf i with
      | some i => .ok ⟨[⟨(otherProofs[i]?).map (.exist ·.1)⟩, ⟨(otherProofs[0]?).map (.exist ·.1)⟩]⟩
      | none => .error .invalidRawMerkleProof
    ics23 := otherIcs23 }

def otherHost : TmHost Unit :=
  { host [] with
    lightClient := tmClient otherLibrary
    decodeClientState := fun any => Result.ofExcept .clientError (otherLibrary.clientStateOf any) }

theorem otherHost_tendermint : otherHost.Tendermint otherLibrary := ⟨rfl, fun _ => rfl⟩

theorem otherHost_isolated : otherHost.Isolated := host_isolated []

/-- The host at a time. It knows its own client and its own block at height 4. -/
def envAt (height : ℕ) (now : Timestamp) : HostEnv TmConsensusState where
  hostHeight := ⟨0, height⟩
  hostTimestamp := now
  hostConsensusState h := Result.okOr (if h = ⟨0, 4⟩ then some selfConsensusState else none)
    (.connectionError (.client (.missingLocalConsensusState h)))
  validateSelfClient any := Result.ensure (any = selfClient)
    (.connectionError (.invalidClientState "client must be a tendermint client"))

/-- A channel over the client, opened within the trusting period of two weeks. -/
def channelOpening : List (Input TmConsensusState Unit) :=
  [create validState,
    .dispatch (.connection (.openInit
      ⟨clientId, ⟨clientId, none, ⟨utf8 "ibc"⟩⟩, none, 0, MockRun.signer⟩)),
    .dispatch (.connection (.openAck ⟨MockRun.connectionId, MockRun.connectionId, selfClient,
      proofOf 1, proofOf 2, proofOf 3, ⟨0, 1⟩, ⟨0, 4⟩, .default, MockRun.signer⟩)),
    .dispatch (.channel (.openInit ⟨.transfer, [MockRun.connectionId], .transfer, .unordered,
      MockRun.signer, MockRun.version⟩)),
    .dispatch (.channel (.openAck ⟨.transfer, MockRun.channelId, MockRun.channelId, MockRun.version,
      proofOf 4, ⟨0, 1⟩, MockRun.signer⟩))]

/-- The chain at the opening, an hour after the first block of the other chain. -/
def channelStart : TmCtx Unit := ⟨.empty, (), envAt 5 now, [], [], []⟩

/-- The packet that the other chain committed to. -/
def recvMsg : MsgEnvelope := .packet (.recv ⟨MockRun.packet, proofOf 5, ⟨0, 1⟩, MockRun.signer⟩)

/-- How the sample packet is received and sent, whether there is a receipt before and after it is
received, the client it relies on, the state of the client and the time of its latest consensus
state. -/
structure TrustOutcome where
  received : Result ContextError Unit
  sent : Result ContextError Unit
  receiptBefore : Bool
  receiptAfter : Bool
  receiver : Option ClientId
  sender : Option ClientId
  client : Option TmClientState
  latest : Option TmConsensusState
  now : Timestamp
deriving DecidableEq

def trustOutcome (s : TmCtx Unit) : TrustOutcome where
  received := (dispatch otherHost recvMsg s).1
  sent := (sendPacket otherHost MockRun.packet s).1
  receiptBefore := (s.store.channel.packetReceipt MockRun.packet.keyOnB).isSome
  receiptAfter :=
    ((dispatch otherHost recvMsg s).2.store.channel.packetReceipt MockRun.packet.keyOnB).isSome
  receiver := recvMsg.clientOf s.store
  sender := s.store.clientOfChannel MockRun.packet.chanOnA
  client := s.store.client.clients.clientState clientId
  latest := s.store.client.clients.consensusState clientId ⟨0, 1⟩
  now := s.env.hostTimestamp

/-- The outcome at a time: the packet is received and sent. -/
def trustedAt (now : Timestamp) : TrustOutcome :=
  ⟨.ok (), .ok (), false, true, some clientId, some clientId, some validState, some consensusState,
    now⟩

theorem reliesOn_of_trustOutcome {s : TmCtx Unit} {now : Timestamp}
    (h : trustOutcome s = trustedAt now) :
    (Input.dispatch recvMsg).ReliesOn otherHost s clientId ∧
      (Input.sendPacket MockRun.packet).ReliesOn otherHost s clientId := by
  refine ⟨⟨rfl, congrArg TrustOutcome.receiver h, _,
    Prod.ext (congrArg TrustOutcome.received h) rfl,
    fun heq => ?_⟩, congrArg TrustOutcome.sender h, _, Prod.ext (congrArg TrustOutcome.sent h) rfl⟩
  have hbefore := congrArg TrustOutcome.receiptBefore h
  have hafter := congrArg TrustOutcome.receiptAfter h
  simp only [trustOutcome, trustedAt, heq] at hbefore hafter
  exact Bool.false_ne_true (hbefore.symm.trans hafter)

/-- The client has expired just when more than two weeks have passed. -/
theorem unexpired_of_trustOutcome {s : TmCtx Unit} {now : Timestamp}
    (h : trustOutcome s = trustedAt now) {elapsed : Duration}
    (helapsed : now.durationSince ⟨some consensusState.timestamp⟩ = some elapsed) :
    Unexpired s clientId ↔ elapsed ≤ validState.trustingPeriod := by
  have hcs := congrArg TrustOutcome.client h
  have hcons := congrArg TrustOutcome.latest h
  have hnow := congrArg TrustOutcome.now h
  simp only [trustOutcome, trustedAt] at hcs hcons hnow
  constructor
  · intro hun
    exact hun validState consensusState elapsed hcs hcons (hnow ▸ helapsed)
  · intro hle cs cons elapsed' hcs' hcons' helapsed'
    obtain rfl : validState = cs := Option.some.inj (hcs.symm.trans hcs')
    obtain rfl : consensusState = cons := Option.some.inj (hcons.symm.trans hcons')
    rw [hnow] at helapsed'
    obtain rfl : elapsed = elapsed' := Option.some.inj (helapsed.symm.trans helapsed')
    exact hle

/-- Twenty days after the first block of the other chain. -/
def twentyDaysLater : Timestamp := .fromNanoseconds 1601728001000000000

end TmRun

section TmRun

open TmRun

/-- An hour after the latest consensus state, a packet is received and one is sent. -/
theorem fresh_client_trusted : ∃ s, Reachable otherHost s ∧
    (Input.dispatch recvMsg).ReliesOn otherHost s clientId ∧
    (Input.sendPacket MockRun.packet).ReliesOn otherHost s clientId ∧ Unexpired s clientId := by
  obtain ⟨s, hs, h⟩ := Reachable.exists_of_runAll (H := otherHost) (s := channelStart)
    channelOpening trustOutcome rfl rfl (by decide +kernel : _ = some (trustedAt now))
  obtain ⟨hrecv, hsend⟩ := reliesOn_of_trustOutcome h
  have helapsed : now.durationSince ⟨some consensusState.timestamp⟩ = some 3599000000000 := by
    decide +kernel
  have hfresh := (unexpired_of_trustOutcome h helapsed).mpr (by decide)
  obtain ⟨htrusted, -, -⟩ := expired_trusted_iff (s := s) otherHost_tendermint otherHost_isolated
  have hrespects := (htrusted (.dispatch recvMsg) clientId).mpr (.inl hfresh)
  exact ⟨s, hs, hrecv, hsend, hrespects hrecv⟩

/-- Twenty days after the latest consensus state, with a trusting period of two weeks, a packet is
still received and one is still sent. -/
theorem expired_client_trusted : ∃ s, Reachable otherHost s ∧
    (Input.dispatch recvMsg).ReliesOn otherHost s clientId ∧
    (Input.sendPacket MockRun.packet).ReliesOn otherHost s clientId ∧
    s.store.client.clients.clientState clientId = some validState ∧
    s.store.client.clients.consensusState clientId ⟨0, 1⟩ = some consensusState ∧
    s.env.hostTimestamp.durationSince ⟨some consensusState.timestamp⟩ = some 1728000000000000 ∧
    validState.expired 1728000000000000 = true ∧ ¬ Unexpired s clientId := by
  obtain ⟨s, hs, h⟩ := Reachable.exists_of_runAll (H := otherHost) (s := channelStart)
    (channelOpening ++ [.newBlock (envAt 6 twentyDaysLater)]) trustOutcome rfl rfl
    (by decide +kernel : _ = some (trustedAt twentyDaysLater))
  obtain ⟨hrecv, hsend⟩ := reliesOn_of_trustOutcome h
  have helapsed : twentyDaysLater.durationSince ⟨some consensusState.timestamp⟩ =
      some 1728000000000000 := by decide +kernel
  have hnow : s.env.hostTimestamp = twentyDaysLater := congrArg TrustOutcome.now h
  refine ⟨s, hs, hrecv, hsend, congrArg TrustOutcome.client h, congrArg TrustOutcome.latest h,
    hnow ▸ helapsed, by decide, fun hun => ?_⟩
  exact absurd ((unexpired_of_trustOutcome h helapsed).mp hun) (by decide)

end TmRun

end Ibc
