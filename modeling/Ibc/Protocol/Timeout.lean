import Ibc.Protocol.ProofSystem
import Ibc.Protocol.Sender

/-!
# When a packet can be timed out

A packet that was sent and not resolved keeps its commitment, and the channel end it was sent on
keeps its counterparty (`Reachable.inFlight`). So the checks that are left are those about the other
chain.

* **`ordered_timeout_iff`**: on an ordered channel an honest timeout passes exactly when the other
  end expects the packet itself next. The value that is proved is the packet's sequence, not the one
  the other end has stored, so packets behind it cannot be timed out.
* **`timeoutOnClose_never_ok`**: when a proof of a value is about one path, no timeout on close
  passes. The proof of non-receipt is also taken for the proof of closure.
-/

namespace Ibc

/-! ### Packets in flight -/

namespace ChannelView

variable {lib : Library} {v v' : ChannelView} {p q : Packet} {a : Action}

/-- While the packet is unresolved, its commitment is stored. -/
def Committed (lib : Library) (v : ChannelView) (p : Packet) : Prop :=
  v.resolvedCount p.seqOnA = 0 → ∃ cm, v.commitment p.seqOnA = some cm ∧ p.CommitsTo lib cm

/-- A step that resolves no packet, and leaves the commitment of this one. -/
theorem Committed.unresolved (h : Committed lib v p)
    (hc : v'.commitment p.seqOnA = v.commitment p.seqOnA) (hh : v'.history = v.history ++ [a])
    (ha : a.resolved = none) : Committed lib v' p := by
  intro hcount
  rw [hc]
  refine h ?_
  simpa [resolvedCount, hh, ha] using hcount

/-- A step that resolves a packet `q`. -/
theorem Committed.resolves (h : Committed lib v p)
    (hc : v'.commitment = Function.update v.commitment q.seqOnA none)
    (hh : v'.history = v.history ++ [a]) (ha : a.resolved = some q) : Committed lib v' p := by
  intro hcount
  have hcount : v.resolvedCount p.seqOnA = 0 ∧ q.seqOnA ≠ p.seqOnA := by
    simpa [resolvedCount, hh, ha] using hcount
  rw [hc, Function.update_of_ne hcount.2.symm]
  exact h hcount.1

/-- Sent packets stay committed. Sequences are not reused, so sending leaves the older ones. -/
theorem Next.committed (hn : Next lib v v') (inv : SenderInv lib v)
    (h : ∀ p, .sendPacket p ∈ v.history → Committed lib v p) :
    ∀ p, .sendPacket p ∈ v'.history → Committed lib v' p := by
  have old {a : Action} {p : Packet} (hp : .sendPacket p ∈ v.history ++ [a])
      (ha : ∀ q, a ≠ .sendPacket q) : Committed lib v p := by
    refine h p ((List.mem_append.mp hp).resolve_right fun hp => ?_)
    exact ha p (List.mem_singleton.mp hp).symm
  intro p hp
  cases hn with
  | opens e _ hv => cases hp
  | moves e e' _ _ => exact h p hp
  | sends q e cm _ _ _ hseq hcm =>
    rcases List.mem_append.mp hp with hp | hp
    · obtain ⟨n, hn', -, hlt⟩ := inv.sent p hp
      obtain rfl : n = q.seqOnA := Option.some.inj (hn'.symm.trans hseq)
      exact (h p hp).unresolved (Function.update_of_ne (Nat.ne_of_lt hlt) _ _) rfl rfl
    · obtain rfl : p = q := by simpa using hp
      exact fun _ => ⟨cm, Function.update_self _ _ _, hcm⟩
  | receivesUnordered q ack | receivesOrdered q ack | acknowledgeFails q ack | timeoutFails q =>
    exact (old hp fun _ => Action.noConfusion).unresolved rfl rfl rfl
  | acknowledgesUnordered q ack | acknowledgesOrdered q ack | timesOutUnordered q
  | timesOutOrdered q =>
    exact (old hp fun _ => Action.noConfusion).resolves rfl rfl rfl

theorem Life.committed (h : Life lib v) :
    ∀ p, .sendPacket p ∈ v.history → Committed lib v p := by
  induction h with
  | refl =>
    intro p hp
    cases hp
  | tail h hn ih => exact hn.committed (Life.senderInv h) ih

end ChannelView

section Handlers

variable {CS Cons μ : Type} {H : Host CS Cons μ} {s : Ctx CS Cons μ} {e : ChannelEnd}
  {conn : ConnectionEnd} {cs : CS} {cons : Cons}

/-- The packet's commitment is stored, on a channel end whose counterparty it goes to. -/
structure InFlight (H : Host CS Cons μ) (s : Ctx CS Cons μ) (p : Packet) (e : ChannelEnd) :
    Prop where
  channel : s.store.channel.channels p.chanOnA = some e
  remote : e.remote = p.destination
  committed : ∃ cm, s.store.channel.packetCommitment p.keyOnA = some cm ∧ p.CommitsTo H.library cm

/-- A packet that was sent and not resolved is in flight. -/
theorem Reachable.inFlight (iso : H.Isolated) (h : Reachable H s) {p : Packet}
    (hsent : .sendPacket p ∈ s.history) (hunresolved : resolutions p.keyOnA s.history = 0) :
    ∃ e, InFlight H s p e := by
  have hlife := h.life iso p.chanOnA
  have hmem : .sendPacket p ∈ (s.view p.chanOnA).history := mem_view_history.mpr ⟨hsent, rfl⟩
  obtain ⟨e, he, hr⟩ := h.addressed iso hsent
  rw [resolutions_eq] at hunresolved
  exact ⟨e, he, hr, ChannelView.Life.committed hlife p hmem hunresolved⟩

/-- Proofs about the other end of `e` can be checked at height `h`: the client is active and knows
the other chain at `h`, and the delay of the connection has passed. -/
structure Checkable (H : Host CS Cons μ) (s : Ctx CS Cons μ) (e : ChannelEnd) (h : Height)
    (conn : ConnectionEnd) (cs : CS) (cons : Cons) : Prop where
  connection : s.store.connectionUnder e.connectionHops = some conn
  client : clientForProof H s conn.clientId h = .ok (cs, cons)
  delay : verifyConnDelayPassed H s h conn = .ok ()

/-- What is left of a timeout's validation when its packet is in flight: the check that the packet
was not received. -/
theorem timeoutValidate_iff {msg : MsgTimeout}
    (hsigner : H.validateMessageSigner msg.signer = .ok ()) (hfl : InFlight H s msg.packet e)
    (hopen : e.state = .open) (hch : Checkable H s e msg.proofHeightOnB conn cs cons)
    (hlate : msg.packet.timedOut (H.lightClient.timestamp cons) msg.proofHeightOnB = true) :
    timeoutValidate H s msg = .ok () ↔
      verifyUnreceived H (cs, cons) conn e.ordering msg.packet msg.nextSeqRecvOnB
        msg.proofUnreceivedOnB = .ok () := by
  obtain ⟨cm, hcm, hcommits⟩ := hfl.committed
  simp [timeoutValidate, Result.bind_eq_ok, hsigner, Ctx.channelEnd, hfl.channel,
    ChannelEnd.verifyStateMatches, hopen, ChannelEnd.verifyCounterpartyMatches, hfl.remote,
    Packet.destination, connectionOfHops_eq_ok, hch.connection, Ctx.getPacketCommitment, hcm,
    verifyCommitment_iff, hcommits, hch.client, verifyTimedOut, hlate, hch.delay]

/-- An honest timeout on an ordered channel: the packet was sent and not resolved, its timeout has
passed on the other chain, and the proof is for the sequence that chain expects next, and for no
other. -/
structure HonestTimeout (H : Host CS Cons μ) (s : Ctx CS Cons μ) (msg : MsgTimeout) (e : ChannelEnd)
    (conn : ConnectionEnd) (cs : CS) (cons : Cons) : Prop where
  reachable : Reachable H s
  signer : H.validateMessageSigner msg.signer = .ok ()
  sent : .sendPacket msg.packet ∈ s.history
  unresolved : resolutions msg.packet.keyOnA s.history = 0
  channel : s.store.channel.channels msg.packet.chanOnA = some e
  isOpen : e.state = .open
  isOrdered : e.ordering = .ordered
  checkable : Checkable H s e msg.proofHeightOnB conn cs cons
  late : msg.packet.timedOut (H.lightClient.timestamp cons) msg.proofHeightOnB = true
  unreceived : msg.nextSeqRecvOnB ≤ msg.packet.seqOnA
  proof : ∀ value, H.lightClient.Verifies cs conn.counterparty.pfx (H.lightClient.root cons)
    msg.proofUnreceivedOnB (.seqRecv msg.packet.portIdOnB msg.packet.chanIdOnB) (some value) ↔
      value = encodeU64 msg.nextSeqRecvOnB

/-- **Which packets of an ordered channel can be timed out.** Only the one the other end expects
next. -/
theorem ordered_timeout_iff (iso : H.Isolated) {msg : MsgTimeout}
    (h : HonestTimeout H s msg e conn cs cons) :
    timeoutValidate H s msg = .ok () ↔ msg.packet.seqOnA = msg.nextSeqRecvOnB := by
  obtain ⟨e', hfl⟩ := h.reachable.inFlight iso h.sent h.unresolved
  obtain rfl : e' = e := Option.some.inj (hfl.channel.symm.trans h.channel)
  rw [timeoutValidate_iff h.signer hfl h.isOpen h.checkable h.late, verifyUnreceived_iff,
    Host.ProvesUnreceived, if_pos h.isOrdered, and_iff_right h.unreceived]
  exact (h.proof _).trans ⟨encodeU64_inj, fun heq => congrArg encodeU64 heq⟩

end Handlers

namespace ProofRun

open MockRun (channelId connectionId clientId packet signer)

/-- The other end expects the first packet. -/
def factsUnreceived : ℕ → List (Path × Bytes) :=
  facts .ordered [(.seqRecv .transfer channelId, encodeU64 1)]

/-- The honest timeout of a packet, when the other end expects the first. -/
def timeout (p : Packet) : MsgTimeout :=
  ⟨p, 1, factCode (.seqRecv .transfer channelId) (some (encodeU64 1)), ⟨0, 20⟩, signer⟩

/-- This chain's connection end, once open. -/
def openConnection : ConnectionEnd :=
  ⟨.open, clientId, ⟨clientId, some connectionId, ⟨Proto.utf8 "ibc"⟩⟩, [.default], 0⟩

/-- What a message about the other chain at height 20 is checked against. -/
structure Seen where
  history : List Action
  channel : Option ChannelEnd
  connection : Option ConnectionEnd
  client : Result ContextError (MockClientState × MockConsensusState)
  delay : Result ContextError Unit
deriving DecidableEq

def seen (facts : ℕ → List (Path × Bytes)) (s : MockCtx Unit) :
    Seen where
  history := s.history
  channel := s.store.channel.channels (.transfer, channelId)
  connection := s.store.connectionUnder [connectionId]
  client := clientForProof (host facts) s clientId ⟨0, 20⟩
  delay := verifyConnDelayPassed (host facts) s ⟨0, 20⟩ openConnection

/-- What is seen after the two packets were sent. -/
def sentBoth (ordering : Order) : Seen where
  history := [.sendPacket packet, .sendPacket packet2]
  channel := some (channelEnd .open ordering)
  connection := some openConnection
  client := .ok (.new (header 20), .new (header 20))
  delay := .ok ()

theorem Seen.checkable {facts : ℕ → List (Path × Bytes)} {ordering : Order}
    {s : MockCtx Unit} (h : seen facts s = sentBoth ordering) :
    Checkable (host facts) s (channelEnd .open ordering) ⟨0, 20⟩ openConnection
      (.new (header 20)) (.new (header 20)) :=
  ⟨congrArg Seen.connection h, congrArg Seen.client h, congrArg Seen.delay h⟩

/-- Both packets can be timed out honestly. -/
theorem honestTimeout {s : MockCtx Unit} {p : Packet}
    (hs : Reachable (host factsUnreceived) s) (h : seen factsUnreceived s = sentBoth .ordered)
    (hp : p = packet ∨ p = packet2) :
    HonestTimeout (host factsUnreceived) s (timeout p) (channelEnd .open .ordered) openConnection
      (.new (header 20)) (.new (header 20)) where
  reachable := hs
  signer := rfl
  sent := by
    rw [show s.history = _ from congrArg Seen.history h]
    rcases hp with rfl | rfl <;> decide
  unresolved := by
    rw [show s.history = _ from congrArg Seen.history h]
    rcases hp with rfl | rfl <;> decide
  channel := by rcases hp with rfl | rfl <;> exact congrArg Seen.channel h
  isOpen := rfl
  isOrdered := rfl
  checkable := Seen.checkable h
  late := by rcases hp with rfl | rfl <;> decide
  unreceived := by rcases hp with rfl | rfl <;> decide
  proof value := by
    have hpath : (Path.seqRecv (timeout p).packet.portIdOnB (timeout p).packet.chanIdOnB) =
        .seqRecv .transfer channelId := by rcases hp with rfl | rfl <;> rfl
    rw [hpath]
    refine LightClient.verifies_withStore.trans ⟨fun hv => ?_, ?_⟩
    · exact (Option.some.inj (factCode_inj hv.1).2).symm
    · rintro rfl
      exact ⟨rfl, (by decide +kernel : storeUnder factsUnreceived (rootAt 20)
        (.seqRecv .transfer channelId) = some (encodeU64 1))⟩

end ProofRun

/-- The packet the other end expects can be timed out. -/
theorem first_packet_timed_out : ∃ s, Reachable (ProofRun.host ProofRun.factsUnreceived) s ∧
    timeoutValidate (ProofRun.host ProofRun.factsUnreceived) s (ProofRun.timeout MockRun.packet) =
      .ok () := by
  obtain ⟨s, hs, h⟩ := Reachable.exists_of_runAll (H := ProofRun.host ProofRun.factsUnreceived)
    (s := ProofRun.start) (ProofRun.sending .ordered) (ProofRun.seen ProofRun.factsUnreceived)
    rfl rfl (by decide +kernel : _ = some (ProofRun.sentBoth .ordered))
  exact ⟨s, hs, (ordered_timeout_iff (ProofRun.host_isolated _)
    (ProofRun.honestTimeout hs h (.inl rfl))).mpr rfl⟩

/-- The packet behind it cannot. -/
theorem second_packet_stuck : ∃ s e conn cs cons,
    HonestTimeout (ProofRun.host ProofRun.factsUnreceived) s (ProofRun.timeout ProofRun.packet2) e
      conn cs cons ∧
    timeoutValidate (ProofRun.host ProofRun.factsUnreceived) s
      (ProofRun.timeout ProofRun.packet2) ≠ .ok () := by
  obtain ⟨s, hs, h⟩ := Reachable.exists_of_runAll (H := ProofRun.host ProofRun.factsUnreceived)
    (s := ProofRun.start) (ProofRun.sending .ordered)
    (fun s => (ProofRun.seen ProofRun.factsUnreceived s,
      decide (timeoutValidate (ProofRun.host ProofRun.factsUnreceived) s
        (ProofRun.timeout ProofRun.packet2) = .ok ())))
    rfl rfl (by decide +kernel : _ = some (ProofRun.sentBoth .ordered, false))
  exact ⟨s, _, _, _, _, ProofRun.honestTimeout hs (congrArg Prod.fst h) (.inr rfl),
    of_decide_eq_false (congrArg Prod.snd h)⟩

section Handlers

variable {CS Cons μ : Type} {H : Host CS Cons μ} {s : Ctx CS Cons μ}

/-- A timeout on close of a packet in flight has its one proof verified under two paths. -/
theorem timeoutOnCloseValidate_verifies {msg : MsgTimeoutOnClose} {cm : PacketCommitment}
    (h : timeoutOnCloseValidate H s msg = .ok ())
    (hcm : s.store.channel.packetCommitment msg.packet.keyOnA = some cm) :
    ∃ cs pfx root path path' value value', path ≠ path' ∧
      H.lightClient.Verifies cs pfx root msg.proofUnreceivedOnB path (some value) ∧
      H.lightClient.Verifies cs pfx root msg.proofUnreceivedOnB path' value' := by
  simp only [timeoutOnCloseValidate, Result.bind_eq_ok, Ctx.getPacketCommitment, hcm,
    Result.okOr_some, lift_packet_eq_ok, verifyPacketMembership_iff, verifyUnreceived_iff] at h
  obtain ⟨-, -, e, -, -, -, -, -, conn, -, client, -, ids, -, expected, -, _, hclosed, -, -,
    hunreceived⟩ := h
  -- The same proof now verifies for the other end and for a sequence, or for an absent receipt.
  unfold Host.ProvesUnreceived at hunreceived
  split_ifs at hunreceived
  · exact ⟨_, _, _, .channelEnd _ _, .seqRecv _ _, _, some _, by simp, hclosed, hunreceived.2⟩
  · exact ⟨_, _, _, .channelEnd _ _, .receipt _ _ _, _, none, by simp, hclosed, hunreceived⟩

/-- **A timeout on close never passes.** For a packet whose commitment is stored, both checks of the
message take the one proof, for two facts. -/
theorem timeoutOnClose_never_ok (binds : H.lightClient.BindsPath) {msg : MsgTimeoutOnClose}
    {cm : PacketCommitment}
    (hcm : s.store.channel.packetCommitment msg.packet.keyOnA = some cm) :
    timeoutOnCloseValidate H s msg ≠ .ok () := by
  intro hok
  obtain ⟨cs, pfx, root, path, path', value, value', hne, hv, hv'⟩ :=
    timeoutOnCloseValidate_verifies hok hcm
  exact hne (binds _ _ _ _ _ _ _ _ hv hv')

/-- An honest timeout on close: the packet was sent and not resolved, and one proof is for the other
end, which is closed, the other for the packet not being received. -/
structure HonestTimeoutOnClose (H : Host CS Cons μ) (s : Ctx CS Cons μ) (msg : MsgTimeoutOnClose)
    (e : ChannelEnd) (conn : ConnectionEnd) (cs : CS) (cons : Cons) : Prop where
  reachable : Reachable H s
  signer : H.validateMessageSigner msg.signer = .ok ()
  sent : .sendPacket msg.packet ∈ s.history
  unresolved : resolutions msg.packet.keyOnA s.history = 0
  channel : s.store.channel.channels msg.packet.chanOnA = some e
  checkable : Checkable H s e msg.proofHeightOnB conn cs cons
  closed : ∃ connIdOnB, conn.counterparty.connectionId = some connIdOnB ∧
    H.lightClient.Verifies cs conn.counterparty.pfx (H.lightClient.root cons) msg.proofCloseOnB
      (.channelEnd msg.packet.portIdOnB msg.packet.chanIdOnB)
      (some (⟨.closed, e.ordering, msg.packet.source, [connIdOnB], e.version⟩ :
        ChannelEnd).toRaw.encode)
  unreceived :
    if e.ordering = .ordered then msg.nextSeqRecvOnB ≤ msg.packet.seqOnA ∧
      H.lightClient.Verifies cs conn.counterparty.pfx (H.lightClient.root cons)
        msg.proofUnreceivedOnB (.seqRecv msg.packet.portIdOnB msg.packet.chanIdOnB)
        (some (encodeU64 msg.nextSeqRecvOnB))
    else
      H.lightClient.Verifies cs conn.counterparty.pfx (H.lightClient.root cons)
        msg.proofUnreceivedOnB
        (.receipt msg.packet.portIdOnB msg.packet.chanIdOnB msg.packet.seqOnA) none

end Handlers

namespace ProofRun

open MockRun (channelId packet signer)

/-- The other end is closed, and received nothing. -/
def factsClosed : ℕ → List (Path × Bytes) :=
  facts .unordered
    [(.channelEnd .transfer channelId, (channelEnd .closed .unordered).toRaw.encode)]

def timeoutOnClose : MsgTimeoutOnClose :=
  ⟨packet, 1, factCode (.receipt .transfer channelId 1) none,
    factCode (.channelEnd .transfer channelId)
      (some (channelEnd .closed .unordered).toRaw.encode), ⟨0, 20⟩, signer⟩

end ProofRun

/-- The timeout of a packet in flight on a closed channel is refused. -/
theorem closed_packet_refused : ∃ s, Reachable (ProofRun.host ProofRun.factsClosed) s ∧
    s.store.channel.packetCommitment MockRun.packet.keyOnA ≠ none ∧
    timeoutOnCloseValidate (ProofRun.host ProofRun.factsClosed) s ProofRun.timeoutOnClose ≠
      .ok () := by
  obtain ⟨s, hs, h⟩ := Reachable.exists_of_runAll (H := ProofRun.host ProofRun.factsClosed)
    (s := ProofRun.start) (ProofRun.sending .unordered)
    (fun s => (s.store.channel.packetCommitment MockRun.packet.keyOnA).isSome)
    rfl rfl (by decide +kernel : _ = some true)
  obtain ⟨cm, hcm⟩ := Option.isSome_iff_exists.mp h
  exact ⟨s, hs, by simp [hcm], timeoutOnClose_never_ok LightClient.oneFact_withStore.bindsPath hcm⟩

/-- Also with honest proofs of both facts, in a proof system that is complete. -/
theorem honest_close_stuck : ∃ s e conn cs cons,
    (ProofRun.host ProofRun.factsClosed).lightClient.OneFact ∧
    (ProofRun.host ProofRun.factsClosed).lightClient.Complete
      (ProofRun.storeUnder ProofRun.factsClosed) ∧
    HonestTimeoutOnClose (ProofRun.host ProofRun.factsClosed) s ProofRun.timeoutOnClose e conn cs
      cons ∧
    timeoutOnCloseValidate (ProofRun.host ProofRun.factsClosed) s ProofRun.timeoutOnClose ≠
      .ok () := by
  obtain ⟨s, hs, h⟩ := Reachable.exists_of_runAll (H := ProofRun.host ProofRun.factsClosed)
    (s := ProofRun.start) (ProofRun.sending .unordered)
    (fun s => (ProofRun.seen ProofRun.factsClosed s,
      decide (timeoutOnCloseValidate (ProofRun.host ProofRun.factsClosed) s
        ProofRun.timeoutOnClose = .ok ())))
    rfl rfl (by decide +kernel : _ = some (ProofRun.sentBoth .unordered, false))
  have hseen := congrArg Prod.fst h
  have hhistory : s.history = _ := congrArg ProofRun.Seen.history hseen
  refine ⟨s, _, _, _, _, LightClient.oneFact_withStore, LightClient.complete_withStore, ⟨hs, rfl,
    by rw [hhistory]; decide, by rw [hhistory]; decide, congrArg ProofRun.Seen.channel hseen,
    ProofRun.Seen.checkable hseen, ⟨MockRun.connectionId, rfl, ?_⟩, ?_⟩,
    of_decide_eq_false (congrArg Prod.snd h)⟩
  · exact LightClient.verifies_withStore.mpr ⟨rfl, by decide +kernel⟩
  · rw [if_neg (by decide)]
    exact LightClient.verifies_withStore.mpr ⟨rfl, by decide +kernel⟩

end Ibc
