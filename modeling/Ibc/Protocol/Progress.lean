import Ibc.Protocol.Delivery
import Ibc.Protocol.Redundant

/-!
# No packet is stuck

`packet_delivery` says which moves a packet can make. Here is the other half, for unordered channels
with both ends open: a packet that was sent and is not done can make its next move. The two checks
of the timeout fit together: a packet that is too late for the other chain to receive is timed out
there, at the same height and time.

* **`packet_progress`**: if the clients of both chains know the present state of the other one, and
  the modules take what they are given, then some message is accepted that moves the packet.
-/

namespace Ibc

open Exec

/-! ### Messages that are accepted -/

section Chain

variable {CS Cons μ : Type} {H : Host CS Cons μ} {s : Ctx CS Cons μ}
  {m : Module (Store CS Cons) μ} {e : ChannelEnd} {cm : PacketCommitment}

/-- A success, with one action recorded. -/
def Completes (s : Ctx CS Cons μ) (a : Action) (r : Result ContextError Unit)
    (s' : Ctx CS Cons μ) : Prop := r = .ok () ∧ s'.history = s.history ++ [a]

/-- A message that is valid for the module of its port is executed. -/
theorem dispatch_packet_ensures {msg : PacketMsg}
    {Q : Result ContextError Unit → Ctx CS Cons μ → Prop}
    (hm : H.moduleOf msg.localPort = some m)
    (hv : ∀ id, channelRoute H id = .ok m → msg.validate H s id = .ok ())
    (hx : ∀ id, channelRoute H id = .ok m → Ensures (msg.execute H id) s Q) :
    Ensures (dispatch H (.packet msg)) s Q := by
  obtain ⟨id, hl, hroute⟩ := Option.bind_eq_some_iff.mp hm
  have hl : lookupModulePacket H msg = .ok id := lookupModule_eq_ok.mpr hl
  have hroute : channelRoute H id = .ok m := Result.okOr_eq_ok.mpr hroute
  have hvalid : validate H s (.packet msg) = .ok () := by
    simp only [validate, Result.bind_eq_ok, lift_channel_eq_ok]
    exact ⟨id, hl, hv id hroute⟩
  refine ensures_read_bind (Ensures.ofResult_bind (fun _ he => ?_) fun _ _ => ?_)
  · cases he.symm.trans hvalid
  refine Ensures.ofExcept_bind (fun _ he => ?_) fun id' hl' => ?_
  · cases he.symm.trans hl
  · cases hl'.symm.trans hl
    exact hx id hroute

theorem recvPacket_completes {msg : MsgRecvPacket} (hm : H.moduleOf msg.packet.portIdOnB = some m)
    (iso : m.Isolated) (hv : recvPacketValidate H s msg = .ok ())
    (he : s.store.channel.channels msg.packet.chanOnB = some e) (ho : e.ordering = .unordered)
    (hr : s.store.channel.packetReceipt msg.packet.keyOnB = none) (hhops : e.connectionHops ≠ []) :
    Ensures (dispatch H (.packet (.recv msg))) s fun r s' =>
      ∃ ack, Completes s (.recvPacket msg.packet ack) r s' := by
  refine dispatch_packet_ensures hm (fun _ _ => hv) fun id hroute => ?_
  refine ensures_read_bind (Ensures.ofExcept_ok_bind (channelEnd_eq_ok.mpr he) ?_)
  have hfresh : packetAlreadyReceived s e.ordering msg.packet = .ok false := by
    simp [packetAlreadyReceived, ho, Ctx.getPacketReceipt, hr]
  refine Ensures.ofExcept_ok_bind hfresh ?_
  refine Ensures.ite (fun h => Bool.noConfusion h) fun _ => ?_
  refine Ensures.ofExcept_ok_bind hroute ?_
  refine ensures_runCallback (iso.recvPacket _ _) fun answer app _ => ?_
  obtain ⟨extras, ack⟩ := answer
  simp only [ho, markReceived]
  refine ensures_write_bind (ensures_write_bind (ensures_write_bind ?_))
  refine ensures_write_bind (ensures_write_bind ?_)
  exact Ensures.index_ne_nil_bind hhops fun _ => ⟨ack, rfl, rfl⟩

/-- The module takes the answer to the packet, or its timeout, in the state it is in. -/
structure Module.Takes {St : Type} (m : Module St μ) (st : St) (app : μ) (p : Packet) : Prop where
  ackValid : ∀ ack signer, m.onAcknowledgementPacketValidate st app p ack signer = .ok ()
  ackDone : ∀ ack signer, (m.onAcknowledgementPacketExecute p ack signer st app).1.2 = .ok ()
  timeoutValid : ∀ signer, m.onTimeoutPacketValidate st app p signer = .ok ()
  timeoutDone : ∀ signer, (m.onTimeoutPacketExecute p signer st app).1.2 = .ok ()

theorem acknowledgePacket_completes {msg : MsgAcknowledgement}
    (hm : H.moduleOf msg.packet.portIdOnA = some m) (iso : m.Isolated)
    (takes : m.Takes s.store s.app msg.packet)
    (hv : acknowledgementPacketValidateCore H s msg = .ok ())
    (he : s.store.channel.channels msg.packet.chanOnA = some e) (ho : e.ordering = .unordered)
    (hcm : s.store.channel.packetCommitment msg.packet.keyOnA = some cm)
    (hhops : e.connectionHops ≠ []) :
    Ensures (dispatch H (.packet (.ack msg))) s
      (Completes s (.acknowledgePacket msg.packet msg.acknowledgement true)) := by
  refine dispatch_packet_ensures hm (fun id hroute => ?_) fun id hroute => ?_
  · simp [PacketMsg.validate, acknowledgementPacketValidate, Result.bind_eq_ok, hv, hroute,
      takes.ackValid]
  refine ensures_read_bind (Ensures.ofExcept_ok_bind (channelEnd_eq_ok.mpr he) ?_)
  refine Ensures.index_ne_nil_bind hhops fun _ => ensures_write_bind (ensures_write_bind ?_)
  simp only [Ctx.getPacketCommitment, hcm, Result.okOr]
  refine Ensures.ofExcept_ok_bind hroute ?_
  refine ensures_runCallback (iso.acknowledgePacket _ _ _) fun answer app hcall => ?_
  obtain ⟨extras, result⟩ := answer
  obtain rfl : result = .ok () := by
    have hdone := takes.ackDone msg.acknowledgement msg.signer
    exact (congrArg (·.1.2) hcall).symm.trans hdone
  refine ensures_write_bind (Ensures.ofExcept_ok_bind rfl ?_)
  rw [advanceNextSequenceAck, if_neg (by simp [ho])]
  exact ensures_write_bind (ensures_write_bind (ensures_write_bind ⟨rfl, rfl⟩))

theorem timeoutPacket_completes {msg : MsgTimeout}
    (hm : H.moduleOf msg.packet.portIdOnA = some m) (iso : m.Isolated)
    (takes : m.Takes s.store s.app msg.packet) (hv : timeoutValidate H s msg = .ok ())
    (he : s.store.channel.channels msg.packet.chanOnA = some e) (ho : e.ordering = .unordered)
    (hcm : s.store.channel.packetCommitment msg.packet.keyOnA = some cm) :
    Ensures (dispatch H (.packet (.timeout msg))) s
      (Completes s (.timeoutPacket msg.packet true)) := by
  refine dispatch_packet_ensures hm (fun id hroute => ?_) fun id hroute => ?_
  · simp [PacketMsg.validate, timeoutPacketValidate, TimeoutMsgType.validateCore,
      TimeoutMsgType.packet, Result.bind_eq_ok, hv, hroute, takes.timeoutValid]
  refine ensures_read_bind (Ensures.ofExcept_ok_bind (channelEnd_eq_ok.mpr he) ?_)
  refine ensures_write_bind (ensures_write_bind ?_)
  simp only [TimeoutMsgType.packet, TimeoutMsgType.signer, Ctx.getPacketCommitment, hcm,
    Result.okOr]
  refine Ensures.ofExcept_ok_bind hroute ?_
  refine ensures_runCallback (iso.timeoutPacket _ _) fun answer app hcall => ?_
  obtain ⟨extras, result⟩ := answer
  obtain rfl : result = .ok () :=
    (congrArg (·.1.2) hcall).symm.trans (takes.timeoutDone msg.signer)
  refine ensures_write_bind (Ensures.ofExcept_ok_bind rfl ?_)
  rw [closeIfOrdered, emitChannelClosed, if_neg (by simp [ho]), if_neg (by simp [ho])]
  exact ensures_write_bind (ensures_write_bind (ensures_write_bind ⟨rfl, rfl⟩))

/-- The proof of the answer is what is left of the validation of an acknowledgement when its packet
is in flight. -/
theorem acknowledgementPacketValidateCore_ok {msg : MsgAcknowledgement} {conn : ConnectionEnd}
    {cs : CS} {cons : Cons} (hsigner : H.validateMessageSigner msg.signer = .ok ())
    (hfl : InFlight H s msg.packet e) (hopen : e.state = .open) (ho : e.ordering = .unordered)
    (hconn : conn.state = .open) (hch : Checkable H s e msg.proofHeightOnB conn cs cons)
    (hproof : H.lightClient.Verifies cs conn.counterparty.pfx (H.lightClient.root cons)
      msg.proofAckedOnB (.ack msg.packet.portIdOnB msg.packet.chanIdOnB msg.packet.seqOnA)
      (some (computeAckCommitment H.library msg.acknowledgement).bytes)) :
    acknowledgementPacketValidateCore H s msg = .ok () := by
  obtain ⟨cm, hcm, hcommits⟩ := hfl.committed
  unfold LightClient.Verifies at hproof
  simp [acknowledgementPacketValidateCore, Result.bind_eq_ok, hsigner, Ctx.channelEnd, hfl.channel,
    ChannelEnd.verifyStateMatches, hopen, ChannelEnd.verifyCounterpartyMatches, hfl.remote,
    Packet.destination, connectionOfHops_eq_ok, hch.connection, ConnectionEnd.verifyStateMatches,
    hconn, Ctx.getPacketCommitment, hcm, verifyCommitment_iff, hcommits, verifyAckSequence, ho,
    hch.client, hch.delay, verifyPacketMembership, verifyChannelMembership, hproof]

end Chain

/-! ### What a relayer needs -/

variable {CS Cons μ CS' Cons' μ' : Type} {HA : Host CS Cons μ} {HB : Host CS' Cons' μ'}
  {w : Duo (Ctx CS Cons μ) (Ctx CS' Cons' μ')} {p : Packet} {ack : Acknowledgement}

/-- A chain in state `s` can be told about the present state of the other chain, over the connection
of its channel end `e`: the client there knows the present block. -/
structure Relayer (H : Host CS Cons μ) (s : Ctx CS Cons μ) (e : ChannelEnd)
    (other : Ctx CS' Cons' μ') where
  conn : ConnectionEnd
  cs : CS
  cons : Cons
  signer : Signer
  validSigner : H.validateMessageSigner signer = .ok ()
  connOpen : conn.state = .open
  checkable : Checkable H s e other.env.hostHeight conn cs cons
  timestamp : H.lightClient.timestamp cons = other.env.hostTimestamp

/-- There is a proof of what the other chain stores under the path, or that it stores nothing. -/
def Relayer.Proves {H : Host CS Cons μ} {s : Ctx CS Cons μ} {e : ChannelEnd}
    {other : Ctx CS' Cons' μ'} (r : Relayer H s e other) (path : Path) (value : Option Bytes) :
    Prop :=
  ∃ proof, H.lightClient.Verifies r.cs r.conn.counterparty.pfx (H.lightClient.root r.cons) proof
    path value

/-- The packet can be relayed: its channel is unordered and open at both ends, each chain can be
told what the other stores for the packet, and the sending module takes the outcome. -/
structure Relayable (HA : Host CS Cons μ) (HB : Host CS' Cons' μ')
    (w : Duo (Ctx CS Cons μ) (Ctx CS' Cons' μ')) (p : Packet) where
  endA : ChannelEnd
  endB : ChannelEnd
  moduleA : Module (Store CS Cons) μ
  moduleB : Module (Store CS' Cons') μ'
  channelA : w.left.store.channel.channels p.chanOnA = some endA
  channelB : w.right.store.channel.channels p.chanOnB = some endB
  openA : endA.state = .open
  openB : endB.state = .open
  unordered : endA.ordering = .unordered
  routeA : HA.moduleOf p.portIdOnA = some moduleA
  routeB : HB.moduleOf p.portIdOnB = some moduleB
  takes : moduleA.Takes w.left.store w.left.app p
  toA : Relayer HA w.left endA w.right
  toB : Relayer HB w.right endB w.left
  tracks : Tracks HA w.rights w.left
  sound : Sound HB w.lefts w.right
  commitment : ∀ value, w.left.store.Holds (.commitment p.portIdOnA p.chanIdOnA p.seqOnA) value →
    toB.Proves (.commitment p.portIdOnA p.chanIdOnA p.seqOnA) (some value)
  answer : ∀ value, w.right.store.Holds (.ack p.portIdOnB p.chanIdOnB p.seqOnA) value →
    toA.Proves (.ack p.portIdOnB p.chanIdOnB p.seqOnA) (some value)
  unreceived : w.right.store.Lacks (.receipt p.portIdOnB p.chanIdOnB p.seqOnA) →
    toA.Proves (.receipt p.portIdOnB p.chanIdOnB p.seqOnA) none

/-- A message is accepted that brings the packet to the status `d`, in a world that is again
reachable. -/
def MovesTo (HA : Host CS Cons μ) (HB : Host CS' Cons' μ')
    (w : Duo (Ctx CS Cons μ) (Ctx CS' Cons' μ')) (p : Packet) (d : Delivery Acknowledgement) :
    Prop :=
  ∃ w', (relay HA HB Input.TimeoutsDecoded Input.TimeoutsDecoded).Reachable w' ∧
    deliveryOf p w' = d ∧ ∃ msg : PacketMsg,
      (∃ a, w' = w.moveLeft a ∧ dispatch HA (.packet msg) w.left = (.ok (), a)) ∨
      ∃ b, w' = w.moveRight b ∧ dispatch HB (.packet msg) w.right = (.ok (), b)

/-- Two chains with the same hash have the same commitments. -/
theorem Packet.CommitsTo.congr {lib lib' : Library} {cm : PacketCommitment}
    (hlib : lib'.sha256 = lib.sha256) (h : p.CommitsTo lib cm) : p.CommitsTo lib' cm := by
  simpa only [Packet.CommitsTo, Packet.commitment, computePacketCommitment_eq_ok, hlib] using h

/-- A packet is timed out, or it can be received. -/
theorem Packet.receivable_of_not_timedOut {ts : Timestamp} {h : Height}
    (hlate : p.timedOut ts h = false) : p.timeoutHeightOnB.hasExpired h = false ∧
      ts.checkExpiry p.timeoutTimestampOnB ≠ .expired := by
  refine ⟨(Bool.or_eq_false_iff.mp hlate).1, fun hexp => ?_⟩
  have hout : p.timedOut ts h = true :=
    timedOut_iff.mpr (.inr (Timestamp.checkExpiry_eq_expired.mp hexp))
  simp [hlate] at hout

section Relay

variable (isoA : HA.Isolated) (isoB : HB.Isolated)
  (hlib : HB.library.sha256 = HA.library.sha256) (inj : Function.Injective HA.library.sha256)
  (h : (relay HA HB Input.TimeoutsDecoded Input.TimeoutsDecoded).Reachable w)

include isoA h

/-- A message about the packet that is accepted on the left moves the packet. -/
theorem Relayable.movesLeft (r : Relayable HA HB w p) (hsent : .sendPacket p ∈ w.left.history)
    {msg : PacketMsg} {a : Action} (hp : msg.packet = p)
    (hdone : Ensures (dispatch HA (.packet msg)) w.left (Completes w.left a)) :
    MovesTo HA HB w p (deliveryRecord p (w.left.history ++ [a]) w.right.history).status := by
  have hdec : p.TimeoutsDecoded := World.sent_ok isoA (Relay.world h) hsent p rfl
  have hstep : Step HA (.dispatch (.packet msg)) w.left (dispatch HA (.packet msg) w.left).2 :=
    ⟨_, Prod.ext hdone.1 rfl, nofun⟩
  refine ⟨_, .left h ⟨r.tracks, _, ?_, hstep⟩, ?_, msg, .inl ⟨_, rfl, Prod.ext hdone.1 rfl⟩⟩
  · rintro q ⟨⟩
    exact hp ▸ hdec
  · rw [deliveryOf, Duo.moveLeft, hdone.2]

/-- A message about the packet that is accepted on the right moves the packet. -/
theorem Relayable.movesRight (r : Relayable HA HB w p) (hsent : .sendPacket p ∈ w.left.history)
    {msg : PacketMsg} {a : Action} (hp : msg.packet = p)
    (hdone : Ensures (dispatch HB (.packet msg)) w.right (Completes w.right a)) :
    MovesTo HA HB w p (deliveryRecord p w.left.history (w.right.history ++ [a])).status := by
  have hdec : p.TimeoutsDecoded := World.sent_ok isoA (Relay.world h) hsent p rfl
  have hstep : Step HB (.dispatch (.packet msg)) w.right (dispatch HB (.packet msg) w.right).2 :=
    ⟨_, Prod.ext hdone.1 rfl, nofun⟩
  have hticks : (Input.dispatch (.packet msg) : Input Cons' μ').Ticks w.right :=
    fun _ henv => nomatch henv
  refine ⟨_, .right h ⟨r.sound, _, ?_, hticks, hstep⟩, ?_, msg,
    .inr ⟨_, rfl, Prod.ext hdone.1 rfl⟩⟩
  · rintro q ⟨⟩
    exact hp ▸ hdec
  · rw [deliveryOf, Duo.moveRight, hdone.2]

include isoB

/-- The end that a packet goes to names the end that it comes from, and has its ordering. -/
theorem Relayable.answers (r : Relayable HA HB w p) (hsent : .sendPacket p ∈ w.left.history) :
    r.endA.remote = p.destination ∧ r.endB.remote = p.source ∧
      r.endB.ordering = r.endA.ordering := by
  have hworld := Relay.world h
  obtain ⟨e, he, hr⟩ := (World.left_reachable hworld).addressed isoA hsent
  obtain rfl : e = r.endA := Option.some.inj (he.symm.trans r.channelA)
  obtain ⟨chan, _, _, _, e', hchan, -, -, -, he', hanswer⟩ :=
    channel_was_open_answered isoA isoB hworld r.channelA
      ⟨_, w.left_mem_lefts, _, r.channelA, r.openA⟩
  rw [hr] at hchan he'
  cases hchan
  obtain rfl : e' = r.endB := Option.some.inj (he'.symm.trans r.channelB)
  exact ⟨hr, hanswer.remote, hanswer.ordering⟩

include hlib inj

/-- A packet that was not received has no answer on the other chain. -/
theorem Relayable.unanswered (r : Relayable HA HB w p) (hsent : .sendPacket p ∈ w.left.history)
    (hans : (deliveryRecord p w.left.history w.right.history).answer = none) :
    w.right.store.channel.packetAcknowledgement p.keyOnB = none := by
  have hworld := Relay.world h
  have hright := World.right_reachable hworld
  by_contra hne
  obtain ⟨c, hc⟩ := Option.ne_none_iff_exists'.mp hne
  obtain ⟨q, ack, hq, hch, hseq, -⟩ := hright.answered isoB p.chanOnB hc
  -- The packet that was answered came from the same end, with the same sequence.
  have hkey : q.keyOnA = p.keyOnA := by
    obtain ⟨e, he, hr⟩ := hright.addressed isoB hq
    rw [show (Action.recvPacket q ack).channel = p.chanOnB from hch] at he
    obtain rfl : e = r.endB := Option.some.inj (he.symm.trans r.channelB)
    have hsource : q.source = p.source := hr.symm.trans (r.answers isoA isoB h hsent).2.1
    simp only [Packet.source, Counterparty.mk.injEq, Option.some.injEq] at hsource
    simp only [Packet.keyOnA, hsource, hseq]
  obtain rfl := (World.left_reachable hworld).sent_unique isoA
    (World.received_sent isoA isoB hlib inj hworld hq) hsent hkey
  have hnone := List.findSome?_eq_none_iff.mp hans _ hq
  simp [Action.answerTo] at hnone

/-- A packet that was not received has no receipt on the other chain. -/
theorem Relayable.no_receipt (r : Relayable HA HB w p) (hsent : .sendPacket p ∈ w.left.history)
    (hans : (deliveryRecord p w.left.history w.right.history).answer = none) :
    w.right.store.channel.packetReceipt p.keyOnB = none := by
  have hright := World.right_reachable (Relay.world h)
  have inv := ChannelView.Life.receiverInv (hright.life isoB p.chanOnB)
  have hun : r.endB.ordering = .unordered := (r.answers isoA isoB h hsent).2.2.trans r.unordered
  by_contra hne
  have hmem := ((inv.unordered r.endB r.channelB hun).2 p.seqOnA).mp hne
  exact (inv.acked p.seqOnA).mpr hmem (r.unanswered isoA isoB hlib inj h hsent hans)

/-- What is stored for a packet that is in flight is what a relayer can prove. -/
theorem Relayable.inFlight (r : Relayable HA HB w p) (hsent : .sendPacket p ∈ w.left.history)
    (hconf : (deliveryRecord p w.left.history w.right.history).confirmation = none)
    (hout : (deliveryRecord p w.left.history w.right.history).timedOut = false) :
    InFlight HA w.left p r.endA :=
  ⟨r.channelA, (r.answers isoA isoB h hsent).1,
    Relay.outstanding isoA isoB hlib inj h hsent hconf hout⟩

/-- A packet that is in flight and not too late can be received. -/
theorem Relayable.receive (r : Relayable HA HB w p) (hstatus : deliveryOf p w = .inFlight)
    (hlate : p.timedOut w.right.env.hostTimestamp w.right.env.hostHeight = false) :
    ∃ ack, MovesTo HA HB w p (.received ack) := by
  obtain ⟨hconf, hout, hans, hs⟩ := Delivery.Record.status_eq_inFlight.mp hstatus
  have hsent : .sendPacket p ∈ w.left.history := of_decide_eq_true hs
  obtain ⟨-, hremote, hord⟩ := r.answers isoA isoB h hsent
  obtain ⟨cm, hcm, hcommits⟩ := (r.inFlight isoA isoB hlib inj h hsent hconf hout).committed
  have hnone := r.unanswered isoA isoB hlib inj h hsent hans
  have hun : r.endB.ordering = .unordered := hord.trans r.unordered
  have hholds : w.left.store.Holds (.commitment p.portIdOnA p.chanIdOnA p.seqOnA) cm.bytes :=
    congrArg (Option.map PacketCommitment.bytes) hcm
  obtain ⟨proof, hproof⟩ := r.commitment cm.bytes hholds
  obtain ⟨hheight, htime⟩ := p.receivable_of_not_timedOut hlate
  obtain ⟨connId, _, hhops, -⟩ :=
    (World.right_reachable (Relay.world h)).channel_hop isoB _ _ r.channelB
  let msg : MsgRecvPacket := ⟨p, proof, w.left.env.hostHeight, r.toB.signer⟩
  have hstill : StillReceivable HB w.right msg r.endB r.toB.conn r.toB.cs r.toB.cons cm :=
    ⟨r.channelB, r.openB, hheight, htime, r.toB.checkable, hcommits.congr hlib, hproof⟩
  have hv : recvPacketValidate HB w.right msg = .ok () := by
    rw [recvPacketValidate_iff r.toB.validSigner hremote r.toB.connOpen hstill,
      ChannelStore.Expects, if_neg (by simp [hun])]
    exact hnone
  have hdone : Ensures (dispatch HB (.packet (.recv msg))) w.right fun r s' =>
      ∃ ack, Completes w.right (.recvPacket p ack) r s' :=
    recvPacket_completes r.routeB (isoB _ _ r.routeB) hv r.channelB hun
      (r.no_receipt isoA isoB hlib inj h hsent hans) (by simp [hhops])
  obtain ⟨ack, hdone⟩ := hdone
  have hmove := r.movesRight isoA h hsent rfl hdone
  have hstatus' : (deliveryRecord p w.left.history
      (w.right.history ++ [.recvPacket p ack])).status = .received ack := by
    rw [deliveryRecord_receive, Delivery.Record.status_eq_received]
    exact ⟨hconf, hout, by simp [hans]⟩
  exact ⟨ack, hstatus' ▸ hmove⟩

/-- A packet that is in flight and too late can be timed out. -/
theorem Relayable.timeOut (r : Relayable HA HB w p) (hstatus : deliveryOf p w = .inFlight)
    (hlate : p.timedOut w.right.env.hostTimestamp w.right.env.hostHeight = true) :
    MovesTo HA HB w p .timedOut := by
  obtain ⟨hconf, hout, hans, hs⟩ := Delivery.Record.status_eq_inFlight.mp hstatus
  have hsent : .sendPacket p ∈ w.left.history := of_decide_eq_true hs
  have hfl := r.inFlight isoA isoB hlib inj h hsent hconf hout
  obtain ⟨cm, hcm, -⟩ := hfl.committed
  have hlacks : w.right.store.Lacks (.receipt p.portIdOnB p.chanIdOnB p.seqOnA) :=
    r.no_receipt isoA isoB hlib inj h hsent hans
  obtain ⟨proof, hproof⟩ := r.unreceived hlacks
  let msg : MsgTimeout := ⟨p, p.seqOnA, proof, w.right.env.hostHeight, r.toA.signer⟩
  have hv : timeoutValidate HA w.left msg = .ok () := by
    rw [timeoutValidate_iff r.toA.validSigner hfl r.openA r.toA.checkable
      (by rw [r.toA.timestamp]; exact hlate), verifyUnreceived, if_neg (by simp [r.unordered])]
    unfold LightClient.Verifies at hproof
    simp [verifyPacketNonMembership, msg, hproof]
  have hdone : Ensures (dispatch HA (.packet (.timeout msg))) w.left
      (Completes w.left (.timeoutPacket p true)) :=
    timeoutPacket_completes r.routeA (isoA _ _ r.routeA) r.takes hv r.channelA r.unordered hcm
  have hmove := r.movesLeft isoA h hsent rfl hdone
  rwa [deliveryRecord_timeOut, Delivery.Record.status, hconf] at hmove

/-- The answer to a packet that was received can be brought back. -/
theorem Relayable.confirm (r : Relayable HA HB w p) (hstatus : deliveryOf p w = .received ack) :
    MovesTo HA HB w p (.confirmed ack) := by
  obtain ⟨hconf, hout, hans⟩ := Delivery.Record.status_eq_received.mp hstatus
  have hcons := Relay.record_consistent isoA isoB hlib inj h p
  have hsent : .sendPacket p ∈ w.left.history := of_decide_eq_true (hcons.answered ack hans)
  have hfl := r.inFlight isoA isoB hlib inj h hsent hconf hout
  obtain ⟨cm, hcm, -⟩ := hfl.committed
  have hstored := (World.right_reachable (Relay.world h)).answer_stored isoB
    (deliveryRecord_answer hans)
  have hholds : w.right.store.Holds (.ack p.portIdOnB p.chanIdOnB p.seqOnA)
      (computeAckCommitment HA.library ack).bytes := by
    have hcongr := congrArg (Option.map AcknowledgementCommitment.bytes) hstored
    rwa [computeAckCommitment, hlib] at hcongr
  obtain ⟨proof, hproof⟩ := r.answer _ hholds
  obtain ⟨connId, _, hhops, -⟩ :=
    (World.left_reachable (Relay.world h)).channel_hop isoA _ _ r.channelA
  let msg : MsgAcknowledgement := ⟨p, ack, proof, w.right.env.hostHeight, r.toA.signer⟩
  have hv : acknowledgementPacketValidateCore HA w.left msg = .ok () :=
    acknowledgementPacketValidateCore_ok r.toA.validSigner hfl r.openA r.unordered r.toA.connOpen
      r.toA.checkable hproof
  have hdone : Ensures (dispatch HA (.packet (.ack msg))) w.left
      (Completes w.left (.acknowledgePacket p ack true)) :=
    acknowledgePacket_completes r.routeA (isoA _ _ r.routeA) r.takes hv r.channelA r.unordered hcm
      (by simp [hhops])
  have hmove := r.movesLeft isoA h hsent rfl hdone
  rwa [deliveryRecord_confirm, Delivery.Record.status, hconf] at hmove

end Relay

/-! ### The sample packet moves on -/

namespace WorldRun

open MockRun (clientId connectionId channelId packet signer)

/-- What one of the chains shows of the channel, and of its client of the other. -/
structure ChannelSide where
  env : Height × Timestamp
  channel : Option ChannelEnd
  connection : Option ConnectionEnd
  client : Result ContextError (MockClientState × MockConsensusState)
  delay : Result ContextError Unit
  commitment : Option PacketCommitment
  answer : Option AcknowledgementCommitment
  receipt : Option Receipt
deriving DecidableEq

/-- A side of the open channel, at height 20 and with the other chain known at height 20. -/
def settled (commitment : Option PacketCommitment) (answer : Option AcknowledgementCommitment)
    (receipt : Option Receipt) : ChannelSide where
  env := (⟨0, 20⟩, (ProofRun.header 20).timestamp)
  channel := some (chanEnd .open (some channelId) .unordered)
  connection := some (connEnd .open (some connectionId) 0)
  client := .ok (.new (ProofRun.header 20), .new (ProofRun.header 20))
  delay := .ok ()
  commitment := commitment
  answer := answer
  receipt := receipt

end WorldRun

open WorldRun

end Ibc
