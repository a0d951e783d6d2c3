import Ibc.Protocol.Exclusive
import Ibc.Protocol.Fifo
import Ibc.Protocol.Timeout
import Ibc.Support.Delivery

/-!
# Every packet is delivered as a message is

Two chains run the handshakes and the packet life cycle in any interleaving, with sound clients of
each other, and the clients of the first know when the second was in which state. For one packet
from the first to the second all of this is a `Delivery`: its status is read off the two histories
(`deliveryOf`).

* **`packet_delivery`**: whatever either chain does next, the status of a packet stays or makes one
  move of a delivery, and the two stores hold what the status says. So a packet that was received is
  not timed out, one that was timed out is not received, each is received and confirmed at most
  once, and the answer that comes back is the one that was given.
-/

namespace Ibc

variable {CS Cons μ CS' Cons' μ' : Type} {HA : Host CS Cons μ} {HB : Host CS' Cons' μ'}
  {w : Duo (Ctx CS Cons μ) (Ctx CS' Cons' μ')} {p : Packet} {ack : Acknowledgement}

/-! ### The status of a packet -/

/-- The answer of the module to the packet, if it was handed over. -/
def Action.answerTo (p : Packet) : Action → Option Acknowledgement
  | .recvPacket q ack => if q = p then some ack else none
  | _ => none

/-- The answer that came back to the packet, if its callback was run with success. -/
def Action.confirmationOf (p : Packet) : Action → Option Acknowledgement
  | .acknowledgePacket q ack true => if q = p then some ack else none
  | _ => none

theorem Action.answerTo_eq_some {a : Action} :
    a.answerTo p = some ack ↔ a = .recvPacket p ack := by
  cases a <;> simp [answerTo, and_comm]

theorem Action.confirmationOf_eq_some {a : Action} :
    a.confirmationOf p = some ack ↔ a = .acknowledgePacket p ack true := by
  unfold confirmationOf
  split <;> simp_all [and_comm]

/-- What the two chains have recorded of a packet from the left to the right. -/
def deliveryRecord (p : Packet) (sender receiver : List Action) :
    Delivery.Record Acknowledgement where
  sent := decide (.sendPacket p ∈ sender)
  answer := receiver.findSome? (Action.answerTo p)
  confirmation := sender.findSome? (Action.confirmationOf p)
  timedOut := decide (.timeoutPacket p true ∈ sender)

/-- How far a packet has come. -/
def deliveryOf (p : Packet) (w : Duo (Ctx CS Cons μ) (Ctx CS' Cons' μ')) :
    Delivery Acknowledgement :=
  (deliveryRecord p w.left.history w.right.history).status

theorem deliveryRecord_answer {sender receiver : List Action}
    (h : (deliveryRecord p sender receiver).answer = some ack) : .recvPacket p ack ∈ receiver := by
  obtain ⟨a, ha, hack⟩ := List.exists_of_findSome?_eq_some h
  rwa [← Action.answerTo_eq_some.mp hack]

theorem deliveryRecord_confirmation {sender receiver : List Action}
    (h : (deliveryRecord p sender receiver).confirmation = some ack) :
    .acknowledgePacket p ack true ∈ sender := by
  obtain ⟨a, ha, hack⟩ := List.exists_of_findSome?_eq_some h
  rwa [← Action.confirmationOf_eq_some.mp hack]

/-! ### One more action -/

section Concat

variable {sender receiver : List Action} {a : Action}

/-- An action that is not about the packet adds nothing to what the sender knows. -/
theorem deliveryRecord_sender_other (hs : a ≠ .sendPacket p) (ht : a ≠ .timeoutPacket p true)
    (hc : a.confirmationOf p = none) :
    deliveryRecord p (sender ++ [a]) receiver = deliveryRecord p sender receiver := by
  simp [deliveryRecord, List.findSome?_append, hc, hs.symm, ht.symm]

theorem deliveryRecord_timeOut :
    deliveryRecord p (sender ++ [.timeoutPacket p true]) receiver =
      { deliveryRecord p sender receiver with timedOut := true } := by
  simp [deliveryRecord, List.findSome?_append, Action.confirmationOf]

theorem deliveryRecord_confirm :
    deliveryRecord p (sender ++ [.acknowledgePacket p ack true]) receiver =
      { deliveryRecord p sender receiver with
        confirmation := (deliveryRecord p sender receiver).confirmation.or (some ack) } := by
  simp [deliveryRecord, List.findSome?_append, Action.confirmationOf]

theorem deliveryRecord_receive :
    deliveryRecord p sender (receiver ++ [.recvPacket p ack]) =
      { deliveryRecord p sender receiver with
        answer := (deliveryRecord p sender receiver).answer.or (some ack) } := by
  simp [deliveryRecord, List.findSome?_append, Action.answerTo]

/-- One action of the sender is at most one move of the packet. -/
theorem deliveryRecord_sender_step (h : (deliveryRecord p sender receiver).Consistent)
    (h' : (deliveryRecord p (sender ++ [a]) receiver).Consistent) :
    (deliveryRecord p (sender ++ [a]) receiver).status =
        (deliveryRecord p sender receiver).status ∨
      (deliveryRecord p sender receiver).status.Next
        (deliveryRecord p (sender ++ [a]) receiver).status := by
  by_cases hs : a = .sendPacket p
  · subst hs
    have hadd : deliveryRecord p (sender ++ [.sendPacket p]) receiver =
        { deliveryRecord p sender receiver with sent := true } := by
      simp [deliveryRecord, List.findSome?_append, Action.confirmationOf]
    rw [hadd]
    exact Delivery.Record.status_send h
  by_cases ht : a = .timeoutPacket p true
  · subst ht
    rw [deliveryRecord_timeOut] at h' ⊢
    exact Delivery.Record.status_giveUp h'
  cases hc : a.confirmationOf p with
  | none => exact .inl (by rw [deliveryRecord_sender_other hs ht hc])
  | some ack =>
    cases Action.confirmationOf_eq_some.mp hc
    rw [deliveryRecord_confirm] at h' ⊢
    exact Delivery.Record.status_confirm h h'

/-- One action of the receiver is at most one move of the packet. -/
theorem deliveryRecord_receiver_step (h : (deliveryRecord p sender receiver).Consistent)
    (h' : (deliveryRecord p sender (receiver ++ [a])).Consistent) :
    (deliveryRecord p sender (receiver ++ [a])).status =
        (deliveryRecord p sender receiver).status ∨
      (deliveryRecord p sender receiver).status.Next
        (deliveryRecord p sender (receiver ++ [a])).status := by
  cases ha : a.answerTo p with
  | none => exact .inl (by simp [deliveryRecord, List.findSome?_append, ha])
  | some ack =>
    cases Action.answerTo_eq_some.mp ha
    rw [deliveryRecord_receive] at h' ⊢
    exact Delivery.Record.status_receive h h'

end Concat

/-! ### What the two stores hold -/

/-- The commitment to the packet is stored on the sending chain. -/
def Outstanding (HA : Host CS Cons μ) (s : Ctx CS Cons μ) (p : Packet) : Prop :=
  ∃ cm, s.store.channel.packetCommitment p.keyOnA = some cm ∧ p.CommitsTo HA.library cm

/-- The stores of a world in which the packet has come so far. -/
def StoredAs (HA : Host CS Cons μ) (HB : Host CS' Cons' μ')
    (w : Duo (Ctx CS Cons μ) (Ctx CS' Cons' μ')) (p : Packet) : Delivery Acknowledgement → Prop
  | .unsent => True
  | .inFlight => Outstanding HA w.left p
  | .received ack => Outstanding HA w.left p ∧
      w.right.store.channel.packetAcknowledgement p.keyOnB =
        some (computeAckCommitment HB.library ack)
  | .confirmed ack => w.left.store.channel.packetCommitment p.keyOnA = none ∧
      w.right.store.channel.packetAcknowledgement p.keyOnB =
        some (computeAckCommitment HB.library ack)
  | .timedOut => w.left.store.channel.packetCommitment p.keyOnA = none

section Chain

variable {H : Host CS Cons μ} {s : Ctx CS Cons μ}

/-- A packet whose callback was run with success has no commitment. -/
theorem Reachable.uncommitted (iso : H.Isolated) (h : Reachable H s) {a : Action}
    (ha : a ∈ s.history) (hr : a.resolved = some p) :
    s.store.channel.packetCommitment p.keyOnA = none := by
  have inv := ChannelView.Life.senderInv (h.life iso p.chanOnA)
  by_contra hne
  obtain ⟨cm, hcm⟩ := Option.ne_none_iff_exists'.mp hne
  have hzero := (resolutions_eq p.keyOnA s).trans (inv.inFlight p.seqOnA cm hcm)
  have hpos : 0 < resolutions p.keyOnA s.history :=
    List.countP_pos_iff.mpr ⟨a, ha, decide_eq_true (by rw [hr]; rfl)⟩
  omega

/-- The answer to a packet that was handed over is stored. -/
theorem Reachable.answer_stored (iso : H.Isolated) (h : Reachable H s)
    (hp : .recvPacket p ack ∈ s.history) :
    s.store.channel.packetAcknowledgement p.keyOnB =
      some (computeAckCommitment H.library ack) := by
  have inv := ChannelView.Life.receiverInv (h.life iso p.chanOnB)
  have hmem : p.seqOnA ∈ (s.view p.chanOnB).received :=
    List.mem_filterMap.mpr ⟨_, mem_view_history.mpr ⟨hp, rfl⟩, rfl⟩
  obtain ⟨c, hc⟩ := Option.ne_none_iff_exists'.mp ((inv.acked p.seqOnA).mpr hmem)
  obtain ⟨q, ack', hq, hch, hseq, rfl⟩ := h.answered iso p.chanOnB hc
  have hkey : q.keyOnB = p.keyOnB := by
    simp only [Packet.chanOnB, Prod.mk.injEq] at hch
    simp only [Packet.keyOnB, hch, hseq]
  cases h.received_unique iso hq hp hkey
  exact hc

end Chain

/-! ### Two chains -/

section Relay

variable (isoA : HA.Isolated) (isoB : HB.Isolated)
  (hlib : HB.library.sha256 = HA.library.sha256) (inj : Function.Injective HA.library.sha256)
  (h : (relay HA HB Input.TimeoutsDecoded Input.TimeoutsDecoded).Reachable w)

include isoA isoB hlib inj h

/-- What the two chains have recorded of a packet is consistent. -/
theorem Relay.record_consistent (p : Packet) :
    (deliveryRecord p w.left.history w.right.history).Consistent := by
  have hworld := Relay.world h
  refine ⟨fun ack hack => ?_, fun ack hack => ?_, fun hout => ?_⟩
  · exact decide_eq_true
      (World.received_sent isoA isoB hlib inj hworld (deliveryRecord_answer hack))
  · have hrecv := (World.acknowledged isoA isoB hlib inj hworld p ack true
      (deliveryRecord_confirmation hack)).2
    cases hans : (deliveryRecord p w.left.history w.right.history).answer with
    | none =>
      have hnone := List.findSome?_eq_none_iff.mp hans _ hrecv
      simp [Action.answerTo] at hnone
    | some ack' =>
      cases (World.right_reachable hworld).received_unique isoB hrecv
        (deliveryRecord_answer hans) rfl
      rfl
  · have hmem : .timeoutPacket p true ∈ w.left.history := of_decide_eq_true hout
    refine ⟨decide_eq_true (World.timedOut_sent isoA inj hworld hmem).1, ?_⟩
    cases hans : (deliveryRecord p w.left.history w.right.history).answer with
    | none => rfl
    | some ack =>
      exact (Relay.received_not_timedOut isoA isoB inj h (deliveryRecord_answer hans) hmem).elim

/-- A packet that was sent is outstanding until it is confirmed or timed out. -/
theorem Relay.outstanding (hsent : .sendPacket p ∈ w.left.history)
    (hconf : (deliveryRecord p w.left.history w.right.history).confirmation = none)
    (hout : (deliveryRecord p w.left.history w.right.history).timedOut = false) :
    Outstanding HA w.left p := by
  have hworld := Relay.world h
  have hleft := World.left_reachable hworld
  -- Under the key of the packet no other packet was sent, so none was resolved.
  have hnone : resolutions p.keyOnA w.left.history = 0 := by
    refine List.countP_eq_zero.mpr fun a ha hres => ?_
    obtain ⟨q, hq, hkey⟩ := Option.map_eq_some_iff.mp (of_decide_eq_true hres)
    unfold Action.resolved at hq
    split at hq
    · cases hq
      have hq := (World.acknowledged isoA isoB hlib inj hworld _ _ _ ha).1
      obtain rfl := hleft.sent_unique isoA hq hsent hkey
      simpa [Action.confirmationOf] using List.findSome?_eq_none_iff.mp hconf _ ha
    · cases hq
      obtain rfl := hleft.sent_unique isoA (World.timedOut_sent isoA inj hworld ha).1 hsent hkey
      exact of_decide_eq_false hout ha
    · cases hq
  obtain ⟨e, hfl⟩ := hleft.inFlight isoA hsent hnone
  exact hfl.committed

/-- The two stores hold what the status of a packet says. -/
theorem Relay.stored (p : Packet) : StoredAs HA HB w p (deliveryOf p w) := by
  have hworld := Relay.world h
  have hleft := World.left_reachable hworld
  have hright := World.right_reachable hworld
  have hcons := Relay.record_consistent isoA isoB hlib inj h p
  have hanswer {ack : Acknowledgement}
      (hans : (deliveryRecord p w.left.history w.right.history).answer = some ack) :
      w.right.store.channel.packetAcknowledgement p.keyOnB =
        some (computeAckCommitment HB.library ack) :=
    hright.answer_stored isoB (deliveryRecord_answer hans)
  unfold deliveryOf Delivery.Record.status
  split
  next ack hc =>
    exact ⟨hleft.uncommitted isoA (deliveryRecord_confirmation hc) rfl,
      hanswer (hcons.confirmed ack hc)⟩
  next hc ht => exact hleft.uncommitted isoA (of_decide_eq_true ht) rfl
  next ack hc ht ha =>
    have hsent := of_decide_eq_true (hcons.answered ack ha)
    exact ⟨Relay.outstanding isoA isoB hlib inj h hsent hc ht, hanswer ha⟩
  next hc ht ha hs =>
    exact Relay.outstanding isoA isoB hlib inj h (of_decide_eq_true hs) hc ht
  next => trivial

/-- **A packet is delivered as a message is.** In every reachable world the two stores hold what the
status of a packet says, and whatever either chain does next, the status stays or makes one move of
a delivery. -/
theorem packet_delivery (p : Packet) :
    StoredAs HA HB w p (deliveryOf p w) ∧
    (∀ a, (relay HA HB Input.TimeoutsDecoded Input.TimeoutsDecoded).stepLeft w.rights w.left a →
      deliveryOf p (w.moveLeft a) = deliveryOf p w ∨
        (deliveryOf p w).Next (deliveryOf p (w.moveLeft a))) ∧
    ∀ b, (relay HA HB Input.TimeoutsDecoded Input.TimeoutsDecoded).stepRight w.lefts w.right b →
      deliveryOf p (w.moveRight b) = deliveryOf p w ∨
        (deliveryOf p w).Next (deliveryOf p (w.moveRight b)) := by
  have hcons := Relay.record_consistent isoA isoB hlib inj h p
  refine ⟨Relay.stored isoA isoB hlib inj h p, fun a hs => ?_, fun b hs => ?_⟩
  · have hcons' := Relay.record_consistent isoA isoB hlib inj (.left h hs) p
    obtain ⟨-, i, -, hstep⟩ := hs
    simp only [deliveryOf, Duo.moveLeft] at hcons' ⊢
    rcases hstep.history_concat isoA with heq | ⟨act, heq⟩
    · exact .inl (by rw [heq])
    · rw [heq] at hcons' ⊢
      exact deliveryRecord_sender_step hcons hcons'
  · have hcons' := Relay.record_consistent isoA isoB hlib inj (.right h hs) p
    obtain ⟨-, i, -, -, hstep⟩ := hs
    simp only [deliveryOf, Duo.moveRight] at hcons' ⊢
    rcases hstep.history_concat isoB with heq | ⟨act, heq⟩
    · exact .inl (by rw [heq])
    · rw [heq] at hcons' ⊢
      exact deliveryRecord_receiver_step hcons hcons'

end Relay

open WorldRun

/-- The sample packet, received: its commitment is kept until its answer comes back. -/
theorem sample_packet_received : ∃ w,
    (relay timelyHost receiverHost Input.TimeoutsDecoded Input.TimeoutsDecoded).Reachable w ∧
    deliveryOf MockRun.packet w = .received dummyAcknowledgement ∧
    StoredAs timelyHost receiverHost w MockRun.packet (.received dummyAcknowledgement) := by
  have start : ProofRun.start.Fresh := ⟨rfl, rfl⟩
  have first : firstBlock.Fresh := ⟨rfl, rfl⟩
  have set : firstBlock.env.hostTimestamp.time ≠ none := by decide
  obtain ⟨w, hw, hstatus⟩ := exists_of_runMoves
    (C := relayChecks timelyHost_showing receiverHost_mockLike Input.TimeoutsDecoded
      Input.TimeoutsDecoded)
    timelyHost_showing.toMockLike receiverHost_mockLike
    (Sample.valid_start start ⟨first, set⟩ start first) delivering (deliveryOf MockRun.packet)
    (by decide +kernel : _ = some (.received dummyAcknowledgement))
  have hstored := (packet_delivery timelyHost_showing.isolated receiverHost_mockLike.isolated rfl
    MockRun.sha256_injective hw MockRun.packet).1
  rw [hstatus] at hstored
  exact ⟨w, hw, hstatus, hstored⟩

end Ibc
