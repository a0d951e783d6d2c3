import Ibc.Protocol.MockRun

/-!
# The receiving side

**`delivered_exactly_once`**: on an unordered channel end a packet is handed to the module at most
once, on an ordered one the packets are handed over in sequence without gap or repetition, and
either way an acknowledgement is kept for exactly the packets handed over.

It is an invariant of the life of one channel end, `ChannelView.ReceiverInv`.
-/

namespace Ibc

/-- The sequence of a packet handed to the module. -/
def Action.received : Action → Option Sequence
  | .recvPacket p _ => some p.seqOnA
  | _ => none

/-- The sequences of the packets handed to the module on a channel end, in order. -/
def receivedOn (key : ChannelKey) (history : List Action) : List Sequence :=
  (history.filter fun a => a.channel = key).filterMap Action.received

namespace ChannelView

variable {lib : Library} {v v' : ChannelView}

/-- The sequences received, in order. -/
def received (v : ChannelView) : List Sequence := v.history.filterMap Action.received

/-- Receipts, the next sequence to receive and the acknowledgements agree with what was received. -/
structure ReceiverInv (lib : Library) (v : ChannelView) : Prop where
  acked : ∀ seq, v.ack seq ≠ none ↔ seq ∈ v.received
  answered : ∀ seq c, v.ack seq = some c →
    ∃ p a, .recvPacket p a ∈ v.history ∧ p.seqOnA = seq ∧ c = computeAckCommitment lib a
  unordered : ∀ e, v.channel = some e → e.ordering = .unordered →
    v.received.Nodup ∧ ∀ seq, v.receipt seq ≠ none ↔ seq ∈ v.received
  ordered : ∀ e, v.channel = some e → e.ordering = .ordered →
    ∃ n, v.received = List.range' 1 n ∧ v.nextRecv = some (n + 1)

namespace ReceiverInv

variable {e : ChannelEnd} {p : Packet} {a : Acknowledgement}

theorem empty (lib : Library) : ReceiverInv lib .empty where
  acked _ := ⟨fun h => absurd rfl h, fun h => nomatch h⟩
  answered _ _ h := nomatch h
  unordered _ h := nomatch h
  ordered _ h := nomatch h

theorem received_append (v : ChannelView) (p : Packet) (a : Acknowledgement) :
    (v.history ++ [Action.recvPacket p a]).filterMap Action.received =
      v.received ++ [p.seqOnA] := by
  simp [received, Action.received]

/-- The acknowledgement of a packet just received joins those of the packets before it. -/
theorem acked_update (h : ReceiverInv lib v) (c : AcknowledgementCommitment) (seq : Sequence) :
    Function.update v.ack p.seqOnA (some c) seq ≠ none ↔ seq ∈ v.received ++ [p.seqOnA] := by
  by_cases hseq : seq = p.seqOnA
  · simp [hseq]
  · simpa [hseq] using h.acked seq

theorem answered_update (h : ReceiverInv lib v) (p : Packet) (a : Acknowledgement)
    (seq : Sequence) (c : AcknowledgementCommitment)
    (hc : Function.update v.ack p.seqOnA (some (computeAckCommitment lib a)) seq = some c) :
    ∃ q b, .recvPacket q b ∈ v.history ++ [.recvPacket p a] ∧ q.seqOnA = seq ∧
      c = computeAckCommitment lib b := by
  by_cases hseq : seq = p.seqOnA
  · subst hseq
    obtain rfl : computeAckCommitment lib a = c := by simpa using hc
    exact ⟨p, a, by simp, rfl, rfl⟩
  · obtain ⟨q, b, hq, hqs, hb⟩ := h.answered seq c (by simpa [hseq] using hc)
    exact ⟨q, b, List.mem_append_left _ hq, hqs, hb⟩

theorem receiveUnordered (h : ReceiverInv lib v) (he : v.channel = some e)
    (ho : e.ordering = .unordered) (hn : v.receipt p.seqOnA = none) :
    ReceiverInv lib { v with
      receipt := Function.update v.receipt p.seqOnA (some .ok)
      ack := Function.update v.ack p.seqOnA (some (computeAckCommitment lib a))
      history := v.history ++ [.recvPacket p a] } where
  acked seq := by
    rw [received, received_append]
    exact h.acked_update _ seq
  answered := h.answered_update p a
  unordered e' he' _ := by
    obtain ⟨hnd, hiff⟩ := h.unordered e he ho
    have hnew : p.seqOnA ∉ v.received := fun hmem => (hiff p.seqOnA).mpr hmem hn
    rw [received, received_append]
    refine ⟨hnd.append (List.nodup_singleton _) (by simpa using hnew), fun seq => ?_⟩
    by_cases hseq : seq = p.seqOnA
    · simp [hseq]
    · simpa [hseq] using hiff seq
  ordered e' he' ho' := by
    obtain rfl : e = e' := Option.some.inj (he.symm.trans he')
    rw [ho] at ho'
    cases ho'

theorem receiveOrdered (h : ReceiverInv lib v) (he : v.channel = some e)
    (ho : e.ordering = .ordered) (hn : v.nextRecv = some p.seqOnA) :
    ReceiverInv lib { v with
      nextRecv := some (p.seqOnA + 1)
      ack := Function.update v.ack p.seqOnA (some (computeAckCommitment lib a))
      history := v.history ++ [.recvPacket p a] } where
  acked seq := by
    rw [received, received_append]
    exact h.acked_update _ seq
  answered := h.answered_update p a
  unordered e' he' ho' := by
    obtain rfl : e = e' := Option.some.inj (he.symm.trans he')
    rw [ho] at ho'
    cases ho'
  ordered e' he' _ := by
    obtain ⟨n, hrec, hnext⟩ := h.ordered e he ho
    obtain hseq : n + 1 = p.seqOnA := Option.some.inj (hnext.symm.trans hn)
    refine ⟨n + 1, ?_, by rw [hseq]⟩
    rw [received, received_append, hrec, List.range'_concat, Nat.one_mul, Nat.add_comm 1 n, hseq]

/-- A step that receives nothing. -/
theorem neutral (h : ReceiverInv lib v) (hch : ∀ e', v'.channel = some e' →
      ∃ e, v.channel = some e ∧ e'.ordering = e.ordering)
    (hrecv : v'.nextRecv = v.nextRecv) (hrc : v'.receipt = v.receipt) (hack : v'.ack = v.ack)
    (hmem : ∀ b, b ∈ v.history → b ∈ v'.history) (hrec : v'.received = v.received) :
    ReceiverInv lib v' where
  acked seq := by rw [hack, hrec]; exact h.acked seq
  answered seq c hc := by
    obtain ⟨p, a, hp, hs, ha⟩ := h.answered seq c (hack ▸ hc)
    exact ⟨p, a, hmem _ hp, hs, ha⟩
  unordered e' he' ho := by
    obtain ⟨e, he, heq⟩ := hch e' he'
    rw [hrec, hrc]
    exact h.unordered e he (heq ▸ ho)
  ordered e' he' ho := by
    obtain ⟨e, he, heq⟩ := hch e' he'
    rw [hrec, hrecv]
    exact h.ordered e he (heq ▸ ho)

theorem next (h : ReceiverInv lib v) (hn : Next lib v v') : ReceiverInv lib v' := by
  have hsame : ∀ e', v.channel = some e' → ∃ e, v.channel = some e ∧ e'.ordering = e.ordering :=
    fun e' he' => ⟨e', he', rfl⟩
  have happ : ∀ a b, b ∈ v.history → b ∈ v.history ++ [a] := fun a b => List.mem_append_left [a]
  cases hn with
  | opens e _ hv =>
    have hnone : ∀ {α : Type} (seq : Sequence), (none : Option α) ≠ none ↔ seq ∈ ([] : List ℕ) :=
      fun seq => ⟨fun hc => absurd rfl hc, fun hc => absurd hc List.not_mem_nil⟩
    refine ⟨hnone, fun seq c hc => ?_, fun _ _ _ => ⟨List.nodup_nil, hnone⟩,
      fun _ _ _ => ⟨0, rfl, rfl⟩⟩
    cases hc
  | moves e e' he hm =>
    refine h.neutral ?_ rfl rfl rfl (fun _ => id) rfl
    rintro _ ⟨⟩
    exact ⟨e, he, hm.ordering_and_not_closed.1⟩
  | sends | acknowledgesUnordered | acknowledgesOrdered | timesOutUnordered | acknowledgeFails
  | timeoutFails =>
    exact h.neutral hsame rfl rfl rfl (happ _) (by simp [received, Action.received])
  | timesOutOrdered p e cm he =>
    refine h.neutral ?_ rfl rfl rfl (happ _) (by simp [received, Action.received])
    rintro _ ⟨⟩
    exact ⟨e, he, rfl⟩
  | receivesUnordered p a e he hs ho hr hn => exact h.receiveUnordered he ho hn
  | receivesOrdered p a e he hs ho hr hn => exact h.receiveOrdered he ho hn

end ReceiverInv

theorem Life.receiverInv (h : Life lib v) : ReceiverInv lib v := by
  induction h with
  | refl => exact .empty lib
  | tail _ hn ih => exact ih.next hn

end ChannelView

/-! ### On the chain -/

variable {CS Cons μ : Type} {H : Host CS Cons μ} {s : Ctx CS Cons μ}

theorem Packet.chanOnB_eq {p q : Packet} (h : p.keyOnB = q.keyOnB) : p.chanOnB = q.chanOnB := by
  simp only [keyOnB, Prod.mk.injEq] at h
  simp only [chanOnB, h]

/-- An acknowledgement is what the module answered to a packet it was handed. -/
theorem Reachable.answered (iso : H.Isolated) (h : Reachable H s) (key : ChannelKey)
    {seq : Sequence} {c : AcknowledgementCommitment}
    (hc : s.store.channel.packetAcknowledgement (key.1, key.2, seq) = some c) :
    ∃ p a, .recvPacket p a ∈ s.history ∧ p.chanOnB = key ∧ p.seqOnA = seq ∧
      c = computeAckCommitment H.library a := by
  have inv := ChannelView.Life.receiverInv (h.life iso key)
  obtain ⟨p, a, hp, hseq, ha⟩ := inv.answered seq c hc
  obtain ⟨hp, hch⟩ := mem_view_history.mp hp
  exact ⟨p, a, hp, hch, hseq, ha⟩

/-- No sequence is handed to the module twice. -/
theorem Reachable.receivedOn_nodup (iso : H.Isolated) (h : Reachable H s) {key : ChannelKey}
    {e : ChannelEnd} (he : s.store.channel.channels key = some e) :
    (receivedOn key s.history).Nodup := by
  have inv := ChannelView.Life.receiverInv (h.life iso key)
  cases ho : e.ordering with
  | none => exact absurd ho (ChannelView.Life.channel_wf (h.life iso key) e he).ordering
  | unordered => exact (inv.unordered e he ho).1
  | ordered =>
    obtain ⟨n, hreceived, -⟩ := inv.ordered e he ho
    have hview : receivedOn key s.history = List.range' 1 n := hreceived
    rw [hview]
    exact List.nodup_range'

/-- Under one key only one packet is received, and it is answered once. -/
theorem Reachable.received_unique (iso : H.Isolated) (h : Reachable H s) {p q : Packet}
    {ack ack' : Acknowledgement} (hp : .recvPacket p ack ∈ s.history)
    (hq : .recvPacket q ack' ∈ s.history) (hkey : p.keyOnB = q.keyOnB) :
    Action.recvPacket p ack = .recvPacket q ack' := by
  obtain ⟨e, he, -⟩ := h.addressed iso hp
  have hch : p.chanOnB = q.chanOnB := Packet.chanOnB_eq hkey
  have hseq : p.seqOnA = q.seqOnA := congrArg (·.2.2) hkey
  have hnd := h.receivedOn_nodup iso he
  rw [receivedOn, List.Nodup, List.pairwise_filterMap] at hnd
  have hsymm : Std.Symm fun a a' : Action => ∀ n, a.received = some n →
      ∀ n', a'.received = some n' → n ≠ n' :=
    ⟨fun _ _ hne n hn n' hn' => (hne n' hn' n hn).symm⟩
  by_contra hne
  refine hnd.forall (List.mem_filter.mpr ⟨hp, ?_⟩) (List.mem_filter.mpr ⟨hq, ?_⟩) hne
    _ rfl _ rfl hseq
  · exact decide_eq_true rfl
  · exact decide_eq_true hch.symm

/-- **Delivery is exactly once and in order.** Whatever messages relayers submit: on an unordered
channel end each sequence is handed to the module at most once; on an ordered one the sequences
handed over are `1, …, n`, with `n + 1` the next expected one; and an acknowledgement is kept for a
sequence exactly when it was handed over. -/
theorem delivered_exactly_once (iso : H.Isolated) (h : Reachable H s) (key : ChannelKey)
    (e : ChannelEnd) (he : s.store.channel.channels key = some e) :
    (e.ordering = .unordered → (receivedOn key s.history).Nodup) ∧
    (e.ordering = .ordered → ∃ n, receivedOn key s.history = List.range' 1 n ∧
      s.store.channel.nextSequenceRecv key = some (n + 1)) ∧
    ∀ seq, s.store.channel.packetAcknowledgement (key.1, key.2, seq) ≠ none ↔
      seq ∈ receivedOn key s.history := by
  have inv := ChannelView.Life.receiverInv (h.life iso key)
  exact ⟨fun ho => (inv.unordered e he ho).1, inv.ordered e he, inv.acked⟩

/-- On the mock host the sample packet arrives twice on an ordered channel, and is handed over
once. -/
theorem mock_packet_delivered_once : ∃ s e, Reachable MockRun.host s ∧
    s.store.channel.channels (.transfer, MockRun.channelId) = some e ∧ e.ordering = .ordered ∧
    receivedOn (.transfer, MockRun.channelId) s.history = List.range' 1 1 := by
  obtain ⟨s, hs, hc⟩ := Reachable.exists_of_runAll (H := MockRun.host) (s := MockRun.start)
    (MockRun.opening .ordered ++ [MockRun.recvPacket, MockRun.recvPacket])
    (fun s => ((s.store.channel.channels (.transfer, MockRun.channelId)).map (·.ordering),
      s.store.channel.nextSequenceRecv (.transfer, MockRun.channelId)))
    (a := (some .ordered, some 2)) rfl rfl (by decide +kernel)
  simp only [Prod.mk.injEq, Option.map_eq_some_iff] at hc
  obtain ⟨⟨e, he, ho⟩, hn⟩ := hc
  obtain ⟨n, hrec, hn'⟩ := (delivered_exactly_once MockRun.host_isolated hs _ e he).2.1 ho
  obtain rfl : n = 1 := by simpa using hn'.symm.trans hn
  exact ⟨s, e, hs, he, ho, hrec⟩

end Ibc
