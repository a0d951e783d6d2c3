import Ibc.Protocol.Authentic
import Ibc.Support.Pipe

/-!
# An ordered channel is a queue

From one end of an ordered channel to the other, the packets that were sent, those that were handed
to the module with its answers, and those whose acknowledgement was taken form a `Pipe`.

* **`ordered_channel_is_pipe`**: in every reachable world each of the three is a first part of the
  one before it, equal in all fields and in all bytes of the answers, and every step of one of the
  two chains leaves them or is a step of the queue.

On each end the sequences are numbers from one on (`ChannelView.FifoInv`), and what was received was
sent, what was acknowledged was answered so (`World.received_sent`, `World.acknowledged`).
-/

namespace Ibc

/-! ### What happened on a channel end -/

/-- The packet that was sent. -/
def Action.sent : Action → Option Packet
  | .sendPacket p => some p
  | _ => none

/-- The packet that was handed to the module, with its answer. -/
def Action.answered : Action → Option (Packet × Acknowledgement)
  | .recvPacket p ack => some (p, ack)
  | _ => none

/-- The packet whose acknowledgement was taken. -/
def Action.confirmed : Action → Option (Packet × Acknowledgement)
  | .acknowledgePacket p ack true => some (p, ack)
  | _ => none

/-- What `f` sees of the actions on a channel end. -/
def seenOn {α : Type} (f : Action → Option α) (key : ChannelKey) (history : List Action) : List α :=
  (history.filter fun a => a.channel = key).filterMap f

theorem mem_seenOn {α : Type} {f : Action → Option α} {key : ChannelKey} {history : List Action}
    {x : α} : x ∈ seenOn f key history ↔ ∃ a ∈ history, a.channel = key ∧ f a = some x := by
  simp [seenOn, and_assoc]

/-- An action adds what is seen of it, if it is on the channel end. -/
theorem seenOn_concat {α : Type} (f : Action → Option α) (key : ChannelKey) (history : List Action)
    (a : Action) : seenOn f key (history ++ [a]) =
      seenOn f key history ++ if a.channel = key then (f a).toList else [] := by
  rw [seenOn, List.filter_append, seenOn]
  split_ifs with h
  · rw [List.filter_singleton, decide_eq_true h, cond_true, List.filterMap_concat]
  · simp [h]

namespace ChannelView

variable {lib : Library} {v v' : ChannelView}

/-- The packets sent, the packets answered and those confirmed on a channel end. -/
def sent (v : ChannelView) : List Packet := v.history.filterMap Action.sent

def answered (v : ChannelView) : List (Packet × Acknowledgement) :=
  v.history.filterMap Action.answered

def confirmed (v : ChannelView) : List (Packet × Acknowledgement) :=
  v.history.filterMap Action.confirmed

/-- Sequences are given out one by one, and on an ordered channel end acknowledgements are taken in
that order. -/
structure FifoInv (v : ChannelView) : Prop where
  sent : v.sent.Numbered (·.seqOnA) ∧ ∀ n, v.nextSend = some n → n = v.sent.length + 1
  confirmed : ∀ e, v.channel = some e → e.ordering = .ordered →
    v.confirmed.Numbered (·.1.seqOnA) ∧ v.nextAck = some (v.confirmed.length + 1)

theorem FifoInv.empty : FifoInv .empty := ⟨⟨rfl, nofun⟩, nofun⟩

/-- A step that neither sends nor takes an acknowledgement. -/
theorem FifoInv.neutral (h : FifoInv v)
    (hch : ∀ e', v'.channel = some e' → ∃ e, v.channel = some e ∧ e'.ordering = e.ordering)
    (hs : v'.sent = v.sent) (hn : v'.nextSend = v.nextSend) (hc : v'.confirmed = v.confirmed)
    (ha : v'.nextAck = v.nextAck) : FifoInv v' := by
  refine ⟨by rw [hs, hn]; exact h.sent, fun e' he' ho => ?_⟩
  obtain ⟨e, he, heq⟩ := hch e' he'
  rw [hc, ha]
  exact h.confirmed e he (heq ▸ ho)

theorem FifoInv.next (h : FifoInv v) (hn : Next lib v v') : FifoInv v' := by
  have hsame : ∀ e', v.channel = some e' → ∃ e, v.channel = some e ∧ e'.ordering = e.ordering :=
    fun e' he' => ⟨e', he', rfl⟩
  -- An action that is neither a send nor a confirmation adds to neither list.
  have hsent {a : Action} (ha : a.sent = none) :
      (v.history ++ [a]).filterMap Action.sent = v.sent := by
    rw [List.filterMap_concat, ha, Option.toList_none, List.append_nil, ChannelView.sent]
  have hconf {a : Action} (ha : a.confirmed = none) :
      (v.history ++ [a]).filterMap Action.confirmed = v.confirmed := by
    rw [List.filterMap_concat, ha, Option.toList_none, List.append_nil, ChannelView.confirmed]
  cases hn with
  | opens e _ hv =>
    refine ⟨⟨rfl, ?_⟩, fun _ _ _ => ⟨rfl, rfl⟩⟩
    rintro _ ⟨⟩
    rfl
  | moves e e' he hm =>
    refine h.neutral ?_ rfl rfl rfl rfl
    rintro _ ⟨⟩
    exact ⟨e, he, hm.ordering_and_not_closed.1⟩
  | sends p e cm he hs hr hnext hcm =>
    have hseq := h.sent.2 _ hnext
    have hlist : (v.history ++ [Action.sendPacket p]).filterMap Action.sent = v.sent ++ [p] :=
      List.filterMap_concat _ _ _
    refine ⟨⟨?_, ?_⟩, fun e' he' ho => ?_⟩
    · rw [ChannelView.sent, hlist]
      exact h.sent.1.concat hseq
    · rintro _ ⟨⟩
      rw [ChannelView.sent, hlist, List.length_append, List.length_singleton, hseq]
    · rw [ChannelView.confirmed, hconf rfl]
      exact h.confirmed e' he' ho
  | acknowledgesOrdered p ack e cm he ho hr hc hcm hnext =>
    obtain ⟨hnum, hack⟩ := h.confirmed e he ho
    have hseq : v.confirmed.length + 1 = p.seqOnA := Option.some.inj (hack.symm.trans hnext)
    have hlist : (v.history ++ [Action.acknowledgePacket p ack true]).filterMap Action.confirmed =
        v.confirmed ++ [(p, ack)] := List.filterMap_concat _ _ _
    refine ⟨by rw [ChannelView.sent, hsent rfl]; exact h.sent, fun _ _ _ => ?_⟩
    rw [ChannelView.confirmed, hlist, List.length_append, List.length_singleton, hseq]
    exact ⟨hnum.concat hseq.symm, rfl⟩
  | acknowledgesUnordered p ack e cm he ho =>
    refine ⟨by rw [ChannelView.sent, hsent rfl]; exact h.sent, fun e' he' ho' => ?_⟩
    obtain rfl : e = e' := Option.some.inj (he.symm.trans he')
    rw [ho] at ho'
    cases ho'
  | timesOutOrdered p e cm he =>
    refine h.neutral ?_ (hsent rfl) rfl (hconf rfl) rfl
    rintro _ ⟨⟩
    exact ⟨e, he, rfl⟩
  | receivesUnordered | receivesOrdered | timesOutUnordered | acknowledgeFails | timeoutFails =>
    exact h.neutral hsame (hsent rfl) rfl (hconf rfl) rfl

theorem Life.fifoInv (h : Life lib v) : FifoInv v := by
  induction h with
  | refl => exact .empty
  | tail _ hn ih => exact ih.next hn

/-- The packets answered on an ordered channel end are numbered. -/
theorem Life.answered_numbered (h : Life lib v) {e : ChannelEnd} (he : v.channel = some e)
    (ho : e.ordering = .ordered) : v.answered.Numbered (·.1.seqOnA) := by
  obtain ⟨n, hreceived, -⟩ := h.receiverInv.ordered e he ho
  have hmap : v.answered.map (·.1.seqOnA) = v.received := by
    rw [answered, received, List.map_filterMap]
    congr 1
    funext a
    cases a <;> rfl
  have hlen : v.answered.length = n := by
    rw [← List.length_map (·.1.seqOnA), hmap, hreceived, List.length_range']
  rw [List.Numbered, hmap, hreceived, hlen]

end ChannelView

/-! ### Two ends of a channel -/

variable {CS Cons μ CS' Cons' μ' : Type} {HA : Host CS Cons μ} {HB : Host CS' Cons' μ'}
  {w : Duo (Ctx CS Cons μ) (Ctx CS' Cons' μ')} {keyA keyB : ChannelKey}

/-- The two keys hold ordered channel ends that name each other. -/
structure OrderedPair (w : Duo (Ctx CS Cons μ) (Ctx CS' Cons' μ')) (keyA keyB : ChannelKey) :
    Prop where
  left : ∃ e, w.left.store.channel.channels keyA = some e ∧ e.ordering = .ordered ∧
    e.remote = ⟨keyB.1, some keyB.2⟩
  right : ∃ e, w.right.store.channel.channels keyB = some e ∧ e.ordering = .ordered ∧
    e.remote = ⟨keyA.1, some keyA.2⟩

/-- What was sent from the left end, answered on the right end, and confirmed on the left end. -/
def channelPipe (keyA keyB : ChannelKey) (w : Duo (Ctx CS Cons μ) (Ctx CS' Cons' μ')) :
    Pipe Packet Acknowledgement where
  sent := seenOn Action.sent keyA w.left.history
  answered := seenOn Action.answered keyB w.right.history
  confirmed := seenOn Action.confirmed keyA w.left.history

section Chain

variable {H : Host CS Cons μ} {i : Input Cons μ} {s s' : Ctx CS Cons μ} {e : ChannelEnd}

/-- A step records one action at most. -/
theorem Step.history_concat (iso : H.Isolated) (h : Step H i s s') :
    s'.history = s.history ∨ ∃ a, s'.history = s.history ++ [a] := by
  cases h.effect iso with
  | quiet _ hh | application _ hh | opens _ _ _ _ hh | moves _ _ _ _ _ _ hh => exact .inl hh
  | sends _ _ _ _ _ _ _ hh | receives _ _ _ _ _ _ _ _ _ _ _ hh
  | acknowledges _ _ _ _ _ _ _ _ _ _ _ _ _ _ _ hh | timesOut _ _ _ _ _ _ _ _ _ _ _ _ _ hh =>
    exact .inr ⟨_, hh⟩

/-- An end that names its counterparty keeps its ordering and its counterparty. -/
theorem Step.pair_kept (iso : H.Isolated) (hr : Reachable H s) (h : Step H i s s')
    {key : ChannelKey} {remote : PortId × ChannelId}
    (hp : ∃ e, s.store.channel.channels key = some e ∧ e.ordering = .ordered ∧
      e.remote = ⟨remote.1, some remote.2⟩) :
    ∃ e, s'.store.channel.channels key = some e ∧ e.ordering = .ordered ∧
      e.remote = ⟨remote.1, some remote.2⟩ := by
  obtain ⟨e, he, ho, hremote⟩ := hp
  obtain ⟨e', he', hlater⟩ :=
    ChannelView.Steps.later (hr.life iso key) ((Run.refl.step i h).steps iso hr key) he
  exact ⟨e', he', hlater.ordering.trans ho, (hlater.remote _ (by rw [hremote])).trans hremote⟩

end Chain

section Pipe

variable (isoA : HA.Isolated) (isoB : HB.Isolated)
  (hlib : HB.library.sha256 = HA.library.sha256) (inj : Function.Injective HA.library.sha256)

include isoA isoB hlib inj

theorem World.pipe_inOrder
    (h : (world HA HB Input.TimeoutsDecoded Input.TimeoutsDecoded).Reachable w)
    (hpair : OrderedPair w keyA keyB) : (channelPipe keyA keyB w).InOrder := by
  obtain ⟨⟨eA, heA, hoA, hrA⟩, eB, heB, hoB, hrB⟩ := hpair
  have hlifeA := (World.left_reachable h).life isoA keyA
  have hlifeB := (World.right_reachable h).life isoB keyB
  have hansNum : (channelPipe keyA keyB w).answered.Numbered (·.1.seqOnA) :=
    ChannelView.Life.answered_numbered hlifeB heB hoB
  constructor
  · have hmap : ((channelPipe keyA keyB w).answered.map Prod.fst).Numbered (·.seqOnA) := by
      rw [List.Numbered, List.map_map, List.length_map]
      exact hansNum
    refine hmap.prefix_of_subset (ChannelView.Life.fifoInv hlifeA).sent.1 fun p hp => ?_
    obtain ⟨⟨p, ack⟩, hmem, rfl⟩ := List.mem_map.mp hp
    obtain ⟨a, ha, hch, hans⟩ := mem_seenOn.mp hmem
    cases a <;> cases hans
    have hsent := World.received_sent isoA isoB hlib inj h ha
    -- The receiving end has one counterparty, which the packet names as its source.
    obtain ⟨e, he, hremote⟩ := (World.right_reachable h).addressed isoB ha
    obtain rfl : e = eB := Option.some.inj (he.symm.trans ((congrArg _ hch).trans heB))
    have hsource : p.source = ⟨keyA.1, some keyA.2⟩ := hremote.symm.trans hrB
    simp only [Packet.source, Counterparty.mk.injEq, Option.some.injEq] at hsource
    exact mem_seenOn.mpr ⟨_, hsent, Prod.ext hsource.1 hsource.2, rfl⟩
  · refine ((ChannelView.Life.fifoInv hlifeA).confirmed eA heA hoA).1.prefix_of_subset hansNum ?_
    rintro ⟨p, ack⟩ hp
    obtain ⟨a, ha, hch, hconf⟩ := mem_seenOn.mp hp
    obtain rfl : a = .acknowledgePacket p ack true := by
      unfold Action.confirmed at hconf
      split at hconf <;> cases hconf
      rfl
    have hrecv := (World.acknowledged isoA isoB hlib inj h p ack true ha).2
    obtain ⟨e, he, hremote⟩ := (World.left_reachable h).addressed isoA ha
    obtain rfl : e = eA := Option.some.inj (he.symm.trans ((congrArg _ hch).trans heA))
    have hdest : p.destination = ⟨keyB.1, some keyB.2⟩ := hremote.symm.trans hrA
    simp only [Packet.destination, Counterparty.mk.injEq, Option.some.injEq] at hdest
    exact mem_seenOn.mpr ⟨_, hrecv, Prod.ext hdest.1 hdest.2, rfl⟩

/-- **An ordered channel is a queue.** From one end to the other, the packets answered are a first
part of the packets sent, and the acknowledgements taken are a first part of the answers given.
Whatever either chain does next, nothing happens to the queue or one step of it. -/
theorem ordered_channel_is_pipe
    (h : (world HA HB Input.TimeoutsDecoded Input.TimeoutsDecoded).Reachable w)
    (hpair : OrderedPair w keyA keyB) :
    (channelPipe keyA keyB w).InOrder ∧
    (∀ a, SoundStep HA Input.TimeoutsDecoded w.rights w.left a →
      channelPipe keyA keyB (w.moveLeft a) = channelPipe keyA keyB w ∨
        (channelPipe keyA keyB w).Next (channelPipe keyA keyB (w.moveLeft a))) ∧
    ∀ b, SoundStep HB Input.TimeoutsDecoded w.lefts w.right b →
      channelPipe keyA keyB (w.moveRight b) = channelPipe keyA keyB w ∨
        (channelPipe keyA keyB w).Next (channelPipe keyA keyB (w.moveRight b)) := by
  refine ⟨World.pipe_inOrder isoA isoB hlib inj h hpair, fun a hs => ?_, fun b hs => ?_⟩
  · have hmoved : OrderedPair (w.moveLeft a) keyA keyB := by
      obtain ⟨-, i, -, hstep⟩ := hs
      exact ⟨hstep.pair_kept isoA (World.left_reachable h) hpair.left, hpair.right⟩
    have horder := World.pipe_inOrder isoA isoB hlib inj (.left h hs) hmoved
    obtain ⟨-, i, -, hstep⟩ := hs
    simp only [channelPipe, Duo.moveLeft] at horder ⊢
    rcases hstep.history_concat isoA with heq | ⟨act, heq⟩
    · exact .inl (by rw [heq])
    rw [heq, seenOn_concat, seenOn_concat] at horder ⊢
    split_ifs at horder ⊢ with hch
    · -- At most one of the two lists grows.
      cases act with
      | sendPacket p =>
        right
        simpa [Action.sent, Action.confirmed] using Pipe.Next.send p
      | acknowledgePacket p ack ok =>
        cases ok with
        | false => exact .inl (by simp [Action.sent, Action.confirmed])
        | true =>
          right
          simp only [Action.sent, Action.confirmed, Option.toList_none, Option.toList_some,
            List.append_nil] at horder ⊢
          exact Pipe.Next.of_confirm horder
      | recvPacket p ack => exact .inl (by simp [Action.sent, Action.confirmed])
      | timeoutPacket p ok => exact .inl (by simp [Action.sent, Action.confirmed])
    · exact .inl (by simp)
  · have hmoved : OrderedPair (w.moveRight b) keyA keyB := by
      obtain ⟨-, i, -, hstep⟩ := hs
      exact ⟨hpair.left, hstep.pair_kept isoB (World.right_reachable h) hpair.right⟩
    have horder := World.pipe_inOrder isoA isoB hlib inj (.right h hs) hmoved
    obtain ⟨-, i, -, hstep⟩ := hs
    simp only [channelPipe, Duo.moveRight] at horder ⊢
    rcases hstep.history_concat isoB with heq | ⟨act, heq⟩
    · exact .inl (by rw [heq])
    rw [heq, seenOn_concat] at horder ⊢
    split_ifs at horder ⊢ with hch
    · cases act with
      | recvPacket p ack => exact .inr (Pipe.Next.of_answer horder)
      | _ => exact .inl (by simp [Action.answered])
    · exact .inl (by simp)

end Pipe

namespace WorldRun

open MockRun (channelId packet)

/-- The key of the sample channel, which is the same on both chains. -/
def channel : ChannelKey := (.transfer, channelId)

/-- The orderings and counterparties of the two ends of the sample channel. -/
def endsOf (w : Duo (MockCtx Unit) (MockCtx Unit)) :
    Option (Order × Counterparty) × Option (Order × Counterparty) :=
  ((w.left.store.channel.channels channel).map fun e => (e.ordering, e.remote),
    (w.right.store.channel.channels channel).map fun e => (e.ordering, e.remote))

/-- Both ends are ordered, and each names the other. -/
theorem orderedPair_of_endsOf {w : Duo (MockCtx Unit) (MockCtx Unit)}
    (h : endsOf w = (some (.ordered, ⟨.transfer, some channelId⟩),
      some (.ordered, ⟨.transfer, some channelId⟩))) : OrderedPair w channel channel := by
  simp only [endsOf, Prod.mk.injEq, Option.map_eq_some_iff] at h
  obtain ⟨⟨eA, heA, hoA, hrA⟩, eB, heB, hoB, hrB⟩ := h
  exact ⟨⟨eA, heA, hoA, hrA⟩, eB, heB, hoB, hrB⟩

end WorldRun

open WorldRun MockRun

/-- The sample packet is in the queue of the sample channel, answered and not yet confirmed. -/
theorem relayed_packet_in_queue : ∃ w, (packetWorld Input.TimeoutsDecoded).Reachable w ∧
    OrderedPair w channel channel ∧
    channelPipe channel channel w = ⟨[packet], [(packet, dummyAcknowledgement)], []⟩ ∧
    (channelPipe channel channel w).InOrder := by
  have start : ProofRun.start.Fresh := ⟨rfl, rfl⟩
  have fresh : receiver.Fresh := ⟨rfl, rfl⟩
  obtain ⟨w, hw, hrun⟩ := exists_of_runMoves (C := packetChecks Input.TimeoutsDecoded)
    senderHost_mockLike receiverHost_mockLike (Sample.valid_start start fresh start fresh) relaying
    (fun w => (endsOf w, channelPipe channel channel w))
    (y := ((some (.ordered, ⟨.transfer, some channelId⟩),
      some (.ordered, ⟨.transfer, some channelId⟩)),
      ⟨[packet], [(packet, dummyAcknowledgement)], []⟩)) (by decide +kernel)
  obtain ⟨hends, hpipe⟩ := Prod.mk.inj hrun
  have hpair := orderedPair_of_endsOf hends
  exact ⟨w, hw, hpair, hpipe, (ordered_channel_is_pipe senderHost_mockLike.isolated
    receiverHost_mockLike.isolated rfl MockRun.sha256_injective hw hpair).1⟩

end Ibc
