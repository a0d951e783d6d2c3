import Ibc.Protocol.Effect
import Ibc.Support.History
import Mathlib.Logic.Relation

/-!
# The life of one channel end

`ChannelView` is what a chain keeps under one channel key: the channel end, its sequences, its
packet data, and the part of the history that happened on it. `ChannelView.Next` is the life of a
channel end as a machine of its own, without keys and without a host: it is opened once, moves
through the handshake, and meanwhile packets are sent, received, acknowledged and timed out.

The chain refines this machine (`Run.lean`): under every key it stutters or takes a `Next` step. The
lemmas here are the facts about single steps that all later invariants use.
-/

namespace Ibc

/-! ### Views -/

/-- The channel end an action of the history happened on. -/
def Action.channel : Action → ChannelKey
  | .sendPacket p => p.chanOnA
  | .recvPacket p _ => p.chanOnB
  | .acknowledgePacket p _ _ => p.chanOnA
  | .timeoutPacket p _ => p.chanOnA

/-- What is kept under one channel key. -/
@[ext]
structure ChannelView where
  channel : Option ChannelEnd
  nextSend : Option Sequence
  nextRecv : Option Sequence
  nextAck : Option Sequence
  commitment : Sequence → Option PacketCommitment
  receipt : Sequence → Option Receipt
  ack : Sequence → Option AcknowledgementCommitment
  history : List Action

/-- Nothing was ever kept. -/
def ChannelView.empty : ChannelView :=
  ⟨none, none, none, none, fun _ => none, fun _ => none, fun _ => none, []⟩

/-- A channel end just opened. -/
def ChannelView.opened (e : ChannelEnd) : ChannelView :=
  { ChannelView.empty with
    channel := some e
    nextSend := some 1
    nextRecv := some 1
    nextAck := some 1 }

/-- The view of `key` in a channel store and a history. -/
def ChannelStore.view (c : ChannelStore) (history : List Action) (key : ChannelKey) :
    ChannelView where
  channel := c.channels key
  nextSend := c.nextSequenceSend key
  nextRecv := c.nextSequenceRecv key
  nextAck := c.nextSequenceAck key
  commitment := fun seq => c.packetCommitment (key.1, key.2, seq)
  receipt := fun seq => c.packetReceipt (key.1, key.2, seq)
  ack := fun seq => c.packetAcknowledgement (key.1, key.2, seq)
  history := history.filter fun a => a.channel = key

/-! ### The machine -/

/-- A move of the handshake, or closing. -/
inductive ChannelEnd.Next (e : ChannelEnd) : ChannelEnd → Prop where
  | ack (hs : e.state = .init) (version : ChannelVersion) (chanIdOnB : ChannelId) :
      Next e (e.opened version chanIdOnB)
  | confirm (hs : e.state = .tryOpen) : Next e { e with state := .open }
  | close (hs : e.state ≠ .closed) : Next e { e with state := .closed }

/-- The counterparty the receiving end of `p` has. -/
def Packet.source (p : Packet) : Counterparty := ⟨p.portIdOnA, some p.chanIdOnA⟩

/-- The counterparty the sending end of `p` has. -/
def Packet.destination (p : Packet) : Counterparty := ⟨p.portIdOnB, some p.chanIdOnB⟩

/-- The counterparty that the channel end of an action has. -/
def Action.remote : Action → Counterparty
  | .sendPacket p => p.destination
  | .recvPacket p _ => p.source
  | .acknowledgePacket p _ _ => p.destination
  | .timeoutPacket p _ => p.destination

theorem Action.remote_channelId (a : Action) : ∃ c, a.remote.channelId = some c := by
  cases a <;> exact ⟨_, rfl⟩

namespace ChannelView

/-- One step in the life of a channel end. -/
inductive Next (lib : Library) (v : ChannelView) : ChannelView → Prop where
  | opens (e : ChannelEnd) (hn : e.IsNew) (hv : v = .empty) : Next lib v (.opened e)
  | moves (e e' : ChannelEnd) (he : v.channel = some e) (hm : e.Next e') :
      Next lib v { v with channel := some e' }
  | sends (p : Packet) (e : ChannelEnd) (cm : PacketCommitment) (he : v.channel = some e)
      (hs : e.state ≠ .closed) (hr : e.remote = p.destination) (hn : v.nextSend = some p.seqOnA)
      (hcm : p.CommitsTo lib cm) :
      Next lib v { v with
        nextSend := some (p.seqOnA + 1)
        commitment := Function.update v.commitment p.seqOnA (some cm)
        history := v.history ++ [.sendPacket p] }
  | receivesUnordered (p : Packet) (ack : Acknowledgement) (e : ChannelEnd)
      (he : v.channel = some e) (hs : e.state = .open) (ho : e.ordering = .unordered)
      (hr : e.remote = p.source) (hn : v.receipt p.seqOnA = none) :
      Next lib v { v with
        receipt := Function.update v.receipt p.seqOnA (some .ok)
        ack := Function.update v.ack p.seqOnA (some (computeAckCommitment lib ack))
        history := v.history ++ [.recvPacket p ack] }
  | receivesOrdered (p : Packet) (ack : Acknowledgement) (e : ChannelEnd)
      (he : v.channel = some e) (hs : e.state = .open) (ho : e.ordering = .ordered)
      (hr : e.remote = p.source) (hn : v.nextRecv = some p.seqOnA) :
      Next lib v { v with
        nextRecv := some (p.seqOnA + 1)
        ack := Function.update v.ack p.seqOnA (some (computeAckCommitment lib ack))
        history := v.history ++ [.recvPacket p ack] }
  | acknowledgesUnordered (p : Packet) (ack : Acknowledgement) (e : ChannelEnd)
      (cm : PacketCommitment) (he : v.channel = some e) (ho : e.ordering = .unordered)
      (hr : e.remote = p.destination) (hc : v.commitment p.seqOnA = some cm)
      (hcm : p.CommitsTo lib cm) :
      Next lib v { v with
        commitment := Function.update v.commitment p.seqOnA none
        history := v.history ++ [.acknowledgePacket p ack true] }
  | acknowledgesOrdered (p : Packet) (ack : Acknowledgement) (e : ChannelEnd)
      (cm : PacketCommitment) (he : v.channel = some e) (ho : e.ordering = .ordered)
      (hr : e.remote = p.destination) (hc : v.commitment p.seqOnA = some cm)
      (hcm : p.CommitsTo lib cm) (hn : v.nextAck = some p.seqOnA) :
      Next lib v { v with
        nextAck := some (p.seqOnA + 1)
        commitment := Function.update v.commitment p.seqOnA none
        history := v.history ++ [.acknowledgePacket p ack true] }
  | timesOutUnordered (p : Packet) (e : ChannelEnd) (cm : PacketCommitment)
      (he : v.channel = some e) (ho : e.ordering = .unordered) (hr : e.remote = p.destination)
      (hc : v.commitment p.seqOnA = some cm) (hcm : p.CommitsTo lib cm) :
      Next lib v { v with
        commitment := Function.update v.commitment p.seqOnA none
        history := v.history ++ [.timeoutPacket p true] }
  | timesOutOrdered (p : Packet) (e : ChannelEnd) (cm : PacketCommitment)
      (he : v.channel = some e) (ho : e.ordering = .ordered) (hr : e.remote = p.destination)
      (hc : v.commitment p.seqOnA = some cm) (hcm : p.CommitsTo lib cm) :
      Next lib v { v with
        channel := some { e with state := .closed }
        commitment := Function.update v.commitment p.seqOnA none
        history := v.history ++ [.timeoutPacket p true] }
  | acknowledgeFails (p : Packet) (ack : Acknowledgement) (e : ChannelEnd) (cm : PacketCommitment)
      (he : v.channel = some e) (hr : e.remote = p.destination)
      (hc : v.commitment p.seqOnA = some cm) (hcm : p.CommitsTo lib cm) :
      Next lib v { v with history := v.history ++ [.acknowledgePacket p ack false] }
  | timeoutFails (p : Packet) (e : ChannelEnd) (cm : PacketCommitment)
      (he : v.channel = some e) (hr : e.remote = p.destination)
      (hc : v.commitment p.seqOnA = some cm) (hcm : p.CommitsTo lib cm) :
      Next lib v { v with history := v.history ++ [.timeoutPacket p false] }

/-- Any number of steps. -/
abbrev Steps (lib : Library) : ChannelView → ChannelView → Prop :=
  Relation.ReflTransGen (Next lib)

/-- A view some life leads to. -/
abbrev Life (lib : Library) (v : ChannelView) : Prop := Steps lib .empty v

end ChannelView

/-! ### What a channel end keeps -/

/-- The end `e'` is `e`, or what became of it. -/
structure ChannelEnd.Later (e e' : ChannelEnd) : Prop where
  ordering : e'.ordering = e.ordering
  hops : e'.connectionHops = e.connectionHops
  port : e'.remote.portId = e.remote.portId
  remote : ∀ c, e.remote.channelId = some c → e'.remote = e.remote
  closed : e.state = .closed → e'.state = .closed

namespace ChannelEnd

variable {e e' e'' : ChannelEnd}

theorem Later.refl (e : ChannelEnd) : e.Later e := ⟨rfl, rfl, rfl, fun _ _ => rfl, id⟩

theorem Later.trans (h : e.Later e') (h' : e'.Later e'') : e.Later e'' where
  ordering := h'.ordering.trans h.ordering
  hops := h'.hops.trans h.hops
  port := h'.port.trans h.port
  remote c hc := by
    have he := h.remote c hc
    exact (h'.remote c (by rw [he, hc])).trans he
  closed hs := h'.closed (h.closed hs)

/-- Stored channel ends are ordered or unordered, and an end in `init` has no counterparty channel
yet. -/
structure Wf (e : ChannelEnd) : Prop where
  ordering : e.ordering ≠ .none
  unanswered : e.state = .init → e.remote.channelId = none

theorem Wf.unordered (h : e.Wf) (ho : e.ordering ≠ .ordered) : e.ordering = .unordered := by
  have := h.ordering
  cases he : e.ordering <;> simp_all

theorem IsNew.wf (h : e.IsNew) : e.Wf := by
  refine ⟨h.ordering, fun hs => ?_⟩
  rcases h.state with ⟨_, hr⟩ | ht
  · exact hr
  · rw [hs] at ht
    cases ht

theorem Next.wf (h : e.Next e') (hw : e.Wf) : e'.Wf := by
  cases h <;> exact ⟨hw.ordering, fun hs => nomatch hs⟩

theorem Next.ordering_and_not_closed (h : e.Next e') :
    e'.ordering = e.ordering ∧ e.state ≠ .closed := by
  cases h with
  | ack hs => exact ⟨rfl, by simp [hs]⟩
  | confirm hs => exact ⟨rfl, by simp [hs]⟩
  | close hs => exact ⟨rfl, hs⟩

theorem Next.later (h : e.Next e') (hw : e.Wf) : e.Later e' := by
  cases h with
  | ack hs version chanIdOnB =>
    refine ⟨rfl, rfl, rfl, fun c hc => ?_, fun hcl => ?_⟩
    · rw [hw.unanswered hs] at hc
      cases hc
    · rw [hs] at hcl
      cases hcl
  | confirm hs =>
    refine ⟨rfl, rfl, rfl, fun _ _ => rfl, fun hcl => ?_⟩
    rw [hs] at hcl
    cases hcl
  | close hs => exact ⟨rfl, rfl, rfl, fun _ _ => rfl, fun _ => rfl⟩

theorem Later.close (e : ChannelEnd) : e.Later { e with state := .closed } :=
  ⟨rfl, rfl, rfl, fun _ _ => rfl, fun _ => rfl⟩

end ChannelEnd

namespace ChannelView

variable {lib : Library} {v v' : ChannelView} {e : ChannelEnd}

/-- A step leaves a channel end: the one opened, or what became of the one that was there. -/
theorem Next.channel (h : Next lib v v') (hw : ∀ e, v.channel = some e → e.Wf) :
    ∃ e', v'.channel = some e' ∧ e'.Wf ∧ (v = .empty ∨ ∃ e, v.channel = some e ∧ e.Later e') := by
  cases h with
  | opens e hn hv => exact ⟨e, rfl, hn.wf, .inl hv⟩
  | moves e e' he hm => exact ⟨e', rfl, hm.wf (hw e he), .inr ⟨e, he, hm.later (hw e he)⟩⟩
  | timesOutOrdered p e cm he ho hr hc hcm =>
    exact ⟨_, rfl, ⟨(hw e he).ordering, fun hs => nomatch hs⟩, .inr ⟨e, he, .close e⟩⟩
  | sends p e cm he | receivesUnordered p ack e he | receivesOrdered p ack e he
  | acknowledgesUnordered p ack e cm he | acknowledgesOrdered p ack e cm he
  | timesOutUnordered p e cm he | acknowledgeFails p ack e cm he | timeoutFails p e cm he =>
    exact ⟨e, he, hw e he, .inr ⟨e, he, .refl e⟩⟩

theorem Life.channel_wf (h : Life lib v) : ∀ e, v.channel = some e → e.Wf := by
  induction h with
  | refl =>
    intro e he
    cases he
  | tail _ hn ih =>
    intro e he
    obtain ⟨e', he', hw, -⟩ := hn.channel ih
    obtain rfl : e' = e := Option.some.inj (he'.symm.trans he)
    exact hw

/-- Without a channel end there is nothing. -/
theorem Life.eq_empty (h : Life lib v) (hv : v.channel = none) : v = .empty := by
  rcases Relation.ReflTransGen.cases_tail h with rfl | ⟨v₀, h₀, hn⟩
  · rfl
  · obtain ⟨e, he, -⟩ := hn.channel (Life.channel_wf h₀)
    rw [hv] at he
    cases he

/-- A channel end stays and only moves on. -/
theorem Steps.later (hl : Life lib v) (h : Steps lib v v') (he : v.channel = some e) :
    ∃ e', v'.channel = some e' ∧ e.Later e' := by
  induction h with
  | refl => exact ⟨e, he, .refl e⟩
  | @tail v₁ v₂ h hn ih =>
    obtain ⟨e₁, he₁, hlater⟩ := ih
    obtain ⟨e₂, he₂, -, hemp | ⟨e₁', he₁', hlater'⟩⟩ := hn.channel (Life.channel_wf (hl.trans h))
    · rw [hemp] at he₁
      cases he₁
    · obtain rfl : e₁' = e₁ := Option.some.inj (he₁'.symm.trans he₁)
      exact ⟨e₂, he₂, hlater.trans hlater'⟩

/-- An action is what a step adds to the history, and happens on an end with its counterparty. -/
theorem Next.happens (h : Next lib v v') {a : Action} (ha : a ∈ v'.history) :
    a ∈ v.history ∨ ∃ e, v.channel = some e ∧ e.remote = a.remote := by
  cases h with
  | opens e _ hv => cases ha
  | moves => exact .inl ha
  | sends p e cm he _ hr | receivesUnordered p ack e he _ _ hr | receivesOrdered p ack e he _ _ hr
  | acknowledgesUnordered p ack e cm he _ hr | acknowledgesOrdered p ack e cm he _ hr
  | timesOutUnordered p e cm he _ hr | timesOutOrdered p e cm he _ hr
  | acknowledgeFails p ack e cm he hr | timeoutFails p e cm he hr =>
    rcases List.mem_append.mp ha with ha | ha
    · exact .inl ha
    · cases List.mem_singleton.mp ha
      exact .inr ⟨e, he, hr⟩

/-- A channel end has one counterparty for all that happens on it. -/
theorem Life.addressed (h : Life lib v) :
    ∀ a ∈ v.history, ∃ e, v.channel = some e ∧ e.remote = a.remote := by
  induction h with
  | refl =>
    intro a ha
    cases ha
  | @tail v v' h hn ih =>
    intro a ha
    obtain ⟨e, he, hr⟩ := (hn.happens ha).elim (ih a) id
    obtain ⟨e', he', hlater⟩ := Steps.later h (.single hn) he
    obtain ⟨c, hc⟩ := a.remote_channelId
    exact ⟨e', he', (hlater.remote c (hr ▸ hc)).trans hr⟩

end ChannelView

end Ibc
