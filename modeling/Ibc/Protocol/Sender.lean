import Ibc.Protocol.MockRun

/-!
# The sending side

* **`resolved_at_most_once`**: a sent packet is acknowledged or timed out at most once, and only
  after a packet with its commitment was sent under its key.
* **`ordered_window`**: on an open ordered channel end the packets in flight are exactly those
  between the next sequence to acknowledge and the next sequence to send.

Both are invariants of the life of one channel end, `ChannelView.SenderInv` and
`ChannelView.Window`.
-/

namespace Ibc

/-- The packet an action resolved: its callback returned success. -/
def Action.resolved : Action → Option Packet
  | .acknowledgePacket p _ true => some p
  | .timeoutPacket p true => some p
  | _ => none

/-- How often the callbacks returned success for the packet sent under `key`. -/
def resolutions (key : PacketKey) (history : List Action) : ℕ :=
  history.countP fun a => a.resolved.map (·.keyOnA) = some key

/-! ### Commitments and sent packets -/

namespace ChannelView

variable {lib : Library} {v v' : ChannelView}

/-- How often packets with this sequence were resolved. -/
def resolvedCount (v : ChannelView) (seq : Sequence) : ℕ :=
  v.history.countP fun a => a.resolved.map (·.seqOnA) = some seq

/-- A resolution is preceded by the sending of a packet with its sequence and commitment. -/
def SentBefore (lib : Library) (pre : List Action) (a : Action) : Prop :=
  ∀ p, a.resolved = some p → ∃ q cm, .sendPacket q ∈ pre ∧ q.seqOnA = p.seqOnA ∧
    q.CommitsTo lib cm ∧ p.CommitsTo lib cm

/-- Commitments are of sent packets, sent packets lie below the next sequence, and a packet in
flight was not resolved. -/
structure SenderInv (lib : Library) (v : ChannelView) : Prop where
  committed : ∀ seq cm, v.commitment seq = some cm →
    ∃ p, .sendPacket p ∈ v.history ∧ p.seqOnA = seq ∧ p.CommitsTo lib cm
  sent : ∀ p, .sendPacket p ∈ v.history →
    ∃ n, v.nextSend = some n ∧ 1 ≤ p.seqOnA ∧ p.seqOnA < n
  unique : ∀ p q, .sendPacket p ∈ v.history → .sendPacket q ∈ v.history → p.seqOnA = q.seqOnA →
    p = q
  positive : ∀ n, v.nextSend = some n → 1 ≤ n
  once : ∀ seq, v.resolvedCount seq ≤ 1
  inFlight : ∀ seq cm, v.commitment seq = some cm → v.resolvedCount seq = 0
  justified : v.history.Justified (SentBefore lib)

namespace SenderInv

variable {p : Packet} {cm : PacketCommitment} {a : Action}

theorem empty (lib : Library) : SenderInv lib .empty where
  committed _ _ h := nomatch h
  sent _ h := nomatch h
  unique _ _ h := nomatch h
  positive _ h := nomatch h
  once _ := Nat.zero_le _
  inFlight _ _ h := nomatch h
  justified := List.justified_nil _

/-- A resolved sequence was sent. -/
theorem lt_of_resolved (h : SenderInv lib v) {seq : Sequence} (hr : v.resolvedCount seq ≠ 0) :
    ∃ n, v.nextSend = some n ∧ seq < n := by
  obtain ⟨a, ha, hseq⟩ := List.countP_pos_iff.mp (Nat.pos_of_ne_zero hr)
  obtain ⟨p, hp, rfl⟩ := Option.map_eq_some_iff.mp (of_decide_eq_true hseq)
  obtain ⟨pre, post, hsplit, hj⟩ := h.justified.of_mem ha
  obtain ⟨q, cm, hq, hqp, -⟩ := hj p hp
  obtain ⟨n, hn, -, hlt⟩ := h.sent q (by rw [hsplit]; exact List.mem_append_left _ hq)
  exact ⟨n, hn, hqp ▸ hlt⟩

/-- Sending. -/
theorem send (h : SenderInv lib v) (hn : v.nextSend = some p.seqOnA) (hcm : p.CommitsTo lib cm) :
    SenderInv lib { v with
      nextSend := some (p.seqOnA + 1)
      commitment := Function.update v.commitment p.seqOnA (some cm)
      history := v.history ++ [.sendPacket p] } where
  committed seq cm' hc := by
    by_cases hseq : seq = p.seqOnA
    · subst hseq
      obtain rfl : cm = cm' := by simpa using hc
      exact ⟨p, by simp, rfl, hcm⟩
    · obtain ⟨q, hq, hqs, hqc⟩ := h.committed seq cm' (by simpa [hseq] using hc)
      exact ⟨q, List.mem_append_left _ hq, hqs, hqc⟩
  sent q hq := by
    rcases List.mem_append.mp hq with hq | hq
    · obtain ⟨n, hn', h1, hlt⟩ := h.sent q hq
      obtain rfl : n = p.seqOnA := Option.some.inj (hn'.symm.trans hn)
      exact ⟨_, rfl, h1, Nat.lt_succ_of_lt hlt⟩
    · obtain rfl : q = p := by simpa using hq
      exact ⟨_, rfl, h.positive _ hn, Nat.lt_succ_self _⟩
  unique q q' hq hq' heq := by
    have below : ∀ r, .sendPacket r ∈ v.history → r.seqOnA ≠ p.seqOnA := by
      intro r hr heq
      obtain ⟨n, hn', -, hlt⟩ := h.sent r hr
      obtain rfl : n = p.seqOnA := Option.some.inj (hn'.symm.trans hn)
      exact absurd heq (Nat.ne_of_lt hlt)
    simp only [List.mem_append, List.mem_singleton, Action.sendPacket.injEq] at hq hq'
    rcases hq with hq | rfl <;> rcases hq' with hq' | rfl
    · exact h.unique q q' hq hq' heq
    · exact absurd heq (below q hq)
    · exact absurd heq.symm (below q' hq')
    · rfl
  positive n hn' := by
    obtain rfl : p.seqOnA + 1 = n := Option.some.inj hn'
    exact Nat.le_add_left 1 _
  once seq := by simpa [resolvedCount, Action.resolved] using h.once seq
  inFlight seq cm' hc := by
    by_cases hseq : seq = p.seqOnA
    · subst hseq
      by_contra hne
      obtain ⟨n, hn', hlt⟩ := h.lt_of_resolved
        (by simpa [resolvedCount, Action.resolved] using hne)
      obtain rfl : n = p.seqOnA := Option.some.inj (hn'.symm.trans hn)
      exact absurd hlt (Nat.lt_irrefl _)
    · have := h.inFlight seq cm' (by simpa [hseq] using hc)
      simpa [resolvedCount, Action.resolved] using this
  justified := List.justified_concat.mpr ⟨h.justified, fun q hq => nomatch hq⟩

/-- Another step sends no packet. -/
theorem sent_before (hh : v'.history = v.history ++ [a]) (hs : ∀ q, a ≠ .sendPacket q) (q : Packet)
    (hq : .sendPacket q ∈ v'.history) : .sendPacket q ∈ v.history := by
  rw [hh, List.mem_append, List.mem_singleton] at hq
  exact hq.resolve_right fun heq => hs q heq.symm

/-- A step that is neither a send nor a resolution. -/
theorem neutral (h : SenderInv lib v) (hc : v'.commitment = v.commitment)
    (hn : v'.nextSend = v.nextSend) (hh : v'.history = v.history ++ [a])
    (hs : ∀ q, a ≠ .sendPacket q) (hr : a.resolved = none) : SenderInv lib v' := by
  have hcount : ∀ seq, v'.resolvedCount seq = v.resolvedCount seq := by
    intro seq
    simp [resolvedCount, hh, hr]
  have hmem : ∀ q, .sendPacket q ∈ v'.history → .sendPacket q ∈ v.history := sent_before hh hs
  refine ⟨fun seq cm hcm => ?_, fun q hq => ?_, fun q q' hq hq' => ?_, ?_, fun seq => ?_,
    fun seq cm hcm => ?_, ?_⟩
  · obtain ⟨q, hq, hqs, hqc⟩ := h.committed seq cm (hc ▸ hcm)
    exact ⟨q, hh ▸ List.mem_append_left _ hq, hqs, hqc⟩
  · exact hn ▸ h.sent q (hmem q hq)
  · exact h.unique q q' (hmem q hq) (hmem q' hq')
  · exact hn ▸ h.positive
  · exact hcount seq ▸ h.once seq
  · exact hcount seq ▸ h.inFlight seq cm (hc ▸ hcm)
  · rw [hh, List.justified_concat]
    exact ⟨h.justified, fun q hq => by rw [hr] at hq; cases hq⟩

/-- The resolution of a packet in flight. -/
theorem resolve (h : SenderInv lib v) (hcm : v.commitment p.seqOnA = some cm)
    (hp : p.CommitsTo lib cm) (hc : v'.commitment = Function.update v.commitment p.seqOnA none)
    (hn : v'.nextSend = v.nextSend) (hh : v'.history = v.history ++ [a])
    (hr : a.resolved = some p) : SenderInv lib v' := by
  have hs : ∀ q, a ≠ .sendPacket q := by
    rintro q rfl
    cases hr
  have hcount : ∀ seq, v'.resolvedCount seq =
      v.resolvedCount seq + if p.seqOnA = seq then 1 else 0 := by
    intro seq
    simp [resolvedCount, hh, hr]
  have hmem : ∀ q, .sendPacket q ∈ v'.history → .sendPacket q ∈ v.history := sent_before hh hs
  have hother : ∀ seq cm', v'.commitment seq = some cm' →
      seq ≠ p.seqOnA ∧ v.commitment seq = some cm' := by
    intro seq cm' hcm'
    by_cases hseq : seq = p.seqOnA
    · simp [hc, hseq] at hcm'
    · exact ⟨hseq, by simpa [hc, hseq] using hcm'⟩
  refine ⟨fun seq cm' hcm' => ?_, fun q hq => ?_, fun q q' hq hq' => ?_, ?_, fun seq => ?_,
    fun seq cm' hcm' => ?_, ?_⟩
  · obtain ⟨q, hq, hqs, hqc⟩ := h.committed seq cm' (hother seq cm' hcm').2
    exact ⟨q, hh ▸ List.mem_append_left _ hq, hqs, hqc⟩
  · exact hn ▸ h.sent q (hmem q hq)
  · exact h.unique q q' (hmem q hq) (hmem q' hq')
  · exact hn ▸ h.positive
  · rw [hcount]
    split_ifs with hseq
    · rw [← hseq, h.inFlight _ _ hcm]
    · exact h.once seq
  · obtain ⟨hne, hcm'⟩ := hother seq cm' hcm'
    rw [hcount, if_neg (Ne.symm hne)]
    exact h.inFlight seq cm' hcm'
  · rw [hh, List.justified_concat]
    refine ⟨h.justified, fun q hq => ?_⟩
    obtain rfl : p = q := Option.some.inj (hr.symm.trans hq)
    obtain ⟨r, hrm, hrs, hrc⟩ := h.committed _ _ hcm
    exact ⟨r, cm, hrm, hrs, hrc, hp⟩

theorem next (h : SenderInv lib v) (hn : Next lib v v') : SenderInv lib v' := by
  cases hn with
  | opens e _ hv =>
    subst hv
    refine ⟨h.committed, fun p hp => absurd hp List.not_mem_nil, h.unique, fun n hn => ?_, h.once,
      h.inFlight, h.justified⟩
    obtain rfl : 1 = n := Option.some.inj hn
    exact le_rfl
  | moves e e' _ _ =>
    exact ⟨h.committed, h.sent, h.unique, h.positive, h.once, h.inFlight, h.justified⟩
  | sends p e cm he hs hr hn hcm => exact h.send hn hcm
  | receivesUnordered p ack e _ _ _ _ _ => exact h.neutral rfl rfl rfl (fun _ => nofun) rfl
  | receivesOrdered p ack e _ _ _ _ _ => exact h.neutral rfl rfl rfl (fun _ => nofun) rfl
  | acknowledgesUnordered p ack e cm _ _ _ hc hcm => exact h.resolve hc hcm rfl rfl rfl rfl
  | acknowledgesOrdered p ack e cm _ _ _ hc hcm _ => exact h.resolve hc hcm rfl rfl rfl rfl
  | timesOutUnordered p e cm _ _ _ hc hcm => exact h.resolve hc hcm rfl rfl rfl rfl
  | timesOutOrdered p e cm _ _ _ hc hcm => exact h.resolve hc hcm rfl rfl rfl rfl
  | acknowledgeFails p ack e cm _ _ _ _ => exact h.neutral rfl rfl rfl (fun _ => nofun) rfl
  | timeoutFails p e cm _ _ _ _ => exact h.neutral rfl rfl rfl (fun _ => nofun) rfl

end SenderInv

theorem Life.senderInv (h : Life lib v) : SenderInv lib v := by
  induction h with
  | refl => exact .empty lib
  | tail _ hn ih => exact ih.next hn

/-- A commitment lies below the next sequence to send. -/
theorem SenderInv.lt_nextSend (h : SenderInv lib v) {seq : Sequence}
    (hc : v.commitment seq ≠ none) :
    ∃ n, v.nextSend = some n ∧ 1 ≤ seq ∧ seq < n := by
  obtain ⟨cm, hcm⟩ := Option.ne_none_iff_exists'.mp hc
  obtain ⟨p, hp, rfl, -⟩ := h.committed seq cm hcm
  exact h.sent p hp

/-- The next sequence to send does not go back, and below it no commitment is made again. -/
theorem Next.below_nextSend (h : Next lib v v') {seq n : Sequence} (hn : v.nextSend = some n)
    (hlt : seq < n) :
    (∃ n', v'.nextSend = some n' ∧ seq < n') ∧
      (v.commitment seq = none → v'.commitment seq = none) := by
  cases h with
  | opens e _ hv =>
    rw [hv] at hn
    cases hn
  | sends p e cm _ _ _ hn' _ =>
    obtain rfl : n = p.seqOnA := Option.some.inj (hn.symm.trans hn')
    refine ⟨⟨_, rfl, Nat.lt_succ_of_lt hlt⟩, fun hc => ?_⟩
    simpa [Nat.ne_of_lt hlt] using hc
  | acknowledgesUnordered p | acknowledgesOrdered p | timesOutUnordered p | timesOutOrdered p =>
    refine ⟨⟨n, hn, hlt⟩, fun hc => ?_⟩
    simp [Function.update_apply, hc]
  | moves | receivesUnordered | receivesOrdered | acknowledgeFails | timeoutFails =>
    exact ⟨⟨n, hn, hlt⟩, id⟩

theorem Steps.below_nextSend (h : Steps lib v v') {seq n : Sequence} (hn : v.nextSend = some n)
    (hlt : seq < n) :
    (∃ n', v'.nextSend = some n' ∧ seq < n') ∧
      (v.commitment seq = none → v'.commitment seq = none) := by
  induction h with
  | refl => exact ⟨⟨n, hn, hlt⟩, id⟩
  | tail _ hnext ih =>
    obtain ⟨⟨n₁, hn₁, hlt₁⟩, hc⟩ := ih
    obtain ⟨hn₂, hc'⟩ := hnext.below_nextSend hn₁ hlt₁
    exact ⟨hn₂, hc' ∘ hc⟩

/-! ### The window of an ordered channel -/

/-- The sequences of packets in flight: all from the next to acknowledge to the next to send on an
ordered channel that is not closed, some of those below the next to send on any other. -/
structure Window (v : ChannelView) (e : ChannelEnd) (na ns : Sequence) : Prop where
  nextAck : v.nextAck = some na
  nextSend : v.nextSend = some ns
  positive : 1 ≤ na
  below : ∀ seq, v.commitment seq ≠ none → 1 ≤ seq ∧ seq < ns
  ordered : e.ordering = .ordered → e.state ≠ .closed → na ≤ ns ∧
    ∀ seq, v.commitment seq ≠ none ↔ na ≤ seq ∧ seq < ns

/-- A channel end has a window. -/
def HasWindow (v : ChannelView) : Prop :=
  ∀ e, v.channel = some e → ∃ na ns, v.Window e na ns

theorem Window.delete {e : ChannelEnd} {na ns seq seq' : Sequence} (h : v.Window e na ns)
    (hs : Function.update v.commitment seq' none seq ≠ none) : 1 ≤ seq ∧ seq < ns := by
  refine h.below seq fun hc => hs ?_
  rw [Function.update_apply, hc, ite_self]

/-- Sending the next packet adds the upper end of the window. -/
theorem window_insert {α : Type} {f : Sequence → Option α} {na ns : Sequence} {x : α}
    (hle : na ≤ ns) (h : ∀ seq, f seq ≠ none ↔ na ≤ seq ∧ seq < ns) (seq : Sequence) :
    Function.update f ns (some x) seq ≠ none ↔ na ≤ seq ∧ seq < ns + 1 := by
  by_cases hseq : seq = ns
  · subst hseq
    simpa using hle
  · rw [Function.update_of_ne hseq, h seq]
    grind

/-- Acknowledging the next packet takes away the lower end. -/
theorem window_delete {α : Type} {f : Sequence → Option α} {na ns : Sequence}
    (h : ∀ seq, f seq ≠ none ↔ na ≤ seq ∧ seq < ns) (seq : Sequence) :
    Function.update f na none seq ≠ none ↔ na + 1 ≤ seq ∧ seq < ns := by
  by_cases hseq : seq = na
  · simp [hseq]
  · rw [Function.update_of_ne hseq, h seq]
    grind

theorem HasWindow.next (h : HasWindow v) (hpos : ∀ n, v.nextSend = some n → 1 ≤ n)
    (hn : Next lib v v') : HasWindow v' := by
  cases hn with
  | opens e _ hv =>
    intro e' he'
    refine ⟨1, 1, rfl, rfl, le_rfl, fun seq hc => absurd rfl hc, fun _ _ => ⟨le_rfl, fun seq => ?_⟩⟩
    constructor
    · exact fun hc => absurd rfl hc
    · exact fun ⟨h₁, h₂⟩ => absurd h₂ (not_lt.mpr h₁)
  | moves e e' he hm =>
    rintro _ ⟨⟩
    obtain ⟨na, ns, w⟩ := h e he
    obtain ⟨ho, hs⟩ := hm.ordering_and_not_closed
    exact ⟨na, ns, w.nextAck, w.nextSend, w.positive, w.below, fun ho' _ => w.ordered (ho ▸ ho') hs⟩
  | sends p e cm he hs hr hnext hcm =>
    intro e' he'
    obtain rfl : e = e' := Option.some.inj (he.symm.trans he')
    obtain ⟨na, ns, w⟩ := h e he
    obtain rfl : ns = p.seqOnA := Option.some.inj (w.nextSend.symm.trans hnext)
    refine ⟨na, p.seqOnA + 1, w.nextAck, rfl, w.positive, fun seq hc => ?_, fun ho _ => ?_⟩
    · by_cases hseq : seq = p.seqOnA
      · exact ⟨hseq ▸ hpos _ hnext, hseq ▸ Nat.lt_succ_self _⟩
      · have := w.below seq (by simpa [hseq] using hc)
        exact ⟨this.1, Nat.lt_succ_of_lt this.2⟩
    · obtain ⟨hle, hiff⟩ := w.ordered ho hs
      exact ⟨Nat.le_succ_of_le hle, window_insert hle hiff⟩
  | receivesUnordered | receivesOrdered | acknowledgeFails | timeoutFails =>
    intro e he
    obtain ⟨na, ns, w⟩ := h e he
    exact ⟨na, ns, w.nextAck, w.nextSend, w.positive, w.below, w.ordered⟩
  | acknowledgesUnordered p ack e cm he ho | timesOutUnordered p e cm he ho =>
    intro e' he'
    obtain rfl : e = e' := Option.some.inj (he.symm.trans he')
    obtain ⟨na, ns, w⟩ := h e he
    refine ⟨na, ns, w.nextAck, w.nextSend, w.positive, fun seq => w.delete, fun ho' => ?_⟩
    rw [ho] at ho'
    cases ho'
  | acknowledgesOrdered p ack e cm he ho hr hc hcm hnext =>
    intro e' he'
    obtain rfl : e = e' := Option.some.inj (he.symm.trans he')
    obtain ⟨na, ns, w⟩ := h e he
    obtain rfl : na = p.seqOnA := Option.some.inj (w.nextAck.symm.trans hnext)
    refine ⟨p.seqOnA + 1, ns, rfl, w.nextSend, Nat.le_add_left 1 _, fun seq => w.delete,
      fun _ hs => ?_⟩
    obtain ⟨-, hiff⟩ := w.ordered ho hs
    exact ⟨((hiff p.seqOnA).mp (by simp [hc])).2, window_delete hiff⟩
  | timesOutOrdered p e cm he =>
    rintro _ ⟨⟩
    obtain ⟨na, ns, w⟩ := h e he
    exact ⟨na, ns, w.nextAck, w.nextSend, w.positive, fun seq => w.delete,
      fun _ hs => absurd rfl hs⟩

theorem Life.hasWindow (h : Life lib v) : HasWindow v := by
  induction h with
  | refl =>
    intro e he
    cases he
  | tail hl hn ih => exact ih.next (Life.senderInv hl).positive hn

end ChannelView

/-! ### On the chain -/

section Chain

variable {CS Cons μ : Type} {H : Host CS Cons μ} {s : Ctx CS Cons μ}

/-- The channel a packet key belongs to. -/
def PacketKey.channel (key : PacketKey) : ChannelKey := (key.1, key.2.1)

theorem Action.resolved_channel {a : Action} {p : Packet} (h : a.resolved = some p) :
    a.channel = p.chanOnA := by
  cases a with
  | sendPacket | recvPacket => cases h
  | acknowledgePacket q ack ok => cases ok <;> cases h; rfl
  | timeoutPacket q ok => cases ok <;> cases h; rfl

/-- A key is its channel and its sequence. -/
theorem Packet.keyOnA_eq {p : Packet} {key : PacketKey} (hch : p.chanOnA = key.channel)
    (hseq : p.seqOnA = key.2.2) : p.keyOnA = key := by
  simp only [chanOnA, PacketKey.channel, Prod.mk.injEq] at hch
  simp only [keyOnA, hch, hseq]

theorem Packet.chanOnA_eq {p q : Packet} (h : p.keyOnA = q.keyOnA) : p.chanOnA = q.chanOnA := by
  simp only [keyOnA, Prod.mk.injEq] at h
  simp only [chanOnA, h]

/-- The resolutions under a key happen on its channel. -/
theorem resolutions_eq (key : PacketKey) (s : Ctx CS Cons μ) :
    resolutions key s.history = (s.view key.channel).resolvedCount key.2.2 := by
  simp only [resolutions, ChannelView.resolvedCount, Ctx.view, ChannelStore.view,
    List.countP_filter]
  refine List.countP_congr fun a _ => ?_
  simp only [decide_eq_true_eq, Bool.and_eq_true, Option.map_eq_some_iff]
  constructor
  · rintro ⟨p, hp, rfl⟩
    exact ⟨⟨p, hp, rfl⟩, Action.resolved_channel hp⟩
  · rintro ⟨⟨p, hp, hseq⟩, hch⟩
    rw [Action.resolved_channel hp] at hch
    exact ⟨p, hp, Packet.keyOnA_eq hch hseq⟩

/-- A commitment is of a packet that was sent. -/
theorem Reachable.committed (iso : H.Isolated) (h : Reachable H s) {key : PacketKey}
    {cm : PacketCommitment} (hcm : s.store.channel.packetCommitment key = some cm) :
    ∃ q, .sendPacket q ∈ s.history ∧ q.keyOnA = key ∧ q.CommitsTo H.library cm := by
  have inv := ChannelView.Life.senderInv (h.life iso key.channel)
  obtain ⟨q, hq, hseq, hcommits⟩ := inv.committed key.2.2 cm hcm
  obtain ⟨hq, hch⟩ := mem_view_history.mp hq
  exact ⟨q, hq, Packet.keyOnA_eq hch hseq, hcommits⟩

/-- One packet is sent under a key. -/
theorem Reachable.sent_unique (iso : H.Isolated) (h : Reachable H s) {p q : Packet}
    (hp : .sendPacket p ∈ s.history) (hq : .sendPacket q ∈ s.history) (hkey : p.keyOnA = q.keyOnA) :
    p = q := by
  have hch := Packet.chanOnA_eq hkey.symm
  have inv := ChannelView.Life.senderInv (h.life iso p.chanOnA)
  exact inv.unique p q (mem_view_history.mpr ⟨hp, rfl⟩) (mem_view_history.mpr ⟨hq, hch⟩)
    (congrArg (·.2.2) hkey)

theorem Reachable.resolutions_le_one (iso : H.Isolated) (h : Reachable H s) (key : PacketKey) :
    resolutions key s.history ≤ 1 := by
  rw [resolutions_eq]
  exact (ChannelView.Life.senderInv (h.life iso key.channel)).once _

/-- **A sent packet is resolved at most once.** Whatever the run, the callbacks for an
acknowledgement and for a timeout return success at most once for a packet key, and only after a
packet with the same commitment was sent under it. Commitments exist below the next sequence to
send only, and a deleted commitment does not come back. -/
theorem resolved_at_most_once (iso : H.Isolated) (h : Reachable H s) (key : PacketKey) :
    resolutions key s.history ≤ 1 ∧
    (∀ pre a post p, s.history = pre ++ a :: post → a.resolved = some p → p.keyOnA = key →
      ∃ q cm, .sendPacket q ∈ pre ∧ q.keyOnA = key ∧ q.CommitsTo H.library cm ∧
        p.CommitsTo H.library cm) ∧
    (s.store.channel.packetCommitment key ≠ none →
      ∃ n, s.store.channel.nextSequenceSend key.channel = some n ∧ key.2.2 < n) ∧
    (s.store.channel.packetCommitment key ≠ none →
      ∀ s₁ s₂, Run H s s₁ → Run H s₁ s₂ → s₁.store.channel.packetCommitment key = none →
        s₂.store.channel.packetCommitment key = none) := by
  have inv := ChannelView.Life.senderInv (h.life iso key.channel)
  refine ⟨h.resolutions_le_one iso key, fun pre a post p hsplit hr hkey => ?_, fun hc => ?_,
    fun hc s₁ s₂ h₁ h₂ hc₁ => ?_⟩
  · -- The history of the channel is the chain's, filtered: what precedes `a` there does here.
    have hch : a.channel = key.channel := by
      rw [Action.resolved_channel hr, ← hkey]
      rfl
    have hview : (s.view key.channel).history =
        pre.filter (fun a => a.channel = key.channel) ++ a ::
          post.filter (fun a => a.channel = key.channel) := by
      simp [Ctx.view, ChannelStore.view, hsplit, hch]
    obtain ⟨q, cm, hq, hseq, hqc, hpc⟩ := inv.justified _ _ _ hview p hr
    obtain ⟨hq, hqch⟩ := List.mem_filter.mp hq
    refine ⟨q, cm, hq, ?_, hqc, hpc⟩
    exact Packet.keyOnA_eq (of_decide_eq_true hqch) (hseq.trans (congrArg (·.2.2) hkey))
  · obtain ⟨n, hn, -, hlt⟩ := inv.lt_nextSend hc
    exact ⟨n, hn, hlt⟩
  · obtain ⟨n, hn, -, hlt⟩ := inv.lt_nextSend hc
    obtain ⟨⟨n₁, hn₁, hlt₁⟩, -⟩ := (h₁.steps iso h key.channel).below_nextSend hn hlt
    exact ((h₂.steps iso (h.run h₁) key.channel).below_nextSend hn₁ hlt₁).2 hc₁

/-- On the mock host the sample packet is sent and acknowledged: it is resolved, and only once. -/
theorem mock_packet_resolved_once : ∃ s, Reachable MockRun.host s ∧
    s.history = [.sendPacket MockRun.packet,
      .acknowledgePacket MockRun.packet dummyAcknowledgement true] ∧
    0 < resolutions MockRun.packet.keyOnA s.history ∧
    resolutions MockRun.packet.keyOnA s.history ≤ 1 := by
  obtain ⟨s, hs, hh⟩ := Reachable.exists_of_runAll (H := MockRun.host) (s := MockRun.start)
    (MockRun.opening .ordered ++ [.sendPacket MockRun.packet, MockRun.ackPacket])
    (fun s => s.history) (a := [.sendPacket MockRun.packet,
      .acknowledgePacket MockRun.packet dummyAcknowledgement true]) rfl rfl (by decide +kernel)
  refine ⟨s, hs, hh, ?_, (resolved_at_most_once MockRun.host_isolated hs _).1⟩
  rw [hh]
  decide

/-- **The window of an ordered channel end.** On an ordered end that is not closed the packets in
flight are exactly those from the next sequence to acknowledge to the next to send; on any other
they lie below the next to send. -/
theorem ordered_window (iso : H.Isolated) (h : Reachable H s) (key : ChannelKey) (e : ChannelEnd)
    (he : s.store.channel.channels key = some e) :
    ∃ na ns, s.store.channel.nextSequenceAck key = some na ∧
      s.store.channel.nextSequenceSend key = some ns ∧
      (e.ordering = .ordered → e.state ≠ .closed → na ≤ ns ∧
        {seq | s.store.channel.packetCommitment (key.1, key.2, seq) ≠ none} =
          {seq | na ≤ seq ∧ seq < ns}) ∧
      (e.ordering = .unordered ∨ e.state = .closed →
        {seq | s.store.channel.packetCommitment (key.1, key.2, seq) ≠ none} ⊆
          {seq | 1 ≤ seq ∧ seq < ns}) := by
  obtain ⟨na, ns, w⟩ := ChannelView.Life.hasWindow (h.life iso key) e he
  refine ⟨na, ns, w.nextAck, w.nextSend, fun ho hs => ?_, fun _ => w.below⟩
  obtain ⟨hle, hiff⟩ := w.ordered ho hs
  exact ⟨hle, Set.ext hiff⟩

/-- On the mock host with one packet sent and none acknowledged, the window holds that packet. -/
theorem mock_window : ∃ s e, Reachable MockRun.host s ∧
    s.store.channel.channels (.transfer, MockRun.channelId) = some e ∧ e.ordering = .ordered ∧
    e.state = .open ∧
    {seq | s.store.channel.packetCommitment (.transfer, MockRun.channelId, seq) ≠ none} =
      {seq | 1 ≤ seq ∧ seq < 2} := by
  obtain ⟨s, hs, hc⟩ := Reachable.exists_of_runAll (H := MockRun.host) (s := MockRun.start)
    (MockRun.opening .ordered ++ [.sendPacket MockRun.packet])
    (fun s => ((s.store.channel.channels (.transfer, MockRun.channelId)).map
        fun e => (e.ordering, e.state),
      s.store.channel.nextSequenceAck (.transfer, MockRun.channelId),
      s.store.channel.nextSequenceSend (.transfer, MockRun.channelId)))
    (a := (some (.ordered, .open), some 1, some 2)) rfl rfl
    (by decide +kernel)
  simp only [Prod.mk.injEq, Option.map_eq_some_iff] at hc
  obtain ⟨⟨e, he, ho, hst⟩, hna, hns⟩ := hc
  obtain ⟨na, ns, hna', hns', hw, -⟩ := ordered_window MockRun.host_isolated hs _ e he
  obtain rfl : na = 1 := Option.some.inj (hna'.symm.trans hna)
  obtain rfl : ns = 2 := Option.some.inj (hns'.symm.trans hns)
  exact ⟨s, e, hs, he, ho, hst, (hw ho (by rw [hst]; decide)).2⟩

end Chain

end Ibc
