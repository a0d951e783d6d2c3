import Ibc.Protocol.Authentic

/-!
# A packet is received or timed out, never both

A packet that was received on the other chain cannot be timed out, and one that was timed out cannot
be received. Three checks on two chains have to meet: a packet is received only before its timeout,
it is timed out only after it, and only against a store in which it was not received.

For this the sending chain has to know when the other chain was in which state (`Tracks`): at height
`h` its clients hold the time of block `h`, and the root of the store with which block `h` began.
The other chain's height does not go back, and its time goes on with each block (`Input.Ticks`).

**`packet_exclusive`**: whatever way the timeout arrived. The heart of it is `Undelivered`: a state
of the other chain in which the packet was not received, and in which it is too late for it. This is
so when a block begins that a timeout can be proved against, and it stays so.
-/

namespace Ibc

variable {CS Cons μ CS' Cons' μ' : Type}

/-! ### Clients that know the time -/

/-- The store holds nothing under `path`. What a chain stores about its own clients is left open. -/
def Store.Lacks (st : Store CS Cons) : Path → Prop
  | .connection id => st.connection.connections id = none
  | .channelEnd port chan => st.channel.channels (port, chan) = none
  | .seqSend port chan => st.channel.nextSequenceSend (port, chan) = none
  | .seqRecv port chan => st.channel.nextSequenceRecv (port, chan) = none
  | .seqAck port chan => st.channel.nextSequenceAck (port, chan) = none
  | .commitment port chan seq => st.channel.packetCommitment (port, chan, seq) = none
  | .ack port chan seq => st.channel.packetAcknowledgement (port, chan, seq) = none
  | .receipt port chan seq => st.channel.packetReceipt (port, chan, seq) = none
  | .clientState _ => True
  | .clientConsensusState _ _ => True
  | .clientConnection _ => True
  | .ports _ => True
  | .upgradedClientState _ => True
  | .upgradedClientConsensusState _ => True

/-- The block at height `h` begins in the state `b`: all states before it, in `seen` the later ones
of the list, are of lower blocks. Its store is what their transactions left. -/
def BeginsBlock (seen : List (Ctx CS Cons μ)) (h : Height) (b : Ctx CS Cons μ) : Prop :=
  b.env.hostHeight = h ∧
    ∃ after before, seen = after ++ b :: before ∧ ∀ c ∈ before, c.env.hostHeight < h

/-- What a stored client holds at a height is the time of that block of the other chain, and the
root of the store with which it began: what is accepted against it is true of that store. -/
def Tracks (H : Host CS Cons μ) (seen : List (Ctx CS' Cons' μ')) (s : Ctx CS Cons μ) : Prop :=
  ∀ id cs h cons, s.store.client.clients.clientState id = some cs →
    s.store.client.clients.consensusState id h = some cons →
    ∃ b, BeginsBlock seen h b ∧ H.lightClient.timestamp cons = b.env.hostTimestamp ∧
      (∀ pfx path value, H.lightClient.Accepts cs cons pfx path (some value) →
        b.store.Holds path value) ∧
      ∀ pfx path, H.lightClient.Accepts cs cons pfx path none → b.store.Lacks path

theorem BeginsBlock.mem {seen : List (Ctx CS Cons μ)} {h : Height} {b : Ctx CS Cons μ}
    (hb : BeginsBlock seen h b) : b ∈ seen := by
  obtain ⟨-, after, before, rfl, -⟩ := hb
  exact List.mem_append_right _ List.mem_cons_self

theorem Tracks.sound {H : Host CS Cons μ} {seen : List (Ctx CS' Cons' μ')} {s : Ctx CS Cons μ}
    (h : Tracks H seen s) : Sound H seen s := by
  intro id cs height cons pfx path value hcs hcons hacc
  obtain ⟨b, hb, -, hholds, -⟩ := h id cs height cons hcs hcons
  exact ⟨b, hb.mem, hholds pfx path value hacc⟩

/-- Time goes on with each block, and heights do not go back. -/
def Input.Ticks (s : Ctx CS Cons μ) (i : Input Cons μ) : Prop :=
  ∀ env, i = .newBlock env → s.env.hostHeight ≤ env.hostHeight ∧
    ∃ t t', s.env.hostTimestamp.time = some t ∧ env.hostTimestamp.time = some t' ∧ t < t'

/-- The timeout height of a packet, if the input has one, is in 64-bit words. -/
def Input.InWords (i : Input Cons μ) : Prop := ∀ p, i.packet = some p → p.timeoutHeightOnB.InWords

/-- A packet in a message has timeouts that a decoder produces. One that is to be sent may have any,
as 64-bit words. -/
def Input.RelaysDecoded (i : Input Cons μ) : Prop :=
  ∀ p, i.packet = some p → p.timeoutHeightOnB.InWords ∧ (i ≠ .sendPacket p → p.TimeoutsDecoded)

theorem Input.inWords_iff {i : Input Cons μ} :
    i.packet.all (fun p => decide p.timeoutHeightOnB.InWords) = true ↔ i.InWords := by
  simp only [InWords, Option.all_eq_true, decide_eq_true_eq]

theorem Input.relaysDecoded_iff {i : Input Cons μ} :
    i.InWords ∧ (i.sends = none → i.TimeoutsDecoded) ↔ i.RelaysDecoded := by
  cases i <;> simp [RelaysDecoded, InWords, TimeoutsDecoded, sends, packet, forall_and]

instance : DecidablePred (Input.InWords : Input Cons μ → Prop) := fun i =>
  decidable_of_iff (i.packet.all fun p => decide p.timeoutHeightOnB.InWords) Input.inWords_iff

instance : DecidablePred (Input.RelaysDecoded : Input Cons μ → Prop) := fun i =>
  decidable_of_iff (i.InWords ∧ (i.sends = none → i.TimeoutsDecoded)) Input.relaysDecoded_iff

/-- Two chains with sound clients of each other, where the first also knows when the other was in
which state. -/
def relay (HA : Host CS Cons μ) (HB : Host CS' Cons' μ') (okA : Input Cons μ → Prop)
    (okB : Input Cons' μ' → Prop) : Duo.System (Ctx CS Cons μ) (Ctx CS' Cons' μ') where
  startLeft := Ctx.Fresh
  startRight b := b.Fresh ∧ b.env.hostTimestamp.time ≠ none
  stepLeft seen a a' := Tracks HA seen a ∧ ∃ i, okA i ∧ Step HA i a a'
  stepRight seen b b' := Sound HB seen b ∧ ∃ i, okB i ∧ i.Ticks b ∧ Step HB i b b'

/-! ### Timeouts -/

section Timeouts

variable {p q : Packet} {ts ts' : Timestamp} {h h' : Height}

theorem Packet.timedOut_iff : p.timedOut ts h = true ↔
    (∃ k, p.timeoutHeightOnB = .at k ∧ k < h) ∨
      ∃ t d, ts.time = some t ∧ p.timeoutTimestampOnB.time = some d ∧ d < t := by
  simp only [timedOut, Bool.or_eq_true, Bool.and_eq_true, decide_eq_true_eq,
    Timestamp.checkExpiry_eq_expired]
  refine or_congr ?_ ?_
  · cases p.timeoutHeightOnB with
    | never => simp [TimeoutHeight.hasExpired]
    | «at» k => simp [TimeoutHeight.hasExpired]
  · refine ⟨fun hor => hor.2, fun hor => ⟨?_, hor⟩⟩
    obtain ⟨_, d, -, hd, -⟩ := hor
    simp [Timestamp.isSet, hd]

/-- A packet whose timeout has passed stays so. -/
theorem Packet.timedOut_mono (hout : p.timedOut ts h = true) (hle : h ≤ h')
    (hts : ∀ t, ts.time = some t → ∃ t', ts'.time = some t' ∧ t ≤ t') :
    p.timedOut ts' h' = true := by
  rw [timedOut_iff] at hout ⊢
  rcases hout with ⟨k, hk, hlt⟩ | ⟨t, d, ht, hd, hlt⟩
  · exact .inl ⟨k, hk, hlt.trans_le hle⟩
  · obtain ⟨t', ht', hle'⟩ := hts t ht
    exact .inr ⟨t', d, ht', hd, hlt.trans_le hle'⟩

/-- Two packets with the same content, one of them decoded and timed out: the other cannot be
received. -/
theorem Packet.SameContent.expired (hpq : p.SameContent q) (hp : p.TimeoutsDecoded)
    (hout : p.timedOut ts h = true) :
    q.timeoutHeightOnB.hasExpired h = true ∨ ts.checkExpiry q.timeoutTimestampOnB = .expired := by
  rcases timedOut_iff.mp hout with ⟨k, hk, hlt⟩ | ⟨t, d, ht, hd, hlt⟩
  · left
    rw [hp.height.at_eq hpq.revisionNumber hpq.revisionHeight hk]
    exact decide_eq_true hlt
  · right
    obtain ⟨n, hn, hn'⟩ := hpq.nanoseconds
    exact Timestamp.checkExpiry_eq_expired.mpr
      ⟨t, d, ht, hp.timestamp.time_eq hn hn' hd, hlt⟩

end Timeouts

/-! ### Too late for a packet -/

/-- The packet was not received, and it is too late for it: its timeout has passed, or the channel
end is closed. -/
structure Undelivered (b : Ctx CS Cons μ) (p : Packet) : Prop where
  unreceived : ∀ q ack, .recvPacket q ack ∈ b.history → q.keyOnB = p.keyOnB → ¬ p.SameContent q
  late : p.timedOut b.env.hostTimestamp b.env.hostHeight = true ∨
    ∃ e, b.store.channel.channels p.chanOnB = some e ∧ e.state = .closed

section OneChain

variable {H : Host CS Cons μ} {s s' : Ctx CS Cons μ} {i : Input Cons μ} {p : Packet}

/-- Too late stays too late. -/
theorem Undelivered.step (iso : H.Isolated) (hr : Reachable H s) (hs : Step H i s s')
    (hticks : i.Ticks s) (hp : p.TimeoutsDecoded) (h : Undelivered s p) : Undelivered s' p := by
  refine ⟨fun q ack hq hkey hsame => ?_, ?_⟩
  · obtain hq | hq := hs.happens iso hq
    · exact h.unreceived q ack hq hkey hsame
    cases hq with
    | recv _ hv =>
      rcases h.late with hout | ⟨e, he, hclosed⟩
      · rcases hsame.expired hp hout with hexp | hexp
        · exact absurd hexp (by simp [hv.height])
        · exact hv.timestamp hexp
      · have hsame := hv.channel
        rw [Packet.chanOnB_eq hkey, he] at hsame
        cases hsame
        have hopen := hv.state
        rw [hclosed] at hopen
        cases hopen
  · rcases h.late with hout | ⟨e, he, hclosed⟩
    · left
      rcases hs.env_eq iso with henv | rfl
      · rwa [henv]
      · obtain ⟨hle, t, t', ht, ht', hlt⟩ := hticks _ rfl
        refine Packet.timedOut_mono hout hle fun t₀ ht₀ => ⟨t', ht', ?_⟩
        obtain rfl : t = t₀ := Option.some.inj (ht.symm.trans ht₀)
        exact hlt.le
    · right
      obtain ⟨e', he', hkept⟩ := (Run.refl.step i hs).channel_kept iso hr he (by simp [hclosed])
      refine ⟨e', he', ?_⟩
      rcases hkept.state with hst | ⟨hst, -⟩ | hst
      · rw [hst, hclosed]
      · rw [hclosed] at hst
        cases hst
      · exact hst

/-- A chain that expects the packet next, or has no receipt for it, has not received it. -/
theorem Reachable.not_received (iso : H.Isolated) (hr : Reachable H s) {ordering : Order}
    (ho : ∀ e, s.store.channel.channels p.chanOnB = some e → e.ordering = ordering)
    (hnew : if ordering = .ordered then
        s.store.channel.nextSequenceRecv p.chanOnB = some p.seqOnA
      else s.store.channel.packetReceipt p.keyOnB = none) {q : Packet} {ack : Acknowledgement}
    (hq : .recvPacket q ack ∈ s.history) : q.keyOnB ≠ p.keyOnB := by
  intro hkey
  have hch := Packet.chanOnB_eq hkey
  have hseq : q.seqOnA = p.seqOnA := congrArg (·.2.2) hkey
  obtain ⟨e, he, -⟩ := hr.addressed iso hq
  rw [show (Action.recvPacket q ack).channel = p.chanOnB from hch] at he
  have inv := ChannelView.Life.receiverInv (hr.life iso p.chanOnB)
  have hmem : p.seqOnA ∈ (s.view p.chanOnB).received := by
    refine List.mem_filterMap.mpr ⟨.recvPacket q ack, mem_view_history.mpr ⟨hq, hch⟩, ?_⟩
    rw [Action.received, hseq]
  split_ifs at hnew with hord
  · obtain ⟨n, hrec, hnext⟩ := inv.ordered e he ((ho e he).trans hord)
    obtain hn : n + 1 = p.seqOnA := Option.some.inj (hnext.symm.trans hnew)
    rw [hrec, List.mem_range'_1] at hmem
    omega
  · have hunord := (hr.channelEnd_wf iso he).unordered (ho e he ▸ hord)
    exact ((inv.unordered e he hunord).2 p.seqOnA).mpr hmem hnew

end OneChain

/-! ### The ordering of an end -/

/-- The channel end under the key, if there is one, has the ordering `o`. -/
def Ctx.HasOrdering (s : Ctx CS Cons μ) (key : ChannelKey) (o : Order) : Prop :=
  ∀ e, s.store.channel.channels key = some e → e.ordering = o

/-- The ordering of an end does not change, so it was the same before. -/
theorem Step.hasOrdering_before {H : Host CS Cons μ} {s s' : Ctx CS Cons μ} {i : Input Cons μ}
    (iso : H.Isolated) (hr : Reachable H s) (hs : Step H i s s') {key : ChannelKey} {o : Order}
    (h : s'.HasOrdering key o) : s.HasOrdering key o := by
  intro e he
  obtain ⟨e', he', hf⟩ := hs.channel_forward iso hr he
  rw [← hf.ordering, h e' he']

/-! ### What a timeout shows -/

/-- What was shown of the other chain is true of the store. -/
def Store.Agrees (st : Store CS Cons) (path : Path) : Option Bytes → Prop
  | some value => st.Holds path value
  | none => st.Lacks path

section TwoChains

variable {HA : Host CS Cons μ} {HB : Host CS' Cons' μ'} {okA : Input Cons μ → Prop}
  {okB : Input Cons' μ' → Prop} {w : Duo (Ctx CS Cons μ) (Ctx CS' Cons' μ')} {p q : Packet}
  {seen : List (Ctx CS' Cons' μ')} {a : Ctx CS Cons μ} {hops : List ConnectionId} {h : Height}
  {cons : Cons}

/-- All that is shown at a height is about one block of the other chain. -/
theorem Tracks.block (ht : Tracks HA seen a) {path : Path} {value : Option Bytes}
    (hshown : Shown HA a.store hops h cons path value) :
    ∃ b, BeginsBlock seen h b ∧ HA.lightClient.timestamp cons = b.env.hostTimestamp ∧
      ∀ path value, Shown HA a.store hops h cons path value → b.store.Agrees path value := by
  obtain ⟨conn, cs, hconn, hcs, hcons, -⟩ := hshown
  obtain ⟨b, hb, htime, hholds, hlacks⟩ := ht conn.clientId cs h cons hcs hcons
  refine ⟨b, hb, htime, fun path value hs => ?_⟩
  obtain ⟨conn', cs', hconn', hcs', -, hacc⟩ := hs
  obtain rfl : conn = conn' := Option.some.inj (hconn.symm.trans hconn')
  obtain rfl : cs = cs' := Option.some.inj (hcs.symm.trans hcs')
  cases value with
  | some value => exact hholds _ path value hacc
  | none => exact hlacks _ path hacc

/-- A packet that may be timed out was undelivered when the block of the proof began. -/
theorem Tracks.undelivered (isoB : HB.Isolated) (ht : Tracks HA seen a)
    (hseen : ∀ b ∈ seen, Reachable HB b) {e : ChannelEnd} {cm : PacketCommitment}
    (hv : TimeoutValid HA a.store p e cm) :
    ∃ b ∈ seen, b.HasOrdering p.chanOnB e.ordering → Undelivered b p := by
  obtain ⟨h, cons, hlate, hun⟩ := hv.late
  obtain ⟨b, hb, htime, hagrees⟩ : ∃ b, BeginsBlock seen h b ∧
      HA.lightClient.timestamp cons = b.env.hostTimestamp ∧
      ∀ path value, Shown HA a.store e.connectionHops h cons path value →
        b.store.Agrees path value := by
    unfold Unreceived at hun
    split_ifs at hun
    · exact ht.block hun
    · exact ht.block hun
  refine ⟨b, hb.mem, fun ho => ⟨fun q ack hq hkey _ => ?_, ?_⟩⟩
  · refine (hseen b hb.mem).not_received isoB ho ?_ hq hkey
    unfold Unreceived at hun
    split_ifs at hun ⊢
    · obtain ⟨n, hn, henc⟩ := Option.map_eq_some_iff.mp (hagrees _ _ hun)
      rw [← encodeU64_inj henc]
      exact hn
    · exact hagrees _ _ hun
  · cases hlate with
    | timedOut hout =>
      left
      rw [hb.1, ← htime]
      exact hout
    | closed hops hs => exact .inr ⟨_, Store.Holds.channelEnd (hagrees _ _ hs), rfl⟩

end TwoChains

/-! ### What is recorded -/

section Recorded

open Exec

variable {H : Host CS Cons μ} {s s' : Ctx CS Cons μ} {p x : Packet}

/-- A request to send records nothing but the packet. -/
def RecordsSend (s : Ctx CS Cons μ) (p : Packet) (_ : Result ContextError Unit)
    (s' : Ctx CS Cons μ) : Prop :=
  s'.history = s.history ∨ s'.history = s.history ++ [.sendPacket p]

theorem sendPacket_records : Ensures (sendPacket H p) s (RecordsSend s p) := by
  refine Ensures.ofResult_bind (fun _ _ => .inl rfl) fun _ _ => ?_
  refine Ensures.ofExcept_bind (fun _ _ => .inl rfl) fun _ _ => ?_
  refine Ensures.addU64_bind (.inl rfl) fun _ => ?_
  refine Ensures.ofResult_bind (fun _ _ => .inl rfl) fun _ _ => ?_
  refine Ensures.ofExcept_bind (fun _ _ => .inr rfl) fun _ _ => ?_
  refine Ensures.index_zero_bind (.inr rfl) fun _ => ?_
  exact .inr rfl

/-- A packet is timed out by a message. -/
theorem Step.timeout_ne_sendPacket (hs : Step H (.sendPacket p) s s') {ok : Bool}
    (hx : .timeoutPacket x ok ∈ s'.history) : .timeoutPacket x ok ∈ s.history := by
  obtain ⟨r, hrun, -⟩ := hs
  have hrec : RecordsSend s p r s' := by
    have := sendPacket_records (H := H) (s := s) (p := p)
    rwa [Ensures, show sendPacket H p s = (r, s') from hrun] at this
  rcases hrec with heq | heq
  · rwa [heq] at hx
  · rw [heq, List.mem_append, List.mem_singleton] at hx
    rcases hx with hx | hx
    · exact hx
    · cases hx

end Recorded

/-! ### Never both -/

section Exclusive

variable {HA : Host CS Cons μ} {HB : Host CS' Cons' μ'} {okA : Input Cons μ → Prop}
  {okB : Input Cons' μ' → Prop} {w : Duo (Ctx CS Cons μ) (Ctx CS' Cons' μ')} {p q x : Packet}

theorem Packet.SameContent.trans {p q r : Packet} (h : p.SameContent q) (h' : q.SameContent r) :
    p.SameContent r := by
  obtain ⟨n, hp, hq⟩ := h.nanoseconds
  obtain ⟨m, hq', hr⟩ := h'.nanoseconds
  obtain rfl : n = m := Except.ok.inj (hq.symm.trans hq')
  exact ⟨h.data.trans h'.data, h.revisionNumber.trans h'.revisionNumber,
    h.revisionHeight.trans h'.revisionHeight, n, hp, hr⟩

theorem Packet.keyOnB_eq_of_destination (hkey : p.keyOnA = q.keyOnA)
    (hdest : p.destination = q.destination) : p.keyOnB = q.keyOnB := by
  simp only [keyOnA, keyOnB, destination, Prod.mk.injEq, Counterparty.mk.injEq,
    Option.some.injEq] at hkey hdest ⊢
  exact ⟨hdest.1, hdest.2, hkey.2.2⟩

theorem Packet.keyOnA_eq_of_source (hkey : p.keyOnB = q.keyOnB) (hsource : p.source = q.source) :
    p.keyOnA = q.keyOnA := by
  simp only [keyOnA, keyOnB, source, Prod.mk.injEq, Counterparty.mk.injEq,
    Option.some.injEq] at hkey hsource ⊢
  exact ⟨hsource.1, hsource.2, hkey.2.2⟩

/-- The two chains are chains with sound clients of each other. -/
theorem Relay.world (h : (relay HA HB okA okB).Reachable w) :
    (world HA HB okA okB).Reachable w := by
  refine h.mono (fun _ ha => ha) (fun _ hb => hb.1) ?_ ?_
  · rintro seen a a' ⟨htracks, hstep⟩
    exact ⟨htracks.sound, hstep⟩
  · rintro seen b b' ⟨hsound, i, hi, -, hs⟩
    exact ⟨hsound, i, hi, hs⟩

/-- A packet that was received has the content of the one that was sent under its key. -/
theorem World.received_content (isoA : HA.Isolated) (isoB : HB.Isolated)
    (hlib : HB.library.sha256 = HA.library.sha256) (inj : Function.Injective HA.library.sha256)
    (hA : ∀ i, okA i → i.InWords) (hB : ∀ i, okB i → i.InWords)
    (h : (world HA HB okA okB).Reachable w) {ack : Acknowledgement}
    (hq : .recvPacket q ack ∈ w.right.history) :
    ∃ p, .sendPacket p ∈ w.left.history ∧ p.keyOnA = q.keyOnA ∧ p.SameContent q := by
  refine (World.swap h).attested
    (C := fun b (q : Packet) => ∃ ack, Action.recvPacket q ack ∈ b.history)
    (F := fun a q => ∃ p, .sendPacket p ∈ a.history ∧ p.keyOnA = q.keyOnA ∧ p.SameContent q)
    ?_ ?_ ?_ w.swap.left_mem_lefts ⟨ack, hq⟩
  · rintro b q ⟨-, hh⟩ ⟨ack, hq⟩
    rw [hh] at hq
    cases hq
  · rintro w b q hw ⟨hsound, i, hi, hs⟩ ⟨ack, hq⟩
    obtain hq | hq := hs.happens isoB hq
    · exact .inl ⟨ack, hq⟩
    · cases hq with
      | recv hpk hv =>
        have hw := World.swap hw
        obtain ⟨p, cm, cm', hp, hkey, hpc, hqc, heq⟩ :=
          World.receivable_committed isoA hw hsound hv
        have hcontent := hpc.sameContent hlib inj hqc heq (hA _ (World.sent_ok isoA hw hp) p rfl)
          (hB i hi q hpk)
        exact .inr ⟨_, w.right_mem_rights, p, hp, hkey, hcontent⟩
  · rintro w a q - ⟨-, i, -, hs⟩ ⟨p, hp, hrest⟩
    exact ⟨p, ((Run.refl.step i hs).history_grows isoA).subset hp, hrest⟩

/-- A packet that was timed out was decoded, and has the content of the one that was sent under its
key. -/
theorem World.timedOut_content (isoA : HA.Isolated) (inj : Function.Injective HA.library.sha256)
    (h : (world HA HB Input.RelaysDecoded okB).Reachable w) {ok : Bool}
    (hx : .timeoutPacket x ok ∈ w.left.history) :
    x.TimeoutsDecoded ∧
      ∃ p, .sendPacket p ∈ w.left.history ∧ p.keyOnA = x.keyOnA ∧ p.SameContent x := by
  induction h with
  | start ha _ =>
    rw [ha.2] at hx
    cases hx
  | @left w a hw hs ih =>
    obtain ⟨-, i, hi, hs⟩ := hs
    have hgrows := (Run.refl.step i hs).history_grows isoA
    have old (hx : .timeoutPacket x ok ∈ w.left.history) : x.TimeoutsDecoded ∧
        ∃ p, .sendPacket p ∈ a.history ∧ p.keyOnA = x.keyOnA ∧ p.SameContent x := by
      obtain ⟨hdec, p, hp, hrest⟩ := ih hx
      exact ⟨hdec, p, hgrows.subset hp, hrest⟩
    by_cases hsend : i = .sendPacket x
    · subst hsend
      exact old (hs.timeout_ne_sendPacket hx)
    obtain hx | hx := hs.happens isoA hx
    · exact old hx
    · cases hx with
      | timeout hpk he hr hcm hv =>
        have hdec := (hi x hpk).2 hsend
        obtain ⟨p, hp, hkey, hpc⟩ := (World.left_reachable hw).committed isoA hcm
        have hcontent := hpc.sameContent rfl inj hv.commits rfl
          (World.sent_ok isoA hw hp p rfl).1 (hi x hpk).1
        exact ⟨hdec, p, hgrows.subset hp, hkey, hcontent⟩
  | right _ _ ih => exact ih hx

/-- A packet that was timed out is undelivered now, if the two ends have one ordering. -/
theorem Relay.undelivered (isoA : HA.Isolated) (isoB : HB.Isolated)
    (inj : Function.Injective HA.library.sha256)
    (h : (relay HA HB Input.RelaysDecoded okB).Reachable w) {ok : Bool}
    (hx : .timeoutPacket x ok ∈ w.left.history) {o : Order}
    (hoA : w.left.HasOrdering x.chanOnA o) (hoB : w.right.HasOrdering x.chanOnB o) :
    Undelivered w.right x := by
  have hdec := (World.timedOut_content isoA inj (Relay.world h) hx).1
  refine h.attested
    (C := fun a (x : Packet) => .timeoutPacket x ok ∈ a.history ∧ a.HasOrdering x.chanOnA o)
    (F := fun b x => x.TimeoutsDecoded → b.HasOrdering x.chanOnB o → Undelivered b x)
    ?_ ?_ ?_ w.left_mem_lefts ⟨hx, hoA⟩ hdec hoB
  · rintro a x ha ⟨hx, -⟩
    rw [ha.2] at hx
    cases hx
  · rintro w a x hw ⟨htracks, i, -, hs⟩ ⟨hx, ho⟩
    have hworld := Relay.world hw
    have ho := hs.hasOrdering_before isoA (World.left_reachable hworld) ho
    obtain hx | hx := hs.happens isoA hx
    · exact .inl ⟨hx, ho⟩
    · cases hx with
      | timeout hpk he hr hcm hv =>
        obtain ⟨b, hb, hund⟩ :=
          htracks.undelivered isoB (World.lefts_reachable (World.swap hworld)) hv
        rw [ho _ he] at hund
        exact .inr ⟨b, hb, fun _ => hund⟩
  · rintro w b x hw ⟨-, i, -, hticks, hs⟩ hund hdec ho
    have hright := World.right_reachable (Relay.world hw)
    have ho := hs.hasOrdering_before isoB hright ho
    exact (hund hdec ho).step isoB hright hs hticks hdec

/-- **A packet is not both received and timed out.** The end that the packet was sent on names the
other one; this one names it too, and has the same ordering. Then it does not happen that the other
chain has run its callback for a packet under the key, and this one its callback for the timeout. -/
theorem packet_exclusive (isoA : HA.Isolated) (isoB : HB.Isolated)
    (hlib : HB.library.sha256 = HA.library.sha256) (inj : Function.Injective HA.library.sha256)
    (h : (relay HA HB Input.RelaysDecoded Input.InWords).Reachable w)
    (hp : .sendPacket p ∈ w.left.history) {e e' : ChannelEnd}
    (he : w.left.store.channel.channels p.chanOnA = some e)
    (he' : w.right.store.channel.channels p.chanOnB = some e') (hr' : e'.remote = p.source)
    (ho : e.ordering = e'.ordering) :
    ¬ ((∃ q ack, .recvPacket q ack ∈ w.right.history ∧ q.keyOnB = p.keyOnB) ∧
      ∃ x ok, .timeoutPacket x ok ∈ w.left.history ∧ x.keyOnA = p.keyOnA) := by
  rintro ⟨⟨q, ack, hq, hqkey⟩, x, ok, hx, hxkey⟩
  have hworld := Relay.world h
  have hleft := World.left_reachable hworld
  have hright := World.right_reachable hworld
  have hchanA : x.chanOnA = p.chanOnA := Packet.chanOnA_eq hxkey
  -- The ends name each other, so the packets have the same keys on both chains.
  have hxdest : x.destination = p.destination := by
    obtain ⟨eX, heX, hrX⟩ := hleft.addressed isoA hx
    obtain ⟨eP, heP, hrP⟩ := hleft.addressed isoA hp
    obtain rfl : eX = eP := Option.some.inj (heX.symm.trans ((congrArg _ hchanA).trans heP))
    exact hrX.symm.trans hrP
  have hqsource : q.source = p.source := by
    obtain ⟨eQ, heQ, hrQ⟩ := hright.addressed isoB hq
    obtain rfl : eQ = e' :=
      Option.some.inj (heQ.symm.trans ((congrArg _ (Packet.chanOnB_eq hqkey)).trans he'))
    exact hrQ.symm.trans hr'
  have hxkeyB : x.keyOnB = p.keyOnB := Packet.keyOnB_eq_of_destination hxkey hxdest
  have hqkeyA : q.keyOnA = p.keyOnA := Packet.keyOnA_eq_of_source hqkey hqsource
  -- Both have the content of the packet that was sent.
  obtain ⟨-, p₀, hp₀, hkey₀, hcontent₀⟩ := World.timedOut_content isoA inj hworld hx
  obtain rfl := hleft.sent_unique isoA hp₀ hp (hkey₀.trans hxkey)
  obtain ⟨p₁, hp₁, hkey₁, hcontent₁⟩ := World.received_content isoA isoB hlib inj
    (fun i hi p hpk => (hi p hpk).1) (fun _ hi => hi) hworld hq
  obtain rfl := hleft.sent_unique isoA hp₁ hp (hkey₁.trans hqkeyA)
  have hund : Undelivered w.right x := by
    refine Relay.undelivered isoA isoB inj h hx (o := e.ordering) ?_ ?_
    · intro eX heX
      rw [hchanA, he] at heX
      cases heX
      rfl
    · intro eX heX
      rw [Packet.chanOnB_eq hxkeyB, he'] at heX
      cases heX
      exact ho.symm
  exact hund.unreceived q ack hq (hqkey.trans hxkeyB.symm) (hcontent₀.symm.trans hcontent₁)

end Exclusive

/-! ### Decoded packets -/

section Decoded

variable {HA : Host CS Cons μ} {HB : Host CS' Cons' μ'} {okA : Input Cons μ → Prop}
  {okB : Input Cons' μ' → Prop} {w : Duo (Ctx CS Cons μ) (Ctx CS' Cons' μ')} {p : Packet}
  {i : Input Cons μ}

theorem Input.TimeoutsDecoded.inWords (h : i.TimeoutsDecoded) : i.InWords :=
  fun p hp => (TimeoutHeight.decoded_iff.mp (h p hp).height).1

theorem Input.TimeoutsDecoded.relaysDecoded (h : i.TimeoutsDecoded) : i.RelaysDecoded :=
  fun p hp => ⟨h.inWords p hp, fun _ => h p hp⟩

/-- An end on which a packet was received was open. -/
theorem World.received_wasOpen (isoA : HA.Isolated) (h : (Ibc.world HA HB okA okB).Reachable w)
    {ack : Acknowledgement} (hp : .recvPacket p ack ∈ w.left.history) :
    WasOpen w.lefts p.chanOnB := by
  induction h with
  | start ha _ =>
    rw [ha.2] at hp
    cases hp
  | @left w a _ hs ih =>
    obtain ⟨-, i, -, hs⟩ := hs
    obtain hp | hp := hs.happens isoA hp
    · obtain ⟨s, hs, hopen⟩ := ih hp
      exact ⟨s, List.mem_cons_of_mem _ hs, hopen⟩
    · cases hp with
      | recv _ hv =>
        exact ⟨w.left, List.mem_cons_of_mem _ w.left_mem_lefts, _, hv.channel, hv.state⟩
  | right _ _ ih => exact ih hp

/-- A packet that was timed out was sent. -/
theorem World.timedOut_sent (isoA : HA.Isolated) (inj : Function.Injective HA.library.sha256)
    (h : (world HA HB Input.TimeoutsDecoded Input.TimeoutsDecoded).Reachable w) {ok : Bool}
    (hp : .timeoutPacket p ok ∈ w.left.history) :
    .sendPacket p ∈ w.left.history ∧ p.SameContent p := by
  have hleft := World.left_reachable h
  have hrelayed := World.mono (fun _ hi => hi.relaysDecoded) (fun _ hi => hi) h
  obtain ⟨hdec, q, hq, hkey, hcontent⟩ := World.timedOut_content isoA inj hrelayed hp
  obtain ⟨e, he, hr⟩ := hleft.addressed isoA hp
  obtain ⟨e', he', hr'⟩ := hleft.addressed isoA hq
  have hchan : q.chanOnA = p.chanOnA := Packet.chanOnA_eq hkey
  obtain rfl : e' = e := Option.some.inj (he'.symm.trans ((congrArg _ hchan).trans he))
  have hdest : q.destination = p.destination := hr'.symm.trans hr
  have hqd : q.TimeoutsDecoded := World.sent_ok isoA h hq q rfl
  obtain rfl : q = p := hcontent.eq hqd hdec hkey hdest
  exact ⟨hq, hcontent⟩

/-- A packet that was received was not timed out. That the end on which it was received names the
end it was sent from, with the same ordering, is from the handshake. -/
theorem Relay.received_not_timedOut (isoA : HA.Isolated) (isoB : HB.Isolated)
    (inj : Function.Injective HA.library.sha256)
    (h : (relay HA HB Input.TimeoutsDecoded Input.TimeoutsDecoded).Reachable w)
    {ack : Acknowledgement} {ok : Bool} (hrecv : .recvPacket p ack ∈ w.right.history)
    (hout : .timeoutPacket p ok ∈ w.left.history) : False := by
  have hworld := Relay.world h
  have hrelay : (relay HA HB Input.RelaysDecoded Input.TimeoutsDecoded).Reachable w := by
    refine h.mono (fun _ ha => ha) (fun _ hb => hb) ?_ fun _ _ _ hs => hs
    rintro seen a a' ⟨htracks, i, hi, hs⟩
    exact ⟨htracks, i, hi.relaysDecoded, hs⟩
  have hopen : WasOpen w.swap.lefts p.chanOnB :=
    World.received_wasOpen isoB (World.swap hworld) hrecv
  obtain ⟨e', he', hr'⟩ := (World.right_reachable hworld).addressed isoB hrecv
  obtain ⟨chan, _, _, _, e, hid, -, -, -, he, hanswers⟩ :=
    channel_was_open_answered isoB isoA (World.swap hworld) he' hopen
  rw [show e'.remote = p.source from hr'] at hid he
  obtain rfl : p.chanIdOnA = chan := Option.some.inj hid
  have hund : Undelivered w.right p := by
    refine Relay.undelivered isoA isoB inj hrelay hout (o := e.ordering) ?_ ?_
    · intro e₁ he₁
      cases he.symm.trans he₁
      rfl
    · intro e₁ he₁
      cases he'.symm.trans he₁
      exact hanswers.ordering.symm
  exact hund.unreceived p ack hrecv rfl (World.timedOut_sent isoA inj hworld hout).2

end Decoded

/-! ### A run with a late answer -/

instance (st : Store CS Cons) : (path : Path) → Decidable (st.Lacks path)
  | .connection _ | .channelEnd _ _ | .seqSend _ _ | .seqRecv _ _ | .seqAck _ _
  | .commitment _ _ _ | .ack _ _ _ | .receipt _ _ _ => Option.decidableEqNone _
  | .clientState _ | .clientConsensusState _ _ | .clientConnection _ | .ports _
  | .upgradedClientState _ | .upgradedClientConsensusState _ => instDecidableTrue

namespace WorldRun

open MockRun (channelId packet signer)

section Checks

variable {μ CS' Cons' μ' : Type} {factsA factsB : ℕ → List (Path × Bytes)}
  {absentB : CommitmentRoot → List Path}

/-- The block that a known header is of, if it began in one of the states with what the header can
be used to show. -/
def tracksBlock (facts : ℕ → List (Path × Bytes)) (h : Height) (header : MockHeader) :
    List (Ctx CS' Cons' μ') → Bool
  | [] => false
  | b :: before =>
      (decide (b.env.hostHeight = h) && before.all (fun c => decide (c.env.hostHeight < h)) &&
        decide (header.timestamp = b.env.hostTimestamp) &&
        (factsAt facts header).all fun fact => decide (b.store.Holds fact.1 fact.2)) ||
      tracksBlock facts h header before

theorem exists_of_tracksBlock {facts : ℕ → List (Path × Bytes)} {h : Height}
    {header : MockHeader} {seen : List (Ctx CS' Cons' μ')}
    (hb : tracksBlock facts h header seen = true) :
    ∃ b, BeginsBlock seen h b ∧ header.timestamp = b.env.hostTimestamp ∧
      ∀ fact ∈ factsAt facts header, b.store.Holds fact.1 fact.2 := by
  induction seen with
  | nil => cases hb
  | cons b before ih =>
    rw [tracksBlock, Bool.or_eq_true] at hb
    rcases hb with hb | hb
    · simp only [Bool.and_eq_true, decide_eq_true_eq, List.all_eq_true] at hb
      obtain ⟨⟨⟨hheight, hbefore⟩, htime⟩, hfacts⟩ := hb
      exact ⟨b, ⟨hheight, [], before, rfl, hbefore⟩, htime, hfacts⟩
    · obtain ⟨b', ⟨hheight, after, before', hsplit, hbefore⟩, hrest⟩ := ih hb
      exact ⟨b', ⟨hheight, b :: after, before', congrArg (b :: ·) hsplit, hbefore⟩, hrest⟩

/-- The input is no block, or one of a later time and no lower height. -/
def ticksCheck (s : Ctx CS' Cons' μ') : Input Cons' μ' → Bool
  | .newBlock env =>
      decide (s.env.hostHeight ≤ env.hostHeight) &&
        s.env.hostTimestamp.time.any fun t =>
          env.hostTimestamp.time.any fun t' => decide (t < t')
  | _ => true

theorem ticks_of_check {s : Ctx CS' Cons' μ'} {i : Input Cons' μ'}
    (h : ticksCheck s i = true) : i.Ticks s := by
  rintro env rfl
  simp only [ticksCheck, Bool.and_eq_true, decide_eq_true_eq, Option.any_eq_true] at h
  obtain ⟨hle, t, ht, t', ht', hlt⟩ := h
  exact ⟨hle, t, t', ht, ht', hlt⟩

/-- The mock client with proofs, among them of absence. -/
def showingClient (facts : ℕ → List (Path × Bytes)) (absent : CommitmentRoot → List Path) :
    LightClient MockClientState MockConsensusState :=
  { ProofRun.lightClient facts with
    verifyNonMembership := fun _ _ proof root path =>
      if proof = factCode path none ∧ path ∈ absent root then .ok ()
      else .error (.ics23Verification .verificationFailure) }

theorem mem_of_accepts_absent {facts : ℕ → List (Path × Bytes)}
    {absent : CommitmentRoot → List Path} {cs : MockClientState} {cons : MockConsensusState}
    {pfx : CommitmentPrefix} {path : Path}
    (h : (showingClient facts absent).Accepts cs cons pfx path none) :
    path ∈ absent (ProofRun.rootAt cons.header.height.revisionHeight) := by
  obtain ⟨proof, hproof⟩ := h
  simp only [showingClient] at hproof
  split_ifs at hproof with hfact
  exact hfact.2

/-- A mock-like client that tells the time of its headers, and is shown the absence only of what is
absent under the root. -/
structure Showing (H : Host MockClientState MockConsensusState μ)
    (facts : ℕ → List (Path × Bytes)) (absent : CommitmentRoot → List Path) : Prop
    extends MockLike H facts where
  timestamp : ∀ cons, H.lightClient.timestamp cons = cons.header.timestamp
  absent : ∀ cs cons pfx path, H.lightClient.Accepts cs cons pfx path none →
    path ∈ absent (ProofRun.rootAt cons.header.height.revisionHeight)

/-- Each known header is of a block that began with what the header can be used to show. What can be
shown to be absent is so all through the block. -/
def tracksCheck (facts : ℕ → List (Path × Bytes)) (absent : CommitmentRoot → List Path)
    (known : Known) (seen : List (Ctx CS' Cons' μ')) : Bool :=
  known.all fun k => tracksBlock facts k.1 k.2 seen &&
    (absent (ProofRun.rootAt k.2.height.revisionHeight)).all fun path =>
      seen.all fun b => decide (b.env.hostHeight = k.1 → b.store.Lacks path)

theorem Showing.tracks {H : Host MockClientState MockConsensusState μ}
    {facts : ℕ → List (Path × Bytes)} {absent : CommitmentRoot → List Path}
    (hH : Showing H facts absent) {s : MockCtx μ} {known : Known}
    {seen : List (Ctx CS' Cons' μ')} (hk : Knows known s.store.client.clients)
    (h : tracksCheck facts absent known seen = true) : Tracks H seen s := by
  intro id cs height cons _ hcons
  have hcheck := List.all_eq_true.mp h _ (hk id height cons hcons)
  rw [Bool.and_eq_true] at hcheck
  obtain ⟨b, hb, htime, hfacts⟩ := exists_of_tracksBlock hcheck.1
  refine ⟨b, hb, (hH.timestamp cons).trans htime, fun pfx path value hacc => ?_,
    fun pfx path hacc => ?_⟩
  · exact hfacts _ (hH.mem_factsAt hacc)
  · have hlacks := List.all_eq_true.mp hcheck.2 _ (hH.absent cs cons pfx path hacc)
    exact of_decide_eq_true (List.all_eq_true.mp hlacks b hb.mem) hb.1

variable {HA : Host MockClientState MockConsensusState μ}
  {HB : Host MockClientState MockConsensusState μ'}

def relayChecks (hA : Showing HA factsB absentB) (hB : MockLike HB factsA)
    (okA : Input MockConsensusState μ → Prop) (okB : Input MockConsensusState μ' → Prop)
    [DecidablePred okA] [DecidablePred okB] : Checks (relay HA HB okA okB) HA HB where
  left known seen _ i := decide (okA i) && tracksCheck factsB absentB known seen
  right known seen b i := decide (okB i) && ticksCheck b i && soundCheck factsA known seen
  left_step _ _ _ i _ h hk hstep := by
    rw [Bool.and_eq_true] at h
    exact ⟨hA.tracks hk h.2, i, of_decide_eq_true h.1, hstep⟩
  right_step _ _ _ i _ h hk hstep := by
    rw [Bool.and_eq_true, Bool.and_eq_true] at h
    exact ⟨hB.sound_of_check hk h.2, i, of_decide_eq_true h.1.1, ticks_of_check h.1.2, hstep⟩

end Checks

/-- Where the receipt of the first packet is kept. -/
def receiptPath : Path := .receipt .transfer channelId 1

/-- The right chain expects the first packet. -/
def provedUnreceived : Path × Bytes := (.seqRecv .transfer channelId, encodeU64 1)

/-- What the right chain holds when a block begins. -/
def blockFacts (height : ℕ) : List (Path × Bytes) :=
  (if height = 8 then [provedUnreceived] else []) ++ WorldRun.factsB 0 .ordered [] height

/-- The left chain. Its clients accept no proof of absence: an ordered channel needs none. -/
def timelyHost : Host MockClientState MockConsensusState Unit :=
  { ProofRun.host blockFacts with
    lightClient := { ProofRun.lightClient blockFacts with
      verifyNonMembership := fun _ _ _ _ _ => .error (.ics23Verification .verificationFailure) } }

theorem timelyHost_showing : Showing timelyHost blockFacts fun _ => [] where
  isolated := ProofRun.host_isolated blockFacts
  decode := (mockLike_host blockFacts).decode
  initialise := rfl
  updateState := rfl
  updateStateOnMisbehaviour := rfl
  updateStateOnUpgrade := rfl
  shown := (mockLike_host blockFacts).shown
  timestamp _ := rfl
  absent cs cons pfx path := by
    rintro ⟨proof, hproof⟩
    cases hproof

/-- The right chain at a block, at the time of its header. -/
def block (height : ℕ) : HostEnv MockConsensusState :=
  mockEnv ProofRun.codec 0 ⟨0, height⟩ (ProofRun.header height).timestamp [ProofRun.header 1]

def firstBlock : MockCtx Unit := { ProofRun.start with env := block 1 }

/-- A channel is opened, and the sample packet sent and received, in three blocks of the right
chain.
-/
def delivering : List (Move Unit Unit) :=
  [.tellLeft Msg.createClient, .tellRight Msg.createClient, .tellLeft (Msg.connOpenInit 0),
    .tellRight (Msg.updateClient 5), .tellRight (Msg.connOpenTry 0), .right (.newBlock (block 5)),
    .tellLeft (Msg.updateClient 5), .tellLeft (Msg.connOpenAck 0),
    .tellLeft (Msg.chanOpenInit .ordered), .tellRight (Msg.updateClient 8),
    .tellRight (Msg.connOpenConfirm 0), .tellRight (Msg.chanOpenTry .ordered),
    .right (.newBlock (block 8)), .tellLeft (Msg.updateClient 8),
    .tellLeft (Msg.chanOpenAck .ordered), .left (.sendPacket packet),
    .tellRight (Msg.updateClient 20), .tellRight (Msg.chanOpenConfirm .ordered),
    .tellRight (.packet (.recv ⟨packet, proofOf provedCommitment, ⟨0, 20⟩, signer⟩))]

/-- The timeout of a packet, with the proof that it was not received when block 8 began. -/
def timeOut (p : Packet) : Move Unit Unit :=
  .tellLeft (.packet (.timeout ⟨p, 1, proofOf provedUnreceived, ⟨0, 8⟩, signer⟩))

/-- The two chains, with the left one given inputs of the kind `ok`. -/
def blockRelay (ok : Input MockConsensusState Unit → Prop) :
    Duo.System (MockCtx Unit) (MockCtx Unit) :=
  relay timelyHost receiverHost ok Input.InWords

def blockChecks (ok : Input MockConsensusState Unit → Prop) [DecidablePred ok] :
    Checks (blockRelay ok) timelyHost receiverHost :=
  relayChecks timelyHost_showing receiverHost_mockLike ok Input.InWords

theorem exists_delivered {α : Type} (ok : Input MockConsensusState Unit → Prop)
    [DecidablePred ok] (ms : List (Move Unit Unit)) (f : Duo (MockCtx Unit) (MockCtx Unit) → α)
    {y : α} (h : (runMoves (blockChecks ok) (.start ProofRun.start firstBlock) ms).map (f ·.duo) =
      some y) : ∃ w, (blockRelay ok).Reachable w ∧ f w = y := by
  have start : ProofRun.start.Fresh := ⟨rfl, rfl⟩
  have first : firstBlock.Fresh := ⟨rfl, rfl⟩
  have set : firstBlock.env.hostTimestamp.time ≠ none := by decide
  have hvalid : (Sample.start ProofRun.start firstBlock).Valid (blockRelay ok) :=
    Sample.valid_start start ⟨first, set⟩ start first
  exact exists_of_runMoves timelyHost_showing.toMockLike receiverHost_mockLike hvalid ms f h

end WorldRun

open WorldRun

/-- The sample packet was received: it is not timed out. -/
theorem delivered_packet_exclusive : ∃ w, (blockRelay Input.RelaysDecoded).Reachable w ∧
    .recvPacket MockRun.packet dummyAcknowledgement ∈ w.right.history ∧
    ¬ ∃ x ok, .timeoutPacket x ok ∈ w.left.history ∧ x.keyOnA = MockRun.packet.keyOnA := by
  obtain ⟨w, hw, h⟩ := exists_delivered Input.RelaysDecoded delivering
    (fun w => (w.left.history, w.right.history,
      w.left.store.channel.channels MockRun.packet.chanOnA,
      w.right.store.channel.channels MockRun.packet.chanOnB))
    (by decide +kernel : _ = some ([.sendPacket MockRun.packet],
      [.recvPacket MockRun.packet dummyAcknowledgement],
      some (chanEnd .open (some MockRun.channelId) .ordered),
      some (chanEnd .open (some MockRun.channelId) .ordered)))
  simp only [Prod.mk.injEq] at h
  obtain ⟨hleft, hright, he, he'⟩ := h
  have hsent : .sendPacket MockRun.packet ∈ w.left.history := by
    rw [hleft]
    exact List.mem_cons_self
  have hrecv : .recvPacket MockRun.packet dummyAcknowledgement ∈ w.right.history := by
    rw [hright]
    exact List.mem_cons_self
  refine ⟨w, hw, hrecv, fun hout => ?_⟩
  exact packet_exclusive timelyHost_showing.isolated receiverHost_mockLike.isolated rfl
    MockRun.sha256_injective hw hsent he he' rfl rfl ⟨⟨_, _, hrecv, rfl⟩, hout⟩

/-- The sample packet is received, and then timed out as one with a timeout at the epoch. -/
theorem epoch_timeout_not_exclusive : ∃ w, (blockRelay Input.InWords).Reachable w ∧
    .sendPacket MockRun.packet ∈ w.left.history ∧
    .recvPacket MockRun.packet dummyAcknowledgement ∈ w.right.history ∧
    .timeoutPacket epochPacket true ∈ w.left.history ∧
    epochPacket.keyOnA = MockRun.packet.keyOnA := by
  obtain ⟨w, hw, h⟩ := exists_delivered Input.InWords (delivering ++ [timeOut epochPacket])
    (fun w => (w.left.history, w.right.history))
    (by decide +kernel : _ = some (
      [.sendPacket MockRun.packet, .timeoutPacket epochPacket true],
      [.recvPacket MockRun.packet dummyAcknowledgement]))
  simp only [Prod.mk.injEq] at h
  obtain ⟨hleft, hright⟩ := h
  refine ⟨w, hw, ?_, ?_, ?_, rfl⟩
  · rw [hleft]
    exact List.mem_cons_self
  · rw [hright]
    exact List.mem_cons_self
  · rw [hleft]
    exact List.mem_cons_of_mem _ List.mem_cons_self

end Ibc
