import Ibc.Protocol.Forward
import Ibc.Support.Interleave

/-!
# Two chains

Two chains take inputs in any interleaving, from empty stores. Neither sees the other: what a chain
knows about the other it knows from its light clients, and the one assumption is that these are not
fooled. `Sound`: a value that a stored client accepts under a path was held there by the other
chain, in its present state or in a past one. Proofs may be stale by any amount, and different
proofs may be about different states.

`world HA HB okA okB` is the system of the two chains, with conditions on the inputs each is given.
What is known of one chain's runs is known of each chain of the world (`World.left_reachable`,
`World.left_run`), and results for one direction hold for the other (`World.swap`).
-/

namespace Ibc

variable {CS Cons μ CS' Cons' μ' : Type}

/-! ### What a chain can prove of itself -/

/-- The store holds `value` under `path`. What a chain stores about its own clients is left open. -/
def Store.Holds (st : Store CS Cons) (path : Path) (value : Bytes) : Prop :=
  match path with
  | .connection id => (st.connection.connections id).map (·.toRaw.encode) = some value
  | .channelEnd port chan => (st.channel.channels (port, chan)).map (·.toRaw.encode) = some value
  | .seqSend port chan => (st.channel.nextSequenceSend (port, chan)).map encodeU64 = some value
  | .seqRecv port chan => (st.channel.nextSequenceRecv (port, chan)).map encodeU64 = some value
  | .seqAck port chan => (st.channel.nextSequenceAck (port, chan)).map encodeU64 = some value
  | .commitment port chan seq =>
      (st.channel.packetCommitment (port, chan, seq)).map (·.bytes) = some value
  | .ack port chan seq =>
      (st.channel.packetAcknowledgement (port, chan, seq)).map (·.bytes) = some value
  | .receipt port chan seq => st.channel.packetReceipt (port, chan, seq) ≠ none
  | .clientState _ => True
  | .clientConsensusState _ _ => True
  | .clientConnection _ => True
  | .ports _ => True
  | .upgradedClientState _ => True
  | .upgradedClientConsensusState _ => True

instance (st : Store CS Cons) (path : Path) (value : Bytes) : Decidable (st.Holds path value) := by
  cases path <;> unfold Store.Holds <;> infer_instance

/-- A connection end that encodes to the value is stored, up to what the encoding leaves out. -/
theorem Store.Holds.connection {st : Store CS Cons} {id : ConnectionId} {e : ConnectionEnd}
    (h : st.Holds (.connection id) e.toRaw.encode) :
    ∃ e', st.connection.connections id = some e' ∧ e'.state = e.state ∧
      e'.clientId = e.clientId ∧ e'.counterparty = e.counterparty ∧ e'.versions = e.versions ∧
      e'.delayPeriod % UInt64.size = e.delayPeriod % UInt64.size := by
  obtain ⟨e', he', henc⟩ := Option.map_eq_some_iff.mp h
  exact ⟨e', he', ConnectionEnd.toRaw_inj (RawConnectionEnd.encode_inj henc)⟩

theorem Store.Holds.channelEnd {st : Store CS Cons} {port : PortId} {chan : ChannelId}
    {e : ChannelEnd} (h : st.Holds (.channelEnd port chan) e.toRaw.encode) :
    st.channel.channels (port, chan) = some e := by
  obtain ⟨e', he', henc⟩ := Option.map_eq_some_iff.mp h
  rw [he', ChannelEnd.toRaw_inj.mp (RawChannel.encode_inj henc)]

/-! ### Sound clients -/

/-- Every value that a stored client accepts was held by the other chain, in one of the states it
was seen in. -/
def Sound (H : Host CS Cons μ) (seen : List (Ctx CS' Cons' μ')) (s : Ctx CS Cons μ) : Prop :=
  ∀ id cs h cons pfx path value, s.store.client.clients.clientState id = some cs →
    s.store.client.clients.consensusState id h = some cons →
    H.lightClient.Accepts cs cons pfx path (some value) → ∃ b ∈ seen, b.store.Holds path value

theorem Sound.attested {H : Host CS Cons μ} {seen : List (Ctx CS' Cons' μ')} {s : Ctx CS Cons μ}
    (h : Sound H seen s) {id : ClientId} {pfx : CommitmentPrefix} {path : Path} {value : Bytes}
    (hv : Attested H s.store id pfx path value) : ∃ b ∈ seen, b.store.Holds path value := by
  obtain ⟨cs, height, cons, hactive, hcons, hacc⟩ := hv
  exact h id cs height cons pfx path value hactive.client hcons hacc

theorem Sound.shown {H : Host CS Cons μ} {seen : List (Ctx CS' Cons' μ')} {s : Ctx CS Cons μ}
    (h : Sound H seen s) {hops : List ConnectionId} {height : Height} {cons : Cons} {path : Path}
    {value : Bytes} (hv : Shown H s.store hops height cons path (some value)) :
    ∃ b ∈ seen, b.store.Holds path value := by
  obtain ⟨conn, cs, -, hcs, hcons, hacc⟩ := hv
  exact h conn.clientId cs height cons _ path value hcs hcons hacc

/-- A chain with sound clients takes an input it may be given. -/
def SoundStep (H : Host CS Cons μ) (ok : Input Cons μ → Prop) (seen : List (Ctx CS' Cons' μ'))
    (s s' : Ctx CS Cons μ) : Prop :=
  Sound H seen s ∧ ∃ i, ok i ∧ Step H i s s'

/-- A chain before its first input. -/
def Ctx.Fresh (s : Ctx CS Cons μ) : Prop := s.store = Store.empty ∧ s.history = []

/-- Two chains with sound clients of each other. -/
def world (HA : Host CS Cons μ) (HB : Host CS' Cons' μ') (okA : Input Cons μ → Prop)
    (okB : Input Cons' μ' → Prop) : Duo.System (Ctx CS Cons μ) (Ctx CS' Cons' μ') where
  startLeft := Ctx.Fresh
  startRight := Ctx.Fresh
  stepLeft := SoundStep HA okA
  stepRight := SoundStep HB okB

/-! ### Each chain of a world is a chain -/

namespace World

variable {HA : Host CS Cons μ} {HB : Host CS' Cons' μ'} {okA okA' : Input Cons μ → Prop}
  {okB okB' : Input Cons' μ' → Prop} {w : Duo (Ctx CS Cons μ) (Ctx CS' Cons' μ')}

theorem swap (h : (world HA HB okA okB).Reachable w) : (world HB HA okB okA).Reachable w.swap :=
  Duo.System.Reachable.swap h

/-- Fewer conditions on the inputs, more worlds. -/
theorem mono (ha : ∀ i, okA i → okA' i) (hb : ∀ i, okB i → okB' i)
    (h : (world HA HB okA okB).Reachable w) : (world HA HB okA' okB').Reachable w := by
  refine h.mono (fun _ hs => hs) (fun _ hs => hs) ?_ ?_
  · rintro seen a a' ⟨hsound, i, hi, hs⟩
    exact ⟨hsound, i, ha i hi, hs⟩
  · rintro seen b b' ⟨hsound, i, hi, hs⟩
    exact ⟨hsound, i, hb i hi, hs⟩

theorem lefts_reachable (h : (world HA HB okA okB).Reachable w) :
    ∀ a ∈ w.lefts, Reachable HA a := by
  refine h.lefts_invariant (fun a ha => .init a ha.1 ha.2) ?_
  rintro seen a a' ⟨-, i, -, hs⟩ hr
  exact hr.step i hs

theorem left_reachable (h : (world HA HB okA okB).Reachable w) : Reachable HA w.left :=
  lefts_reachable h _ w.left_mem_lefts

theorem right_reachable (h : (world HA HB okA okB).Reachable w) : Reachable HB w.right :=
  left_reachable (swap h)

theorem left_run (h : (world HA HB okA okB).Reachable w) : ∀ a ∈ w.lefts, Run HA a w.left := by
  refine h.left_of_mem (fun _ => .refl) ?_
  rintro seen a b c hrun ⟨-, i, -, hs⟩
  exact hrun.step i hs

/-- What happened on a chain stays in its history. -/
theorem left_grows (isoA : HA.Isolated) (h : (world HA HB okA okB).Reachable w)
    {a : Ctx CS Cons μ} (ha : a ∈ w.lefts) {act : Action} (hact : act ∈ a.history) :
    act ∈ w.left.history :=
  ((left_run h a ha).history_grows isoA).subset hact

end World

end Ibc
