import Ibc.Protocol.ChannelLife

/-!
# Runs of one chain

`Reachable H s`: some sequence of steps leads from an empty store to `s`. `Run H s s'`: some
sequence of steps leads from `s` to `s'`.

* **`Reachable.life`**: under every channel key a run is a life of that channel end. It rests on
  fresh identifiers (`Numbered`): a channel end is opened where nothing was kept before.
* **`Run.steps`**: the same between two states of a run.
-/

namespace Ibc

variable {CS Cons μ : Type} {H : Host CS Cons μ} {i : Input Cons μ} {s s' s'' : Ctx CS Cons μ}

/-- The states some run reaches from an empty store. -/
inductive Reachable (H : Host CS Cons μ) : Ctx CS Cons μ → Prop where
  | init (s : Ctx CS Cons μ) (hst : s.store = Store.empty) (hh : s.history = []) : Reachable H s
  | step {s s' : Ctx CS Cons μ} (i : Input Cons μ) (hr : Reachable H s) (hs : Step H i s s') :
      Reachable H s'

/-- The states reached from an empty store by inputs with the property `ok`. -/
inductive ReachableBy (H : Host CS Cons μ) (ok : Input Cons μ → Prop) : Ctx CS Cons μ → Prop where
  | init (s : Ctx CS Cons μ) (hst : s.store = Store.empty) (hh : s.history = []) :
      ReachableBy H ok s
  | step {s s' : Ctx CS Cons μ} (i : Input Cons μ) (hr : ReachableBy H ok s) (hok : ok i)
      (hs : Step H i s s') : ReachableBy H ok s'

/-- The states some run reaches from `s`. -/
inductive Run (H : Host CS Cons μ) (s : Ctx CS Cons μ) : Ctx CS Cons μ → Prop where
  | refl : Run H s s
  | step {s' s'' : Ctx CS Cons μ} (i : Input Cons μ) (hr : Run H s s') (hs : Step H i s' s'') :
      Run H s s''

theorem Reachable.run (h : Reachable H s) (hr : Run H s s') : Reachable H s' := by
  induction hr with
  | refl => exact h
  | step i _ hs ih => exact ih.step i hs

/-- What a chain keeps under a channel key. -/
def Ctx.view (s : Ctx CS Cons μ) (key : ChannelKey) : ChannelView :=
  s.store.channel.view s.history key

theorem Effect.history_grows (h : Effect H i s s') : s.history <+: s'.history := by
  cases h with
  | quiet _ hh | application _ hh | opens _ _ _ _ hh | moves _ _ _ _ _ _ hh =>
    exact hh ▸ List.prefix_rfl
  | sends _ _ _ _ _ _ _ hh | receives _ _ _ _ _ _ _ _ _ _ _ hh
  | acknowledges _ _ _ _ _ _ _ _ _ _ _ _ _ _ _ hh | timesOut _ _ _ _ _ _ _ _ _ _ _ _ _ hh =>
    rw [hh]
    exact List.prefix_append _ _

/-- What happened stays in the history. -/
theorem Run.history_grows (iso : H.Isolated) (h : Run H s s') : s.history <+: s'.history := by
  induction h with
  | refl => exact List.prefix_rfl
  | step i _ hs ih => exact ih.trans (hs.effect iso).history_grows

/-- What was validated before an action was recorded. -/
inductive Happens (H : Host CS Cons μ) (i : Input Cons μ) (s : Ctx CS Cons μ) : Action → Prop where
  | send {p : Packet} {e : ChannelEnd} (hi : i = .sendPacket p) (hv : SendValid s p e) :
      Happens H i s (.sendPacket p)
  | recv {p : Packet} {ack : Acknowledgement} {e : ChannelEnd} (hp : i.packet = some p)
      (hv : RecvValid H s p e) : Happens H i s (.recvPacket p ack)
  | acknowledge {p : Packet} {ack : Acknowledgement} {ok : Bool} {e : ChannelEnd}
      {cm : PacketCommitment} (hp : i.packet = some p)
      (he : s.store.channel.channels p.chanOnA = some e) (hs : e.state = .open)
      (hr : e.remote = p.destination) (hcm : s.store.channel.packetCommitment p.keyOnA = some cm)
      (hv : AckValid H s.store p ack e cm) : Happens H i s (.acknowledgePacket p ack ok)
  | timeout {p : Packet} {ok : Bool} {e : ChannelEnd} {cm : PacketCommitment}
      (hp : i.packet = some p) (he : s.store.channel.channels p.chanOnA = some e)
      (hr : e.remote = p.destination) (hcm : s.store.channel.packetCommitment p.keyOnA = some cm)
      (hv : TimeoutValid H s.store p e cm) : Happens H i s (.timeoutPacket p ok)

/-- A step records only what was validated. -/
theorem Step.happens (iso : H.Isolated) (h : Step H i s s') {a : Action} (ha : a ∈ s'.history) :
    a ∈ s.history ∨ Happens H i s a := by
  have new {b : Action} (hh : s'.history = s.history ++ [b]) (hb : Happens H i s b) :
      a ∈ s.history ∨ Happens H i s a := by
    rw [hh, List.mem_append, List.mem_singleton] at ha
    rcases ha with ha | rfl
    · exact .inl ha
    · exact .inr hb
  cases h.effect iso with
  | quiet _ hh | application _ hh | opens _ _ _ _ hh | moves _ _ _ _ _ _ hh => exact .inl (hh ▸ ha)
  | sends p e cm hi hv _ _ hh => exact new hh (.send hi hv)
  | receives p ack e m extras signer hp hv _ _ _ hh => exact new hh (.recv hp hv)
  | acknowledges p ack e cm r m extras signer hp he hs hr hcm hv _ hh =>
    exact new hh (.acknowledge hp he hs hr hcm hv)
  | timesOut p e cm r m extras signer hp he hr hcm hv _ hh =>
    exact new hh (.timeout hp he hr hcm hv)

/-! ### Writes, seen under one key -/

section Views

variable {c : ChannelStore} {h : List Action} {k key : ChannelKey} {e : ChannelEnd} {p : Packet}

theorem view_openAt : (c.openAt key e).view h k =
    if k = key then { c.view h k with
      channel := some e, nextSend := some 1, nextRecv := some 1, nextAck := some 1 }
    else c.view h k := by
  split_ifs with hk
  · subst hk
    simp [ChannelStore.view, ChannelStore.openAt]
  · simp [ChannelStore.view, ChannelStore.openAt, hk]

theorem view_storeChannel : (c.storeChannel key e).view h k =
    if k = key then { c.view h k with channel := some e } else c.view h k := by
  split_ifs with hk
  · subst hk
    simp [ChannelStore.view]
  · simp [ChannelStore.view, hk]

theorem view_append (a : Action) : c.view (h ++ [a]) k =
    if k = a.channel then { c.view h k with history := (c.view h k).history ++ [a] }
    else c.view h k := by
  split_ifs with hk
  · subst hk
    simp [ChannelStore.view]
  · simp [ChannelStore.view, Ne.symm hk]

/-- An update under a packet key, seen under a channel key. -/
theorem update_packetKey {α : Type} (f : PacketKey → Option α) (key : ChannelKey) (n : Sequence)
    (x : Option α) : (fun seq => Function.update f (key.1, key.2, n) x (k.1, k.2, seq)) =
      if k = key then Function.update (fun seq => f (k.1, k.2, seq)) n x
      else fun seq => f (k.1, k.2, seq) := by
  funext seq
  split_ifs with hk
  · subst hk
    simp [Function.update_apply]
  · have : ¬ (k.1 = key.1 ∧ k.2 = key.2) := fun h => hk (Prod.ext h.1 h.2)
    simp only [Function.update_apply, Prod.mk.injEq]
    rw [if_neg]
    tauto

theorem view_storeNextSequenceSend {n : Sequence} : (c.storeNextSequenceSend key n).view h k =
    if k = key then { c.view h k with nextSend := some n } else c.view h k := by
  split_ifs with hk
  · subst hk
    simp [ChannelStore.view]
  · simp [ChannelStore.view, hk]

theorem view_storeNextSequenceRecv {n : Sequence} : (c.storeNextSequenceRecv key n).view h k =
    if k = key then { c.view h k with nextRecv := some n } else c.view h k := by
  split_ifs with hk
  · subst hk
    simp [ChannelStore.view]
  · simp [ChannelStore.view, hk]

theorem view_storeNextSequenceAck {n : Sequence} : (c.storeNextSequenceAck key n).view h k =
    if k = key then { c.view h k with nextAck := some n } else c.view h k := by
  split_ifs with hk
  · subst hk
    simp [ChannelStore.view]
  · simp [ChannelStore.view, hk]

theorem view_storePacketCommitment {cm : PacketCommitment} :
    (c.storePacketCommitment p.keyOnA cm).view h k =
      if k = p.chanOnA then { c.view h k with
        commitment := Function.update (c.view h k).commitment p.seqOnA (some cm) }
      else c.view h k := by
  have hu := update_packetKey (k := k) c.packetCommitment p.chanOnA p.seqOnA (some cm)
  split_ifs at hu ⊢ <;> exact ChannelView.ext rfl rfl rfl rfl hu rfl rfl rfl

theorem view_deletePacketCommitment : (c.deletePacketCommitment p.keyOnA).view h k =
    if k = p.chanOnA then { c.view h k with
      commitment := Function.update (c.view h k).commitment p.seqOnA none }
    else c.view h k := by
  have hu := update_packetKey (k := k) c.packetCommitment p.chanOnA p.seqOnA none
  split_ifs at hu ⊢ <;> exact ChannelView.ext rfl rfl rfl rfl hu rfl rfl rfl

theorem view_storePacketReceipt {r : Receipt} : (c.storePacketReceipt p.keyOnB r).view h k =
    if k = p.chanOnB then { c.view h k with
      receipt := Function.update (c.view h k).receipt p.seqOnA (some r) }
    else c.view h k := by
  have hu := update_packetKey (k := k) c.packetReceipt p.chanOnB p.seqOnA (some r)
  split_ifs at hu ⊢ <;> exact ChannelView.ext rfl rfl rfl rfl rfl hu rfl rfl

theorem view_storePacketAcknowledgement {a : AcknowledgementCommitment} :
    (c.storePacketAcknowledgement p.keyOnB a).view h k =
      if k = p.chanOnB then { c.view h k with
        ack := Function.update (c.view h k).ack p.seqOnA (some a) }
      else c.view h k := by
  have hu := update_packetKey (k := k) c.packetAcknowledgement p.chanOnB p.seqOnA (some a)
  split_ifs at hu ⊢ <;> exact ChannelView.ext rfl rfl rfl rfl rfl rfl hu rfl

/-! What a packet leaves unchanged: every channel end but its own. -/

theorem view_received_of_ne {o : Order} {a : AcknowledgementCommitment} (hk : k ≠ p.chanOnB) :
    (c.received o p a).view h k = c.view h k := by
  refine view_storePacketAcknowledgement.trans ((if_neg hk).trans ?_)
  cases o with
  | none => rfl
  | unordered => rw [view_storePacketReceipt, if_neg hk]
  | ordered => rw [view_storeNextSequenceRecv, if_neg hk]

theorem view_acknowledged_of_ne {o : Order} (hk : k ≠ p.chanOnA) :
    (c.acknowledged o p).view h k = c.view h k := by
  rw [ChannelStore.acknowledged]
  split_ifs
  · rw [view_storeNextSequenceAck, if_neg hk, view_deletePacketCommitment, if_neg hk]
  · rw [view_deletePacketCommitment, if_neg hk]

theorem view_timedOut_of_ne (hk : k ≠ p.chanOnA) : (c.timedOut e p).view h k = c.view h k := by
  rw [ChannelStore.timedOut]
  split_ifs
  · rw [view_storeChannel, if_neg hk, view_deletePacketCommitment, if_neg hk]
  · rw [view_deletePacketCommitment, if_neg hk]

end Views

/-! ### The chain refines the life of each channel end -/

/-- Channel ends are kept under identifiers that were given out. -/
def ChannelStore.Numbered (c : ChannelStore) : Prop :=
  ∀ key e, c.channels key = some e → ∃ m < c.channelIdsCounter, key.2 = .new m

/-- The next identifier is not in use, on any port. -/
theorem ChannelStore.Numbered.next_absent {c : ChannelStore} (h : c.Numbered) (port : PortId) :
    c.channels (port, .new c.channelIdsCounter) = none := by
  by_contra hne
  obtain ⟨e, he⟩ := Option.ne_none_iff_exists'.mp hne
  obtain ⟨m, hm, heq⟩ := h _ e he
  exact absurd (ChannelId.new_inj.mp heq) (ne_of_gt hm)

/-- A step stutters under a key, or is a step in the life of its channel end. -/
theorem Effect.view (heff : Effect H i s s') (hnum : s.store.channel.Numbered) (k : ChannelKey)
    (hl : ChannelView.Life H.library (s.view k)) :
    s'.view k = s.view k ∨ ChannelView.Next H.library (s.view k) (s'.view k) := by
  cases heff with
  | quiet hc hh => exact .inl (by simp only [Ctx.view, hc, hh])
  | application hc hh => exact .inl (by simp only [Ctx.view, hc, hh])
  | opens port e hn hc hh =>
    simp only [Ctx.view, hc, hh, view_openAt]
    split_ifs with hk
    · have hemp : s.view k = .empty :=
        ChannelView.Life.eq_empty hl (hk ▸ hnum.next_absent port)
      refine .inr ?_
      rw [Ctx.view] at hemp
      rw [hemp]
      exact .opens e hn rfl
    · exact .inl rfl
  | moves key e e' he hm hc hh =>
    simp only [Ctx.view, hc, hh, view_storeChannel]
    split_ifs with hk
    · subst hk
      refine .inr (.moves e e' he ?_)
      cases hm with
      | ack hs => exact .ack hs _ _
      | confirm hs => exact .confirm hs
      | close hs => exact .close hs
    · exact .inl rfl
  | sends p e cm hi hv hcm hc hh =>
    simp only [Ctx.view, hc, hh, ChannelStore.sent, view_append, view_storePacketCommitment,
      view_storeNextSequenceSend, Action.channel]
    split_ifs with hk
    · subst hk
      exact .inr (.sends p e cm hv.channel hv.notClosed hv.remote hv.next hcm)
    · exact .inl rfl
  | receives p ack e m extras signer hp hv hord hunord hc hh =>
    simp only [Ctx.view, hc, hh, view_append, Action.channel]
    by_cases hk : k = p.chanOnB
    · subst hk
      simp only [ChannelStore.received, view_storePacketAcknowledgement, if_true]
      cases ho : e.ordering with
      | none => exact absurd ho (ChannelView.Life.channel_wf hl e hv.channel).ordering
      | unordered =>
        simp only [view_storePacketReceipt, if_true]
        exact .inr (.receivesUnordered p ack e hv.channel hv.state ho hv.remote (hunord ho))
      | ordered =>
        simp only [view_storeNextSequenceRecv, if_true]
        exact .inr (.receivesOrdered p ack e hv.channel hv.state ho hv.remote (hord ho))
    · simp only [hk, if_false]
      exact .inl (view_received_of_ne hk)
  | acknowledges p ack e cm r m extras signer hp he hs hr hcm hv hc hh =>
    simp only [Ctx.view, hc, hh, view_append, Action.channel]
    by_cases hk : k = p.chanOnA
    · subst hk
      cases hok : r.isOk with
      | false =>
        simp only [if_true, Bool.false_eq_true, if_false]
        exact .inr (.acknowledgeFails p ack e cm he hr hcm hv.commits)
      | true =>
        by_cases ho : e.ordering = .ordered
        · simp only [ChannelStore.acknowledged, ho, if_true, view_storeNextSequenceAck,
            view_deletePacketCommitment]
          exact .inr (.acknowledgesOrdered p ack e cm he ho hr hcm hv.commits (hv.ordered ho))
        · simp only [ChannelStore.acknowledged, ho, if_true, if_false,
            view_deletePacketCommitment]
          have hu := (ChannelView.Life.channel_wf hl e he).unordered ho
          exact .inr (.acknowledgesUnordered p ack e cm he hu hr hcm hv.commits)
    · simp only [hk, if_false]
      split_ifs
      · exact .inl (view_acknowledged_of_ne hk)
      · exact .inl rfl
  | timesOut p e cm r m extras signer hp he hr hcm hv hc hh =>
    simp only [Ctx.view, hc, hh, view_append, Action.channel]
    by_cases hk : k = p.chanOnA
    · subst hk
      cases hok : r.isOk with
      | false =>
        simp only [if_true, Bool.false_eq_true, if_false]
        exact .inr (.timeoutFails p e cm he hr hcm hv.commits)
      | true =>
        by_cases ho : e.ordering = .ordered
        · simp only [ChannelStore.timedOut, if_pos ho, if_true, view_storeChannel,
            view_deletePacketCommitment]
          exact .inr (.timesOutOrdered p e cm he ho hr hcm hv.commits)
        · simp only [ChannelStore.timedOut, ho, if_true, if_false, view_deletePacketCommitment]
          have hu := (ChannelView.Life.channel_wf hl e he).unordered ho
          exact .inr (.timesOutUnordered p e cm he hu hr hcm hv.commits)
    · simp only [hk, if_false]
      split_ifs
      · exact .inl (view_timedOut_of_ne hk)
      · exact .inl rfl

/-- A step keeps channel ends under the keys in use, and may open one under the next identifier. -/
theorem Effect.channels_grow (heff : Effect H i s s') :
    (s'.store.channel.channelIdsCounter = s.store.channel.channelIdsCounter ∧
      ∀ key, s'.store.channel.channels key ≠ none → s.store.channel.channels key ≠ none) ∨
    ∃ port, s'.store.channel.channelIdsCounter = s.store.channel.channelIdsCounter + 1 ∧
      ∀ key, s'.store.channel.channels key ≠ none → s.store.channel.channels key ≠ none ∨
        key = (port, .new s.store.channel.channelIdsCounter) := by
  -- Only opening a channel adds a key; all else stores over a channel end that is there.
  have hstore : ∀ {key : ChannelKey} {e e' : ChannelEnd} {c : ChannelStore},
      c.channels key = some e → ∀ k, (c.storeChannel key e').channels k ≠ none →
        c.channels k ≠ none := by
    intro key e e' c he k hk
    by_cases hkey : k = key
    · rw [hkey, he]
      exact Option.some_ne_none e
    · simpa [hkey] using hk
  cases heff with
  | quiet hc | application hc => exact .inl ⟨by rw [hc], fun _ h => hc ▸ h⟩
  | opens port e hn hc =>
    refine .inr ⟨port, by rw [hc]; rfl, fun k hk => ?_⟩
    by_cases hkey : k = (port, .new s.store.channel.channelIdsCounter)
    · exact .inr hkey
    · rw [hc] at hk
      exact .inl (by simpa [ChannelStore.openAt, hkey] using hk)
  | moves key e e' he hm hc =>
    rw [hc]
    exact .inl ⟨rfl, hstore he⟩
  | sends p e cm hi hv hcm hc =>
    rw [hc]
    exact .inl ⟨rfl, fun _ h => h⟩
  | receives p ack e m extras signer hp hv hord hunord hc =>
    rw [hc]
    unfold ChannelStore.received
    cases e.ordering <;> exact .inl ⟨rfl, fun _ h => h⟩
  | acknowledges p ack e cm r m extras signer hp he hs hr hcm hv hc =>
    rw [hc]
    unfold ChannelStore.acknowledged
    split_ifs <;> exact .inl ⟨rfl, fun _ h => h⟩
  | timesOut p e cm r m extras signer hp he hr hcm hv hc =>
    rw [hc]
    unfold ChannelStore.timedOut
    split_ifs
    · exact .inl ⟨rfl, hstore he⟩
    all_goals exact .inl ⟨rfl, fun _ h => h⟩

theorem Effect.numbered (heff : Effect H i s s') (hnum : s.store.channel.Numbered) :
    s'.store.channel.Numbered := by
  intro key e he
  have hused : s'.store.channel.channels key ≠ none := by
    rw [he]
    exact Option.some_ne_none e
  -- A key in use before has its number; the key of a new end has the counter's.
  have hold (h : s.store.channel.channels key ≠ none) :
      ∃ m < s.store.channel.channelIdsCounter, key.2 = .new m := by
    obtain ⟨e₀, he₀⟩ := Option.ne_none_iff_exists'.mp h
    exact hnum key e₀ he₀
  rcases heff.channels_grow with ⟨hn, hk⟩ | ⟨port, hn, hk⟩ <;> rw [hn]
  · exact hold (hk key hused)
  · rcases hk key hused with h | rfl
    · obtain ⟨m, hm, heq⟩ := hold h
      exact ⟨m, Nat.lt_succ_of_lt hm, heq⟩
    · exact ⟨_, Nat.lt_succ_self _, rfl⟩

theorem Reachable.numbered (iso : H.Isolated) (h : Reachable H s) : s.store.channel.Numbered := by
  induction h with
  | init s hst =>
    intro key e he
    rw [hst] at he
    cases he
  | step i _ hs ih => exact (hs.effect iso).numbered ih

/-- **Under every key a run is a life of its channel end.** -/
theorem Reachable.life (iso : H.Isolated) (h : Reachable H s) (k : ChannelKey) :
    ChannelView.Life H.library (s.view k) := by
  induction h with
  | init s hst hh =>
    have : s.view k = .empty := by simp only [Ctx.view, hst, hh]; rfl
    rw [this]
  | step i hr hs ih =>
    rcases (hs.effect iso).view (hr.numbered iso) k ih with heq | hn
    · rwa [heq]
    · exact ih.tail hn

theorem mem_view_history {key : ChannelKey} {a : Action} :
    a ∈ (s.view key).history ↔ a ∈ s.history ∧ a.channel = key := by
  simp [Ctx.view, ChannelStore.view]

/-- A channel end has one counterparty for all that happens on it. -/
theorem Reachable.addressed (iso : H.Isolated) (h : Reachable H s) {a : Action}
    (ha : a ∈ s.history) :
    ∃ e, s.store.channel.channels a.channel = some e ∧ e.remote = a.remote :=
  ChannelView.Life.addressed (h.life iso a.channel) a (mem_view_history.mpr ⟨ha, rfl⟩)

/-- Between two states of a run lie steps of the life of each channel end. -/
theorem Run.steps (iso : H.Isolated) (h : Reachable H s) (hr : Run H s s') (k : ChannelKey) :
    ChannelView.Steps H.library (s.view k) (s'.view k) := by
  induction hr with
  | refl => exact .refl
  | step i hr hs ih =>
    have hreach := h.run hr
    rcases (hs.effect iso).view (hreach.numbered iso) k (hreach.life iso k) with heq | hn
    · rwa [heq]
    · exact ih.tail hn

end Ibc
