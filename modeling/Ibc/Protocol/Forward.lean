import Ibc.Protocol.Handshake
import Ibc.Protocol.MockRun

/-!
# Ends only move forward

`ChannelEnd.Forward` and `ConnectionEnd.Forward` are the law for one step: which states follow
which, what never changes, and the one message that settles a version. **`ends_move_forward`**:
every successful message keeps the law for every stored end, and no end disappears.

An end that is overwritten must be the end that was there: new ends are stored under fresh
identifiers (`ConnectionStore.Wf`, `ChannelStore.Numbered`). Over a run (`Run.channel_kept`,
`Run.connection_kept`) an end past `init` changes in its state only.
-/

namespace Ibc

/-! ### The law -/

/-- The states that follow a state of a channel end. -/
inductive ChannelState.Forward : ChannelState → ChannelState → Prop where
  | ack : Forward .init .open
  | confirm : Forward .tryOpen .open
  | close {st : ChannelState} (hs : st = .init ∨ st = .tryOpen ∨ st = .open) : Forward st .closed

/-- The states that follow a state of a connection end. -/
inductive ConnectionState.Forward : ConnectionState → ConnectionState → Prop where
  | ack : Forward .init .open
  | confirm : Forward .tryOpen .open

/-- What an input may make of the channel end under `key`. An end in `init` that does not know its
counterparty's channel learns it once. -/
structure ChannelEnd.Forward {Cons μ : Type} (i : Input Cons μ) (key : ChannelKey)
    (e e' : ChannelEnd) : Prop where
  state : e' = e ∨ e.state.Forward e'.state
  ordering : e'.ordering = e.ordering
  hops : e'.connectionHops = e.connectionHops
  port : e'.remote.portId = e.remote.portId
  channel : e'.remote.channelId = e.remote.channelId ∨
    (e.state = .init ∧ e.remote.channelId = none)
  version : e'.version = e.version ∨ (e.state = .init ∧ e'.state = .open ∧
    ∃ msg, i = .dispatch (.channel (.openAck msg)) ∧ key = (msg.portIdOnA, msg.chanIdOnA))

/-- What an input may make of the connection end `id`. -/
structure ConnectionEnd.Forward {Cons μ : Type} (i : Input Cons μ) (id : ConnectionId)
    (e e' : ConnectionEnd) : Prop where
  state : e' = e ∨ e.state.Forward e'.state
  client : e'.clientId = e.clientId
  delay : e'.delayPeriod = e.delayPeriod
  otherClient : e'.counterparty.clientId = e.counterparty.clientId
  pfx : e'.counterparty.pfx = e.counterparty.pfx
  connection : e'.counterparty.connectionId = e.counterparty.connectionId ∨
    (e.state = .init ∧ e.counterparty.connectionId = none)
  versions : e'.versions = e.versions ∨ (e.state = .init ∧ e'.state = .open ∧
    ∃ msg, i = .dispatch (.connection (.openAck msg)) ∧ id = msg.connIdOnA)

variable {CS Cons μ : Type} {H : Host CS Cons μ} {i : Input Cons μ} {s s' : Ctx CS Cons μ}

theorem ChannelEnd.Forward.refl {key : ChannelKey} {e : ChannelEnd} : e.Forward i key e :=
  ⟨.inl rfl, rfl, rfl, rfl, .inl rfl, .inl rfl⟩

theorem ChannelEnd.Forward.close {key : ChannelKey} {e : ChannelEnd}
    (hu : e.state ≠ .uninitialized) (hs : e.state ≠ .closed) :
    e.Forward i key { e with state := .closed } := by
  refine ⟨.inr (.close ?_), rfl, rfl, rfl, .inl rfl, .inl rfl⟩
  cases hst : e.state <;> simp_all

theorem ConnectionEnd.Forward.refl {id : ConnectionId} {e : ConnectionEnd} : e.Forward i id e :=
  ⟨.inl rfl, rfl, rfl, rfl, rfl, .inl rfl, .inl rfl⟩

/-! ### Invariants of the ends -/

/-- Connection ends are kept under identifiers that were given out, and one in `init` does not know
its other end. -/
structure ConnectionStore.Wf (c : ConnectionStore) : Prop where
  numbered : ∀ id e, c.connections id = some e → ∃ m < c.connectionIdsCounter, id = .new m
  unanswered : ∀ id e, c.connections id = some e → e.state = .init →
    e.counterparty.connectionId = none

theorem ConnectionStore.Wf.next_absent {c : ConnectionStore} (h : c.Wf) :
    c.connections (.new c.connectionIdsCounter) = none := by
  by_contra hne
  obtain ⟨e, he⟩ := Option.ne_none_iff_exists'.mp hne
  obtain ⟨m, hm, heq⟩ := h.numbered _ e he
  exact absurd (ConnectionId.new_inj.mp heq) (ne_of_gt hm)

/-- A message replaces the end it is about, or stores under the next identifier. -/
theorem ConnectionMsg.Stores.replaces {msg : ConnectionMsg} {id : ConnectionId}
    {e : ConnectionEnd} (h : msg.Stores H s id e) :
    (id = .new s.store.connection.connectionIdsCounter ∧ msg.opened = 1 ∧
        (e.state = .init → e.counterparty.connectionId = none)) ∨
      ∃ e₀, s.store.connection.connections id = some e₀ ∧ e.state = .open ∧
        (e₀.counterparty.connectionId = none ∨ e₀.state ≠ .init →
          e₀.Forward (.dispatch (.connection msg) : Input Cons μ) id e) := by
  cases h with
  | openInit hcs hver => exact .inl ⟨rfl, rfl, fun _ => rfl⟩
  | openTry hid hv => exact .inl ⟨rfl, rfl, nofun⟩
  | @openAck msg e₀ he hs hv =>
    refine .inr ⟨e₀, he, rfl, fun hw => ?_⟩
    have hnone : e₀.counterparty.connectionId = none := hw.resolve_right fun hne => hne hs
    refine ⟨.inr ?_, rfl, rfl, rfl, rfl, .inr ⟨hs, hnone⟩, .inr ⟨hs, rfl, msg, rfl, rfl⟩⟩
    rw [hs]
    exact .ack
  | @openConfirm msg e₀ _ he hs hid hv =>
    refine .inr ⟨e₀, he, rfl, fun _ => ?_⟩
    refine ⟨.inr ?_, rfl, rfl, rfl, rfl, .inl rfl, .inl rfl⟩
    rw [hs]
    exact .confirm

theorem Step.connectionStore_wf (iso : H.Isolated) (h : Step H i s s')
    (hw : s.store.connection.Wf) : s'.store.connection.Wf := by
  obtain heq | ⟨msg, id, e, -, hst, hc, hn, -⟩ := h.connections iso
  · rwa [heq]
  have hle : s.store.connection.connectionIdsCounter ≤ s'.store.connection.connectionIdsCounter :=
    hn ▸ Nat.le_add_right _ _
  refine ⟨fun id' e' he' => ?_, fun id' e' he' hs' => ?_⟩ <;> rw [hc] at he' <;>
    by_cases hid : id' = id
  · obtain ⟨rfl, hopened, -⟩ | ⟨e₀, he₀, -⟩ := hst.replaces
    · exact ⟨_, by rw [hn, hopened]; exact Nat.lt_succ_self _, hid⟩
    · obtain ⟨m, hm, rfl⟩ := hw.numbered id e₀ he₀
      exact ⟨m, hm.trans_le hle, hid⟩
  · rw [Function.update_of_ne hid] at he'
    obtain ⟨m, hm, heq⟩ := hw.numbered id' e' he'
    exact ⟨m, hm.trans_le hle, heq⟩
  · rw [hid, Function.update_self] at he'
    cases he'
    obtain ⟨-, -, hinit⟩ | ⟨e₀, -, hopen, -⟩ := hst.replaces
    · exact hinit hs'
    · rw [hopen] at hs'
      cases hs'
  · rw [Function.update_of_ne hid] at he'
    exact hw.unanswered id' e' he' hs'

theorem Reachable.connectionStore_wf (iso : H.Isolated) (h : Reachable H s) :
    s.store.connection.Wf := by
  induction h with
  | init s hst =>
    rw [hst]
    exact ⟨nofun, nofun⟩
  | step i _ hs ih => exact hs.connectionStore_wf iso ih

/-- **A connection end stays, and only moves forward.** -/
theorem Step.connection_forward (iso : H.Isolated) (hr : Reachable H s) (h : Step H i s s')
    {id : ConnectionId} {e : ConnectionEnd} (he : s.store.connection.connections id = some e) :
    ∃ e', s'.store.connection.connections id = some e' ∧ e.Forward i id e' := by
  have hw := hr.connectionStore_wf iso
  obtain heq | ⟨msg, id', e', rfl, hst, hc, -⟩ := h.connections iso
  · exact ⟨e, by rw [heq, he], .refl⟩
  by_cases hid : id = id'
  · subst hid
    refine ⟨e', by rw [hc, Function.update_self], ?_⟩
    obtain ⟨rfl, -⟩ | ⟨e₀, he₀, -, hforward⟩ := hst.replaces
    -- An end stored under a fresh identifier is not the one that was there.
    · rw [hw.next_absent] at he
      cases he
    · obtain rfl : e₀ = e := Option.some.inj (he₀.symm.trans he)
      refine hforward ?_
      by_cases hs : e₀.state = .init
      · exact .inl (hw.unanswered id e₀ he hs)
      · exact .inr hs
  · exact ⟨e, by rw [hc, Function.update_of_ne hid, he], .refl⟩

/-- A stored channel end was opened. -/
def ChannelStore.Opened (c : ChannelStore) : Prop :=
  ∀ key e, c.channels key = some e → e.state ≠ .uninitialized

/-- A message replaces the end it is about, or stores under the next identifier. -/
theorem ChannelMsg.Stores.replaces {msg : ChannelMsg} {key : ChannelKey} {e : ChannelEnd}
    (h : msg.Stores H s key e) : e.state ≠ .uninitialized ∧
      ((∃ port, key = (port, .new s.store.channel.channelIdsCounter)) ∨
        ∃ e₀, s.store.channel.channels key = some e₀ ∧
          (e₀.Wf → e₀.state ≠ .uninitialized →
            e₀.Forward (.dispatch (.channel msg) : Input Cons μ) key e)) := by
  cases h with
  | openInit hhops hconn hcs ho => exact ⟨nofun, .inl ⟨_, rfl⟩⟩
  | openTry hhops hroute ho hv => exact ⟨nofun, .inl ⟨_, rfl⟩⟩
  | @openAck msg e₀ _ _ he hs hroute hv =>
    refine ⟨nofun, .inr ⟨e₀, he, fun hw _ => ?_⟩⟩
    refine ⟨.inr ?_, rfl, rfl, rfl, .inr ⟨hs, hw.unanswered hs⟩, .inr ⟨hs, rfl, msg, rfl, rfl⟩⟩
    rw [hs]
    exact .ack
  | @openConfirm msg e₀ _ _ _ he hs hid hroute hv =>
    refine ⟨nofun, .inr ⟨e₀, he, fun _ _ => ?_⟩⟩
    refine ⟨.inr ?_, rfl, rfl, rfl, .inl rfl, .inl rfl⟩
    rw [hs]
    exact .confirm
  | closeInit he hs hconn hcs => exact ⟨nofun, .inr ⟨_, he, fun _ hu => .close hu hs⟩⟩
  | closeConfirm he hs hid hroute hv => exact ⟨nofun, .inr ⟨_, he, fun _ hu => .close hu hs⟩⟩

theorem Step.channelStore_opened (iso : H.Isolated) (h : Step H i s s')
    (hw : s.store.channel.Opened) : s'.store.channel.Opened :=
  h.channel_ends iso hw (fun _ _ _ _ hst => hst.replaces.1) fun _ _ _ => nofun

theorem Reachable.channelStore_opened (iso : H.Isolated) (h : Reachable H s) :
    s.store.channel.Opened := by
  induction h with
  | init s hst =>
    rw [hst]
    exact nofun
  | step i _ hs ih => exact hs.channelStore_opened iso ih

theorem Reachable.channelEnd_wf (iso : H.Isolated) (h : Reachable H s) {key : ChannelKey}
    {e : ChannelEnd} (he : s.store.channel.channels key = some e) : e.Wf :=
  ChannelView.Life.channel_wf (h.life iso key) e he

/-- **A channel end stays, and only moves forward.** -/
theorem Step.channel_forward (iso : H.Isolated) (hr : Reachable H s) (h : Step H i s s')
    {key : ChannelKey} {e : ChannelEnd} (he : s.store.channel.channels key = some e) :
    ∃ e', s'.store.channel.channels key = some e' ∧ e.Forward i key e' := by
  have hu : e.state ≠ .uninitialized := hr.channelStore_opened iso key e he
  obtain heq | ⟨msg, key', e', rfl, hst, hc⟩ | ⟨msg, rfl, -, e₀, he₀, -, hc⟩ := h.channels iso
  · exact ⟨e, by rw [heq, he], .refl⟩
  · by_cases hk : key = key'
    · subst hk
      refine ⟨e', by rw [hc, Function.update_self], ?_⟩
      obtain ⟨-, ⟨port, rfl⟩ | ⟨e₀, he₀, hforward⟩⟩ := hst.replaces
      · rw [(hr.numbered iso).next_absent] at he
        cases he
      · obtain rfl : e₀ = e := Option.some.inj (he₀.symm.trans he)
        exact hforward (hr.channelEnd_wf iso he) hu
    · exact ⟨e, by rw [hc, Function.update_of_ne hk, he], .refl⟩
  · by_cases hk : key = msg.packet.chanOnA
    · obtain rfl : e₀ = e := Option.some.inj (he₀.symm.trans (hk ▸ he))
      refine ⟨{ e₀ with state := .closed }, by rw [hc, hk, Function.update_self], ?_⟩
      -- The timeout of a packet closes also an end that is closed; that one stays as it is.
      by_cases hcl : e₀.state = .closed
      · rw [← hcl]
        exact .refl
      · exact .close hu hcl
    · exact ⟨e, by rw [hc, Function.update_of_ne hk, he], .refl⟩

/-! ### Over a run -/

/-- The channel end `e`, past `init`, became `e'`. -/
structure ChannelEnd.Kept (e e' : ChannelEnd) : Prop where
  fields : e' = { e with state := e'.state }
  state : e'.state = e.state ∨ (e.state = .tryOpen ∧ e'.state = .open) ∨ e'.state = .closed

/-- The connection end `e`, past `init`, became `e'`. -/
structure ConnectionEnd.Kept (e e' : ConnectionEnd) : Prop where
  fields : e' = { e with state := e'.state }
  state : e'.state = e.state ∨ (e.state = .tryOpen ∧ e'.state = .open)

theorem ChannelEnd.Kept.trans {e e' e'' : ChannelEnd} (h : e.Kept e') (h' : e'.Kept e'') :
    e.Kept e'' := by
  refine ⟨?_, ?_⟩
  · rw [h'.fields, h.fields]
  · rcases h.state with hs | ⟨hs, hs₁⟩ | hs₁
    · rw [← hs]
      exact h'.state
    all_goals rcases h'.state with hs' | ⟨hs', -⟩ | hs'
    all_goals first | exact .inr (.inr hs') | simp_all

theorem ConnectionEnd.Kept.trans {e e' e'' : ConnectionEnd} (h : e.Kept e') (h' : e'.Kept e'') :
    e.Kept e'' := by
  refine ⟨?_, ?_⟩
  · rw [h'.fields, h.fields]
  · rcases h.state with hs | ⟨hs, hs₁⟩
    · rw [← hs]
      exact h'.state
    · rcases h'.state with hs' | ⟨hs', -⟩ <;> simp_all

theorem ChannelEnd.Kept.ne_init {e e' : ChannelEnd} (h : e.Kept e') (hs : e.state ≠ .init) :
    e'.state ≠ .init := by
  rcases h.state with h | ⟨-, h⟩ | h <;> simp [h, hs]

theorem ConnectionEnd.Kept.ne_init {e e' : ConnectionEnd} (h : e.Kept e')
    (hs : e.state ≠ .init) : e'.state ≠ .init := by
  rcases h.state with h | ⟨-, h⟩ <;> simp [h, hs]

theorem ChannelEnd.Forward.kept {key : ChannelKey} {e e' : ChannelEnd} (h : e.Forward i key e')
    (hs : e.state ≠ .init) : e.Kept e' := by
  have hversion : e'.version = e.version := h.version.resolve_right fun hv => hs hv.1
  have hchannel : e'.remote.channelId = e.remote.channelId :=
    h.channel.resolve_right fun hc => hs hc.1
  refine ⟨?_, ?_⟩
  · rcases e with ⟨_, _, ⟨_, _⟩, _, _⟩
    rcases e' with ⟨_, _, ⟨_, _⟩, _, _⟩
    cases h.ordering
    cases h.hops
    cases h.port
    cases hversion
    cases hchannel
    rfl
  · obtain rfl | hf := h.state
    · exact .inl rfl
    · generalize e.state = st, e'.state = st' at hf hs ⊢
      cases hf with
      | ack => exact absurd rfl hs
      | confirm => exact .inr (.inl ⟨rfl, rfl⟩)
      | close => exact .inr (.inr rfl)

theorem ConnectionEnd.Forward.kept {id : ConnectionId} {e e' : ConnectionEnd}
    (h : e.Forward i id e') (hs : e.state ≠ .init) : e.Kept e' := by
  have hversions : e'.versions = e.versions := h.versions.resolve_right fun hv => hs hv.1
  have hconnection : e'.counterparty.connectionId = e.counterparty.connectionId :=
    h.connection.resolve_right fun hc => hs hc.1
  refine ⟨?_, ?_⟩
  · rcases e with ⟨_, _, ⟨_, _, _⟩, _, _⟩
    rcases e' with ⟨_, _, ⟨_, _, _⟩, _, _⟩
    cases h.client
    cases h.delay
    cases h.otherClient
    cases h.pfx
    cases hversions
    cases hconnection
    rfl
  · obtain rfl | hf := h.state
    · exact .inl rfl
    · generalize e.state = st, e'.state = st' at hf hs ⊢
      cases hf with
      | ack => exact absurd rfl hs
      | confirm => exact .inr ⟨rfl, rfl⟩

/-- **Over a run a channel end past `init` changes in its state only.** -/
theorem Run.channel_kept (iso : H.Isolated) (hr : Reachable H s) (h : Run H s s')
    {key : ChannelKey} {e : ChannelEnd} (he : s.store.channel.channels key = some e)
    (hs : e.state ≠ .init) : ∃ e', s'.store.channel.channels key = some e' ∧ e.Kept e' := by
  induction h with
  | refl => exact ⟨e, he, rfl, .inl rfl⟩
  | step i hrun hstep ih =>
    obtain ⟨e₁, he₁, hk₁⟩ := ih
    obtain ⟨e₂, he₂, hf⟩ := hstep.channel_forward iso (hr.run hrun) he₁
    exact ⟨e₂, he₂, hk₁.trans (hf.kept (hk₁.ne_init hs))⟩

/-- **Over a run a connection end past `init` changes in its state only.** -/
theorem Run.connection_kept (iso : H.Isolated) (hr : Reachable H s) (h : Run H s s')
    {id : ConnectionId} {e : ConnectionEnd} (he : s.store.connection.connections id = some e)
    (hs : e.state ≠ .init) : ∃ e', s'.store.connection.connections id = some e' ∧ e.Kept e' := by
  induction h with
  | refl => exact ⟨e, he, rfl, .inl rfl⟩
  | step i hrun hstep ih =>
    obtain ⟨e₁, he₁, hk₁⟩ := ih
    obtain ⟨e₂, he₂, hf⟩ := hstep.connection_forward iso (hr.run hrun) he₁
    exact ⟨e₂, he₂, hk₁.trans (hf.kept (hk₁.ne_init hs))⟩

/-- An open connection stays as it is. -/
theorem Run.connection_open (iso : H.Isolated) (hr : Reachable H s) (h : Run H s s')
    {id : ConnectionId} {e : ConnectionEnd} (he : s.store.connection.connections id = some e)
    (hs : e.state = .open) : s'.store.connection.connections id = some e := by
  obtain ⟨e', he', hk⟩ := h.connection_kept iso hr he (by simp [hs])
  rw [he', hk.fields]
  rcases hk.state with h' | ⟨h', -⟩
  · rw [h']
  · rw [hs] at h'
    cases h'

/-! ### Successful messages -/

/-- **A successful message moves every end forward or not at all.** -/
theorem ends_move_forward (iso : H.Isolated) (hr : Reachable H s) {msg : MsgEnvelope}
    (h : dispatch H msg s = (.ok (), s')) :
    (∀ key e, s.store.channel.channels key = some e → ∃ e',
      s'.store.channel.channels key = some e' ∧
        e.Forward (.dispatch msg : Input Cons μ) key e') ∧
    ∀ id e, s.store.connection.connections id = some e → ∃ e',
      s'.store.connection.connections id = some e' ∧
        e.Forward (.dispatch msg : Input Cons μ) id e' := by
  have hs : Step H (.dispatch msg) s s' := ⟨_, h, nofun⟩
  exact ⟨fun _ _ he => hs.channel_forward iso hr he, fun _ _ he => hs.connection_forward iso hr he⟩

/-- The acknowledgement of the mock host's channel moves its end from `init` to `open`. -/
theorem acknowledged_end_moves_forward : ∃ s s' msg e e', Reachable MockRun.host s ∧
    MockRun.chanOpenAck = .dispatch msg ∧ dispatch MockRun.host msg s = (.ok (), s') ∧
    s.store.channel.channels (.transfer, MockRun.channelId) = some e ∧ e.state = .init ∧
    s'.store.channel.channels (.transfer, MockRun.channelId) = some e' ∧ e'.state = .open ∧
    e.Forward MockRun.chanOpenAck (.transfer, MockRun.channelId) e' := by
  let msg : MsgEnvelope := .channel (.openAck ⟨.transfer, MockRun.channelId, MockRun.channelId,
    MockRun.version, MockRun.proof, ⟨0, 1⟩, MockRun.signer⟩)
  obtain ⟨s, hs, h⟩ := Reachable.exists_of_runAll (H := MockRun.host) (s := MockRun.start)
    [MockRun.createClient, MockRun.connOpenInit, MockRun.connOpenAck, MockRun.chanOpenInit .ordered]
    (fun s => ((s.store.channel.channels (.transfer, MockRun.channelId)).map (·.state),
      (dispatch MockRun.host msg s).1,
      ((dispatch MockRun.host msg s).2.store.channel.channels
        (.transfer, MockRun.channelId)).map (·.state)))
    rfl rfl (by decide +kernel : _ = some (some .init, .ok (), some .open))
  obtain ⟨e, he, hinit⟩ := Option.map_eq_some_iff.mp (congrArg Prod.fst h)
  obtain ⟨e', he', hopen⟩ := Option.map_eq_some_iff.mp (congrArg (·.2.2) h)
  have hok : dispatch MockRun.host msg s = (.ok (), (dispatch MockRun.host msg s).2) :=
    Prod.ext (congrArg (·.2.1) h) rfl
  obtain ⟨e'', he'', hforward⟩ :=
    (ends_move_forward MockRun.host_isolated hs hok).1 (.transfer, MockRun.channelId) e he
  obtain rfl : e'' = e' := Option.some.inj (he''.symm.trans he')
  exact ⟨s, _, msg, e, e'', hs, rfl, hok, he, hinit, he', hopen, hforward⟩

end Ibc
