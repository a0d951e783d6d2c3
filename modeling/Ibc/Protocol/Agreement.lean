import Ibc.Protocol.WorldRun

/-!
# The handshakes agree

Two chains with sound clients of each other, any interleaving. An end that is open on one chain is
answered by an end of the other, which names it and holds the same parameters. What an end rests on
is a proof about a past state of the other chain; that it is still so now is
`Duo.System.Reachable.attested`, with `Step.connection_forward` and `Step.channel_forward` for the
facts that stay.

* **`connection_agreement`**: for connections. The delay is encoded as a 64-bit word, so the two
  ends agree on it when the messages carry such words, as decoded ones do.
* **`channel_agreement`**: for channels, also after they are closed.

That no two open ends name the same end of the other chain follows from the agreement in the other
direction: the end they name can name only one of them.
-/

namespace Ibc

variable {CS Cons μ CS' Cons' μ' : Type}

/-! ### Connections -/

/-- The other chain's end `e'` is what the open end `e`, under `id` on a chain with prefix `pfx`,
was proved to have there. -/
structure ConnectionEnd.Matches (pfx : CommitmentPrefix) (id : ConnectionId)
    (e e' : ConnectionEnd) : Prop where
  state : e'.state = .tryOpen ∨ e'.state = .open
  counterparty : e'.counterparty = ⟨e.clientId, some id, pfx⟩
  versions : e'.versions = e.versions
  delay : e'.delayPeriod % UInt64.size = e.delayPeriod % UInt64.size

/-- The other chain's end `e'` answers the open end `e`. -/
structure ConnectionEnd.Answers (pfx : CommitmentPrefix) (id : ConnectionId)
    (e e' : ConnectionEnd) : Prop where
  state : e'.state = .tryOpen ∨ e'.state = .open
  counterparty : e'.counterparty = ⟨e.clientId, some id, pfx⟩
  version : ∃ v, e.versions = [v] ∧ e'.versions = [v]
  delay : e'.delayPeriod = e.delayPeriod

section OneChain

variable {H : Host CS Cons μ} {s s' : Ctx CS Cons μ} {i : Input Cons μ}

theorem ConnectionEnd.Matches.kept {pfx : CommitmentPrefix} {id : ConnectionId}
    {e e' e'' : ConnectionEnd} (h : e.Matches pfx id e') (hk : e'.Kept e'') :
    e.Matches pfx id e'' := by
  obtain ⟨hfields, hstate⟩ := hk
  rw [hfields]
  refine ⟨?_, h.counterparty, h.versions, h.delay⟩
  rcases hstate with hst | ⟨-, hst⟩
  · exact hst ▸ h.state
  · exact .inr hst

/-- An end that a step opens was proved to be answered. -/
theorem Step.opens_connection (iso : H.Isolated) (h : Step H i s s') {id : ConnectionId}
    {e : ConnectionEnd} (he : s'.store.connection.connections id = some e)
    (hopen : e.state = .open) :
    s.store.connection.connections id = some e ∨
      ∃ other expected, e.counterparty.connectionId = some other ∧
        Attested H s.store e.clientId e.counterparty.pfx (.connection other)
          expected.toRaw.encode ∧ e.Matches H.commitmentPrefix id expected := by
  refine h.connection_ends (P := fun id e => e.state = .open →
    s.store.connection.connections id = some e ∨ ∃ other expected,
      e.counterparty.connectionId = some other ∧
        Attested H s.store e.clientId e.counterparty.pfx (.connection other)
          expected.toRaw.encode ∧ e.Matches H.commitmentPrefix id expected)
    iso (fun _ _ he _ => .inl he) ?_ id e he hopen
  intro msg id e _ hst hopen
  cases hst with
  | openInit | openTry => cases hopen
  | openAck _ _ hv => exact .inr ⟨_, _, rfl, hv, .inl rfl, rfl, rfl, rfl⟩
  | openConfirm _ _ hid hv => exact .inr ⟨_, _, hid, hv, .inr rfl, rfl, rfl, rfl⟩

end OneChain

/-- The words in which a decoded message gives a delay. -/
def Input.DelayInRange : Input Cons μ → Prop
  | .dispatch (.connection (.openInit msg)) => msg.delayPeriod < UInt64.size
  | .dispatch (.connection (.openTry msg)) => msg.delayPeriod < UInt64.size
  | _ => True

instance : DecidablePred (Input.DelayInRange : Input Cons μ → Prop) := by
  intro i
  unfold Input.DelayInRange
  split <;> infer_instance

/-- Every open connection end of the first chain is answered on the second. -/
def ConnectionsAgree (H : Host CS Cons μ) (s : Ctx CS Cons μ) (s' : Ctx CS' Cons' μ') : Prop :=
  ∀ id e, s.store.connection.connections id = some e → e.state = .open →
    ∃ other e', e.counterparty.connectionId = some other ∧
      s'.store.connection.connections other = some e' ∧ e.Answers H.commitmentPrefix id e'

section World

variable {HA : Host CS Cons μ} {HB : Host CS' Cons' μ'} {okA : Input Cons μ → Prop}
  {okB : Input Cons' μ' → Prop} {w : Duo (Ctx CS Cons μ) (Ctx CS' Cons' μ')}

/-- What an open end was proved to have on the other chain is there now. -/
theorem connection_matched (isoA : HA.Isolated) (isoB : HB.Isolated)
    (h : (world HA HB okA okB).Reachable w) {id : ConnectionId} {e : ConnectionEnd}
    (he : w.left.store.connection.connections id = some e) (hopen : e.state = .open) :
    ∃ other e', e.counterparty.connectionId = some other ∧
      w.right.store.connection.connections other = some e' ∧
        e.Matches HA.commitmentPrefix id e' := by
  refine h.attested
    (C := fun a (x : ConnectionId × ConnectionEnd) =>
      a.store.connection.connections x.1 = some x.2 ∧ x.2.state = .open)
    (F := fun b x => ∃ other e', x.2.counterparty.connectionId = some other ∧
      b.store.connection.connections other = some e' ∧ x.2.Matches HA.commitmentPrefix x.1 e')
    (x := (id, e)) ?_ ?_ ?_ w.left_mem_lefts ⟨he, hopen⟩
  · rintro a x ⟨hst, -⟩ ⟨hc, -⟩
    rw [hst] at hc
    cases hc
  · rintro w a ⟨id, e⟩ - ⟨hsound, i, -, hstep⟩ ⟨hc, hopen⟩
    obtain hc | ⟨other, expected, hother, hv, hm⟩ := hstep.opens_connection isoA hc hopen
    · exact .inl ⟨hc, hopen⟩
    obtain ⟨b, hb, hheld⟩ := hsound.attested hv
    obtain ⟨e', he', hst, -, hcp, hvs, hd⟩ := hheld.connection
    refine .inr ⟨b, hb, other, e', hother, he', ?_⟩
    exact ⟨hst ▸ hm.state, hcp.trans hm.counterparty, hvs.trans hm.versions, hd.trans hm.delay⟩
  · rintro w b ⟨id, e⟩ hw ⟨-, i, -, hstep⟩ ⟨other, e', hother, he', hm⟩
    obtain ⟨e'', he'', hf⟩ := hstep.connection_forward isoB (World.right_reachable hw) he'
    have hne : e'.state ≠ .init := by
      rcases hm.state with hst | hst <;> simp [hst]
    exact ⟨other, e'', hother, he'', hm.kept (hf.kept hne)⟩

theorem connection_delay (isoA : HA.Isolated)
    (h : (world HA HB Input.DelayInRange okB).Reachable w) :
    ∀ id e, w.left.store.connection.connections id = some e → e.delayPeriod < UInt64.size := by
  refine h.lefts_invariant (I := fun a => ∀ id e,
    a.store.connection.connections id = some e → e.delayPeriod < UInt64.size) ?_ ?_ _
    w.left_mem_lefts
  · rintro a ⟨hst, -⟩
    rw [hst]
    exact nofun
  · rintro seen a a' ⟨-, i, hi, hstep⟩ ih
    refine hstep.connection_ends (P := fun _ e => e.delayPeriod < UInt64.size) isoA ih ?_
    rintro msg id e rfl hst
    cases hst with
    | openInit | openTry => exact hi
    | openAck he | openConfirm he =>
      have hdelay := ih _ _ he
      exact hdelay

theorem connections_agree (isoA : HA.Isolated) (isoB : HB.Isolated)
    (h : (world HA HB Input.DelayInRange Input.DelayInRange).Reachable w) :
    ConnectionsAgree HA w.left w.right := by
  intro id e he hopen
  obtain ⟨other, e', hother, he', hm⟩ := connection_matched isoA isoB h he hopen
  obtain ⟨v, hv⟩ := List.length_eq_one_iff.mp
    ((World.left_reachable h).connection_version isoA id e he (by simp [hopen]))
  have hdelay : e'.delayPeriod = e.delayPeriod := by
    have hd := hm.delay
    rwa [Nat.mod_eq_of_lt (connection_delay isoA h id e he),
      Nat.mod_eq_of_lt (connection_delay isoB (World.swap h) other e' he')] at hd
  exact ⟨other, e', hother, he', hm.state, hm.counterparty, ⟨v, hv, hm.versions.trans hv⟩, hdelay⟩

/-- **Connections agree.** Open ends are answered, in both directions, and no two open ends of a
chain name the same connection of the other. -/
theorem connection_agreement (isoA : HA.Isolated) (isoB : HB.Isolated)
    (h : (world HA HB Input.DelayInRange Input.DelayInRange).Reachable w) :
    ConnectionsAgree HA w.left w.right ∧ ConnectionsAgree HB w.right w.left ∧
      ∀ id₁ id₂ e₁ e₂ other, w.right.store.connection.connections id₁ = some e₁ →
        w.right.store.connection.connections id₂ = some e₂ → e₁.state = .open → e₂.state = .open →
        e₁.counterparty.connectionId = some other → e₂.counterparty.connectionId = some other →
          id₁ = id₂ := by
  have hback : ConnectionsAgree HB w.right w.left := connections_agree isoB isoA (World.swap h)
  refine ⟨connections_agree isoA isoB h, hback, ?_⟩
  intro id₁ id₂ e₁ e₂ other he₁ he₂ hopen₁ hopen₂ hother₁ hother₂
  obtain ⟨o₁, a₁, ho₁, ha₁, hanswer₁⟩ := hback id₁ e₁ he₁ hopen₁
  obtain ⟨o₂, a₂, ho₂, ha₂, hanswer₂⟩ := hback id₂ e₂ he₂ hopen₂
  obtain rfl : other = o₁ := Option.some.inj (hother₁.symm.trans ho₁)
  obtain rfl : other = o₂ := Option.some.inj (hother₂.symm.trans ho₂)
  obtain rfl : a₁ = a₂ := Option.some.inj (ha₁.symm.trans ha₂)
  have hnames := hanswer₁.counterparty.symm.trans hanswer₂.counterparty
  exact Option.some.inj (congrArg (·.connectionId) hnames)

end World

/-- The sample world, after the acknowledgement: open on the left, answered on the right. -/
theorem acknowledged_connection_agrees :
    ∃ w, (WorldRun.mockWorld (WorldRun.factsA 5 .ordered []) (WorldRun.factsB 5 .ordered [])
        Input.DelayInRange Input.DelayInRange).Reachable w ∧
      ∃ e e', w.left.store.connection.connections MockRun.connectionId = some e ∧
        e.state = .open ∧
        w.right.store.connection.connections MockRun.connectionId = some e' ∧
        e.Answers ⟨Proto.utf8 "mock"⟩ MockRun.connectionId e' := by
  obtain ⟨w, hw, he⟩ := WorldRun.exists_mockWorld (WorldRun.factsA 5 .ordered [])
    (WorldRun.factsB 5 .ordered []) Input.DelayInRange Input.DelayInRange (WorldRun.connecting 5 5)
    (fun w => w.left.store.connection.connections MockRun.connectionId)
    (by decide +kernel : _ = some (some (WorldRun.connEnd .open (some MockRun.connectionId) 5)))
  obtain ⟨other, e', hother, he', hanswer⟩ :=
    (connection_agreement (ProofRun.host_isolated _) (ProofRun.host_isolated _) hw).1 _ _ he rfl
  cases hother
  exact ⟨w, hw, _, e', he, rfl, he', hanswer⟩

/-- A delay of more than 64 bits: the left chain waits for 2⁶⁴ nanoseconds, and is proved an end of
the right chain that does not wait at all. -/
theorem long_delay_disagrees :
    ∃ w, (WorldRun.mockWorld (WorldRun.factsA 0 .ordered []) (WorldRun.factsB 0 .ordered [])
        (fun _ => True) fun _ => True).Reachable w ∧
      ∃ e e', w.left.store.connection.connections MockRun.connectionId = some e ∧
        e.state = .open ∧ e.counterparty.connectionId = some MockRun.connectionId ∧
        w.right.store.connection.connections MockRun.connectionId = some e' ∧
        e.delayPeriod = 2 ^ 64 ∧ e'.delayPeriod = 0 := by
  obtain ⟨w, hw, h⟩ := WorldRun.exists_mockWorld (WorldRun.factsA 0 .ordered [])
    (WorldRun.factsB 0 .ordered []) (fun _ => True) (fun _ => True)
    (WorldRun.connecting (2 ^ 64) 0)
    (fun w => (w.left.store.connection.connections MockRun.connectionId,
      w.right.store.connection.connections MockRun.connectionId))
    (by decide +kernel : _ = some (
      some (WorldRun.connEnd .open (some MockRun.connectionId) (2 ^ 64)),
      some (WorldRun.connEnd .tryOpen (some MockRun.connectionId) 0)))
  exact ⟨w, hw, _, _, congrArg Prod.fst h, rfl, rfl, congrArg Prod.snd h, rfl, rfl⟩

/-! ### Channels -/

/-- The other chain's channel end `e'` answers the end `e`, under `key`, over its connection
`connId`. -/
structure ChannelEnd.Answers (key : ChannelKey) (connId : ConnectionId) (e e' : ChannelEnd) :
    Prop where
  state : e'.state = .tryOpen ∨ e'.state = .open ∨ e'.state = .closed
  remote : e'.remote = ⟨key.1, some key.2⟩
  ordering : e'.ordering = e.ordering
  version : e'.version = e.version
  hops : e'.connectionHops = [connId]

/-- The channel end under `key` was open in one of these states. -/
def WasOpen (seen : List (Ctx CS Cons μ)) (key : ChannelKey) : Prop :=
  ∃ s ∈ seen, ∃ e, s.store.channel.channels key = some e ∧ e.state = .open

section OneChain

variable {H : Host CS Cons μ} {s s' : Ctx CS Cons μ} {i : Input Cons μ}

theorem ChannelEnd.Answers.kept {key : ChannelKey} {connId : ConnectionId} {e e' e'' : ChannelEnd}
    (h : e.Answers key connId e') (hk : e'.Kept e'') : e.Answers key connId e'' := by
  obtain ⟨hfields, hstate⟩ := hk
  rw [hfields]
  refine ⟨?_, h.remote, h.ordering, h.version, h.hops⟩
  rcases hstate with hst | ⟨-, hst⟩ | hst
  · exact hst ▸ h.state
  · exact .inr (.inl hst)
  · exact .inr (.inr hst)

/-- An open connection that a route takes stays as it is. -/
theorem Route.run (iso : H.Isolated) (hr : Reachable H s) (hrun : Run H s s')
    {hops : List ConnectionId} {conn : ConnectionEnd} {other : ConnectionId}
    (h : Route s.store hops conn other) : Route s'.store hops conn other := by
  obtain ⟨connId, hhop, hconn⟩ := Option.bind_eq_some_iff.mp h.under
  refine ⟨Option.bind_eq_some_iff.mpr ⟨connId, hhop, ?_⟩, h.isOpen, h.other⟩
  exact hrun.connection_open iso hr hconn h.isOpen

theorem Route.unique {st : Store CS Cons} {hops : List ConnectionId} {conn conn' : ConnectionEnd}
    {other other' : ConnectionId} (h : Route st hops conn other) (h' : Route st hops conn' other') :
    conn = conn' ∧ other = other' := by
  obtain rfl : conn = conn' := Option.some.inj (h.under.symm.trans h'.under)
  exact ⟨rfl, Option.some.inj (h.other.symm.trans h'.other)⟩

/-- An end that a step opens was proved to be answered, over an open connection. -/
theorem Step.opens_channel (iso : H.Isolated) (h : Step H i s s') {key : ChannelKey}
    {e : ChannelEnd} (he : s'.store.channel.channels key = some e) (hopen : e.state = .open) :
    s.store.channel.channels key = some e ∨
      ∃ conn connId chan expected, Route s.store e.connectionHops conn connId ∧
        e.remote.channelId = some chan ∧
        Attested H s.store conn.clientId conn.counterparty.pfx
          (.channelEnd e.remote.portId chan) expected.toRaw.encode ∧
        e.Answers key connId expected := by
  refine h.channel_ends (P := fun key e => e.state = .open →
    s.store.channel.channels key = some e ∨ ∃ conn connId chan expected,
      Route s.store e.connectionHops conn connId ∧ e.remote.channelId = some chan ∧
        Attested H s.store conn.clientId conn.counterparty.pfx
          (.channelEnd e.remote.portId chan) expected.toRaw.encode ∧
        e.Answers key connId expected)
    iso (fun _ _ he _ => .inl he) ?_ (fun _ _ _ => nofun) key e he hopen
  intro msg key e _ hst hopen
  cases hst with
  | openInit | openTry | closeInit | closeConfirm => cases hopen
  | openAck _ _ hroute hv =>
    exact .inr ⟨_, _, _, _, hroute, rfl, hv, .inl rfl, rfl, rfl, rfl, rfl⟩
  | openConfirm _ _ hid hroute hv =>
    exact .inr ⟨_, _, _, _, hroute, hid, hv, .inr (.inl rfl), rfl, rfl, rfl, rfl⟩

/-- An open channel runs over an open connection. -/
theorem Reachable.channel_route (iso : H.Isolated) (h : Reachable H s) :
    ∀ key e, s.store.channel.channels key = some e → e.state = .open →
      ∃ conn connId, Route s.store e.connectionHops conn connId := by
  induction h with
  | init s hst =>
    rw [hst]
    exact nofun
  | step i hr hs ih =>
    intro key e he hopen
    have hrun := Run.refl.step i hs
    obtain he | ⟨conn, connId, _, _, hroute, -⟩ := hs.opens_channel iso he hopen
    · obtain ⟨conn, connId, hroute⟩ := ih key e he hopen
      exact ⟨conn, connId, hroute.run iso hr hrun⟩
    · exact ⟨conn, connId, hroute.run iso hr hrun⟩

end OneChain

section World

variable {HA : Host CS Cons μ} {HB : Host CS' Cons' μ'} {okA : Input Cons μ → Prop}
  {okB : Input Cons' μ' → Prop} {w : Duo (Ctx CS Cons μ) (Ctx CS' Cons' μ')}

/-- An end that was ever open is answered on the other chain now. -/
theorem channel_answered (isoA : HA.Isolated) (isoB : HB.Isolated)
    (h : (world HA HB okA okB).Reachable w) {a : Ctx CS Cons μ} (ha : a ∈ w.lefts)
    {key : ChannelKey} {e : ChannelEnd} {conn : ConnectionEnd} {connId : ConnectionId}
    (he : a.store.channel.channels key = some e) (hopen : e.state = .open)
    (hroute : Route a.store e.connectionHops conn connId) :
    ∃ chan e', e.remote.channelId = some chan ∧
      w.right.store.channel.channels (e.remote.portId, chan) = some e' ∧
        e.Answers key connId e' := by
  refine h.attested
    (C := fun a (x : ChannelKey × ChannelEnd × ConnectionId) =>
      a.store.channel.channels x.1 = some x.2.1 ∧ x.2.1.state = .open ∧
        ∃ conn, Route a.store x.2.1.connectionHops conn x.2.2)
    (F := fun b x => ∃ chan e', x.2.1.remote.channelId = some chan ∧
      b.store.channel.channels (x.2.1.remote.portId, chan) = some e' ∧
        x.2.1.Answers x.1 x.2.2 e')
    (x := (key, e, connId)) ?_ ?_ ?_ ha ⟨he, hopen, conn, hroute⟩
  · rintro a x ⟨hst, -⟩ ⟨hc, -⟩
    rw [hst] at hc
    cases hc
  · rintro w a ⟨key, e, connId⟩ hw ⟨hsound, i, -, hstep⟩ ⟨hc, hopen, conn, hroute⟩
    have hr := World.left_reachable hw
    have hrun := Run.refl.step i hstep
    obtain hc | ⟨conn', connId', chan, expected, hroute', hchan, hv, hanswer⟩ :=
      hstep.opens_channel isoA hc hopen
    · obtain ⟨conn', connId', hroute'⟩ := hr.channel_route isoA key e hc hopen
      obtain ⟨rfl, rfl⟩ := hroute.unique (hroute'.run isoA hr hrun)
      exact .inl ⟨hc, hopen, conn, hroute'⟩
    · obtain ⟨rfl, rfl⟩ := hroute.unique (hroute'.run isoA hr hrun)
      obtain ⟨b, hb, hheld⟩ := hsound.attested hv
      exact .inr ⟨b, hb, chan, expected, hchan, hheld.channelEnd, hanswer⟩
  · rintro w b ⟨key, e, connId⟩ hw ⟨-, i, -, hstep⟩ ⟨chan, e', hchan, he', hanswer⟩
    obtain ⟨e'', he'', hf⟩ := hstep.channel_forward isoB (World.right_reachable hw) he'
    have hne : e'.state ≠ .init := by
      rcases hanswer.state with hst | hst | hst <;> simp [hst]
    exact ⟨chan, e'', hchan, he'', hanswer.kept (hf.kept hne)⟩

/-- An end that is or was open is answered, over the connection that answers its own. -/
theorem channel_was_open_answered (isoA : HA.Isolated) (isoB : HB.Isolated)
    (h : (world HA HB okA okB).Reachable w) {key : ChannelKey} {e : ChannelEnd}
    (he : w.left.store.channel.channels key = some e) (hwas : WasOpen w.lefts key) :
    ∃ chan connId conn other e', e.remote.channelId = some chan ∧ e.connectionHops = [connId] ∧
      w.left.store.connection.connections connId = some conn ∧
      conn.counterparty.connectionId = some other ∧
      w.right.store.channel.channels (e.remote.portId, chan) = some e' ∧
      e.Answers key other e' := by
  obtain ⟨a, ha, e₀, he₀, hopen⟩ := hwas
  have hr := World.lefts_reachable h a ha
  have hrun := World.left_run h a ha
  obtain ⟨conn, other, hroute⟩ := hr.channel_route isoA key e₀ he₀ hopen
  obtain ⟨chan, e', hchan, he', hanswer⟩ :=
    channel_answered isoA isoB h ha he₀ hopen hroute
  -- Since it was open, the end has changed in its state only.
  obtain ⟨e₁, he₁, hkept⟩ := hrun.channel_kept isoA hr he₀ (by simp [hopen])
  obtain rfl : e₁ = e := Option.some.inj (he₁.symm.trans he)
  obtain ⟨connId, _, hhops, -⟩ := hr.channel_hop isoA key e₀ he₀
  have hunder := (hroute.run isoA hr hrun).under
  rw [hhops] at hunder
  rw [hkept.fields]
  exact ⟨chan, connId, conn, other, e', hchan, hhops, hunder, hroute.other, he',
    hanswer.state, hanswer.remote, hanswer.ordering, hanswer.version, hanswer.hops⟩

/-- An end that is or was open is named by the end that it names. -/
theorem channel_named_back (isoA : HA.Isolated) (isoB : HB.Isolated)
    (h : (world HA HB okA okB).Reachable w) {key : ChannelKey} {e : ChannelEnd}
    (he : w.left.store.channel.channels key = some e) (hwas : WasOpen w.lefts key) :
    ∃ chan e', e.remote.channelId = some chan ∧
      w.right.store.channel.channels (e.remote.portId, chan) = some e' ∧
        e'.remote = ⟨key.1, some key.2⟩ := by
  obtain ⟨chan, _, _, _, e', hchan, -, -, -, he', hanswer⟩ :=
    channel_was_open_answered isoA isoB h he hwas
  exact ⟨chan, e', hchan, he', hanswer.remote⟩

/-- **Channels agree.** An end that is or was open is answered, over the connection that answers its
own; and no two open ends of a chain name the same channel end of the other. -/
theorem channel_agreement (isoA : HA.Isolated) (isoB : HB.Isolated)
    (h : (world HA HB okA okB).Reachable w) :
    (∀ key e, w.left.store.channel.channels key = some e → WasOpen w.lefts key →
      ∃ chan connId conn other e', e.remote.channelId = some chan ∧ e.connectionHops = [connId] ∧
        w.left.store.connection.connections connId = some conn ∧
        conn.counterparty.connectionId = some other ∧
        w.right.store.channel.channels (e.remote.portId, chan) = some e' ∧
        e.Answers key other e') ∧
    ∀ key₁ key₂ e₁ e₂ remote, w.right.store.channel.channels key₁ = some e₁ →
      w.right.store.channel.channels key₂ = some e₂ → e₁.state = .open → e₂.state = .open →
      e₁.remote = remote → e₂.remote = remote → key₁ = key₂ := by
  constructor
  · intro key e he hwas
    exact channel_was_open_answered isoA isoB h he hwas
  · rintro key₁ key₂ e₁ e₂ remote he₁ he₂ hopen₁ hopen₂ rfl hremote
    have hback := World.swap h
    obtain ⟨c₁, a₁, hc₁, ha₁, hr₁⟩ := channel_named_back isoB isoA hback he₁
      ⟨_, w.right_mem_rights, e₁, he₁, hopen₁⟩
    obtain ⟨c₂, a₂, hc₂, ha₂, hr₂⟩ := channel_named_back isoB isoA hback he₂
      ⟨_, w.right_mem_rights, e₂, he₂, hopen₂⟩
    rw [hremote] at hc₂ ha₂
    obtain rfl : c₁ = c₂ := Option.some.inj (hc₁.symm.trans hc₂)
    obtain rfl : a₁ = a₂ := Option.some.inj (ha₁.symm.trans ha₂)
    have hsame := hr₁.symm.trans hr₂
    exact Prod.ext (congrArg (·.portId) hsame) (Option.some.inj (congrArg (·.channelId) hsame))

end World

/-- The sample world with an open channel: its end on the left is answered on the right. -/
theorem opened_channel_agrees :
    ∃ w, (WorldRun.mockWorld (WorldRun.factsA 0 .ordered []) (WorldRun.factsB 0 .ordered [])
        (fun _ => True) fun _ => True).Reachable w ∧
      ∃ e e', w.left.store.channel.channels (.transfer, MockRun.channelId) = some e ∧
        e.state = .open ∧
        w.right.store.channel.channels (.transfer, MockRun.channelId) = some e' ∧
        e'.state = .open ∧
        e.Answers (.transfer, MockRun.channelId) MockRun.connectionId e' := by
  obtain ⟨w, hw, h⟩ := WorldRun.exists_mockWorld (WorldRun.factsA 0 .ordered [])
    (WorldRun.factsB 0 .ordered []) (fun _ => True) (fun _ => True) (WorldRun.opening .ordered)
    (fun w => (w.left.store.channel.channels (.transfer, MockRun.channelId),
      w.right.store.channel.channels (.transfer, MockRun.channelId),
      w.left.store.connection.connections MockRun.connectionId))
    (by decide +kernel : _ = some (
      some (WorldRun.chanEnd .open (some MockRun.channelId) .ordered),
      some (WorldRun.chanEnd .open (some MockRun.channelId) .ordered),
      some (WorldRun.connEnd .open (some MockRun.connectionId) 0)))
  have hleft := congrArg Prod.fst h
  have hright := congrArg (·.2.1) h
  have hconn := congrArg (·.2.2) h
  obtain ⟨chan, connId, conn, other, e', hchan, hhops, hconn', hother, he', hanswer⟩ :=
    (channel_agreement (ProofRun.host_isolated _) (ProofRun.host_isolated _) hw).1 _ _ hleft
      ⟨_, w.left_mem_lefts, _, hleft, rfl⟩
  cases hchan
  cases hhops
  obtain rfl : conn = _ := Option.some.inj (hconn'.symm.trans hconn)
  cases hother
  obtain rfl : e' = _ := Option.some.inj (he'.symm.trans hright)
  exact ⟨w, hw, _, _, hleft, rfl, hright, rfl, hanswer⟩

end Ibc
