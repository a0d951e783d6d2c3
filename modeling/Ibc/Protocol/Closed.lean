import Ibc.Protocol.Exclusive
import Ibc.Protocol.Timeout

/-!
# Closed channel ends

What a chain keeps under a closed channel end can change in one way only: a timeout on close of a
packet that is still in flight there (`Step.view_closed`). All other messages check the state of the
end first. A timeout on close has one proof verified for two facts
(`timeoutOnCloseValidate_verifies`), so where a proof of a value is about one path it does not pass:

* **`closed_end_frozen`**: whatever a chain does, everything under a closed channel end stays as it
  is. A packet in flight when the end closes is never acknowledged and never timed out.
-/

namespace Ibc

variable {CS Cons μ : Type} {H : Host CS Cons μ} {i : Input Cons μ} {s s' : Ctx CS Cons μ}

/-! ### Refused messages -/

/-- A message either passes validation, or its step leaves everything as it is. -/
theorem Step.validated {msg : MsgEnvelope} (h : Step H (.dispatch msg) s s') :
    s' = s ∨ validate H s msg = .ok () := by
  obtain ⟨r, hrun, -⟩ := h
  have hends : Exec.Ensures (dispatch H msg) s
      fun _ s' => s' = s ∨ validate H s msg = .ok () :=
    Exec.ensures_read_bind
      (Exec.Ensures.ofResult_bind (fun _ _ => .inl rfl) fun _ hv => .inr hv)
  rwa [Exec.Ensures, show dispatch H msg s = (r, s') from hrun] at hends

theorem timeoutValidate_open {msg : MsgTimeout} (h : timeoutValidate H s msg = .ok ()) :
    ∃ e, s.store.channel.channels msg.packet.chanOnA = some e ∧ e.state = .open := by
  simp only [timeoutValidate, Result.bind_eq_ok, lift_channel_eq_ok, Ctx.channelEnd,
    Result.okOr_eq_ok, ChannelEnd.verifyStateMatches, Result.ensure_eq_ok] at h
  obtain ⟨_, _, e, he, _, hs, _⟩ := h
  exact ⟨e, he, hs⟩

/-! ### One step, and a run -/

section Closed

variable {key : ChannelKey} {e : ChannelEnd}

/-- A timeout recorded for a closed end comes from a timeout on close. -/
theorem Step.timeoutOnClose_of_closed {p : Packet} {ok : Bool} (h : Step H i s s')
    (hp : i.packet = some p) (hk : i.localChannel s = some p.chanOnA)
    (he : s.store.channel.channels p.chanOnA = some e) (hclosed : e.state = .closed)
    (hh : s'.history = s.history ++ [.timeoutPacket p ok]) :
    ∃ msg, msg.packet = p ∧ timeoutOnCloseValidate H s msg = .ok () := by
  have hne : s' ≠ s := by
    rintro rfl
    simpa using congrArg List.length hh
  -- The other messages for this end need it to be open.
  have hopen {e' : ChannelEnd} (he' : s.store.channel.channels p.chanOnA = some e')
      (hs : e'.state = .open) : False := by
    rw [he, Option.some_inj] at he'
    rw [← he', hclosed] at hs
    cases hs
  cases i with
  | sendPacket q =>
    obtain ⟨r, hrun, -⟩ := h
    have hrec := sendPacket_records (H := H) (s := s) (p := q)
    rw [Exec.Ensures, show sendPacket H q s = (r, s') from hrun] at hrec
    rcases hrec with hsame | hsent
    · simpa using congrArg List.length (hsame.symm.trans hh)
    · cases List.append_cancel_left (hsent.symm.trans hh)
  | dispatch msg =>
    have hv := h.validated.resolve_left hne
    cases msg with
    | packet msg =>
      cases hp
      obtain ⟨id, -, hv⟩ := Result.bind_eq_ok.mp hv
      cases msg with
      | recv msg =>
        obtain ⟨e', hv⟩ := recvPacketValidate_shows hv
        exact (hopen (Option.some_inj.mp hk ▸ hv.channel) hv.state).elim
      | ack msg =>
        obtain ⟨e', he', hs, -⟩ := acknowledgementPacketValidate_shows hv
        exact (hopen he' hs).elim
      | timeout msg =>
        obtain ⟨_, hcore, -⟩ := Result.bind_eq_ok.mp hv
        obtain ⟨e', he', hs⟩ := timeoutValidate_open hcore
        exact (hopen he' hs).elim
      | timeoutOnClose msg =>
        obtain ⟨_, hcore, -⟩ := Result.bind_eq_ok.mp hv
        exact ⟨msg, rfl, hcore⟩
    | _ => cases hp
  | _ => cases hp

/-- A step is seen under the channel key of its input only. -/
theorem Effect.view_of_ne (h : Effect H i s s') (hk : i.localChannel s ≠ some key) :
    s'.view key = s.view key := by
  have hne {k : ChannelKey} (hi : i.localChannel s = some k) : key ≠ k := by
    rintro rfl
    exact hk hi
  cases h with
  | quiet hc hh | application hc hh => simp only [Ctx.view, hc, hh]
  | opens port e hn hc hh ha hi =>
    simp only [Ctx.view, hc, hh, view_openAt, if_neg (hne hi)]
  | moves k e e' he hm hc hh ha hi =>
    simp only [Ctx.view, hc, hh, view_storeChannel, if_neg (hne hi)]
  | sends p e cm hi hv hcm hc hh =>
    have hp : key ≠ p.chanOnA := hne (by rw [hi]; rfl)
    simp only [Ctx.view, hc, hh, ChannelStore.sent, view_append, view_storePacketCommitment,
      view_storeNextSequenceSend, Action.channel, if_neg hp]
  | receives p ack e m extras signer hp hv hord hunord hc hh hm ha hi =>
    have hp : key ≠ p.chanOnB := hne hi
    simp only [Ctx.view, hc, hh, view_append, Action.channel, hp, if_false]
    exact view_received_of_ne hp
  | acknowledges p ack e cm r m extras signer hp he hs hr hcm hv hc hh hm ha hi =>
    have hp : key ≠ p.chanOnA := hne hi
    simp only [Ctx.view, hc, hh, view_append, Action.channel, hp, if_false]
    split_ifs
    · exact view_acknowledged_of_ne hp
    · rfl
  | timesOut p e cm r m extras signer hp he hr hcm hv hc hh hm ha hi =>
    have hp : key ≠ p.chanOnA := hne hi
    simp only [Ctx.view, hc, hh, view_append, Action.channel, hp, if_false]
    split_ifs
    · exact view_timedOut_of_ne hp
    · rfl

/-- Under a closed end only a timeout on close of a packet in flight can change anything. -/
theorem Step.view_closed (iso : H.Isolated) (hs : Reachable H s) (h : Step H i s s')
    (he : s.store.channel.channels key = some e) (hclosed : e.state = .closed) :
    s'.view key = s.view key ∨ ∃ msg cm, timeoutOnCloseValidate H s msg = .ok () ∧
      s.store.channel.packetCommitment msg.packet.keyOnA = some cm := by
  have heff := h.effect iso
  by_cases hk : i.localChannel s = some key
  · -- A channel end under this key is the closed one.
    have hsame {k : ChannelKey} {e' : ChannelEnd} (hi : i.localChannel s = some k)
        (he' : s.store.channel.channels k = some e') : e'.state = .closed := by
      obtain rfl : k = key := Option.some_inj.mp (hi.symm.trans hk)
      rwa [← Option.some_inj.mp (he.symm.trans he')]
    cases heff with
    | quiet hc hh | application hc hh => exact .inl (by simp only [Ctx.view, hc, hh])
    | opens port e' hn hc hh ha hi =>
      rw [← Option.some_inj.mp (hi.symm.trans hk), (hs.numbered iso).next_absent port] at he
      cases he
    | moves k e₀ e₁ he₀ hm hc hh ha hi =>
      have hcl := hsame hi he₀
      cases hm with
      | ack hinit => cases hinit.symm.trans hcl
      | confirm htry => cases htry.symm.trans hcl
      | close hopen => exact absurd hcl hopen
    | sends p e' cm hi hv =>
      subst hi
      exact absurd (hsame rfl hv.channel) hv.notClosed
    | receives p ack e' m extras signer hp hv _ _ _ _ _ _ hi =>
      cases hv.state.symm.trans (hsame hi hv.channel)
    | acknowledges p ack e' cm r m extras signer hp he' hopen hr hcm hv hc hh hm ha hi =>
      cases hopen.symm.trans (hsame hi he')
    | timesOut p e' cm r m extras signer hp he' hr hcm hv hc hh hm ha hi =>
      obtain ⟨msg, rfl, hmsg⟩ := h.timeoutOnClose_of_closed hp hi he' (hsame hi he') hh
      exact .inr ⟨msg, cm, hmsg, hcm⟩
  · exact .inl (heff.view_of_ne hk)

/-- **A closed channel end is frozen.** Where a proof of a value is about one path, nothing that a
chain does after an end is closed changes what it keeps under that end: packets in flight stay in
flight. -/
theorem closed_end_frozen (iso : H.Isolated) (binds : H.lightClient.BindsPath) (hs : Reachable H s)
    (hrun : Run H s s') (he : s.store.channel.channels key = some e) (hclosed : e.state = .closed) :
    s'.view key = s.view key := by
  induction hrun with
  | refl => rfl
  | step i hr hstep ih =>
    have he' := (congrArg ChannelView.channel ih).trans he
    rcases hstep.view_closed iso (hs.run hr) he' hclosed with hview | ⟨msg, cm, hok, hcm⟩
    · exact hview.trans ih
    · obtain ⟨cs, pfx, root, path, path', value, value', hne, hv, hv'⟩ :=
        timeoutOnCloseValidate_verifies hok hcm
      exact absurd (binds _ _ _ _ _ _ _ _ hv hv') hne

end Closed

namespace ProofRun

/-- The first packet times out, which closes the ordered channel. -/
def closing : List (Input MockConsensusState Unit) :=
  sending .ordered ++ [.dispatch (.packet (.timeout (timeout MockRun.packet)))]

/-- Attempts to time out the second packet. -/
def retries : List (Input MockConsensusState Unit) :=
  [.dispatch (.packet (.timeout (timeout packet2))),
    .dispatch (.packet (.timeoutOnClose { timeoutOnClose with packet := packet2 }))]

end ProofRun

/-- After the timeout of the first packet the second one stays in flight. -/
theorem second_packet_in_flight : ∃ s s', Reachable (ProofRun.host ProofRun.factsUnreceived) s ∧
    runAll (ProofRun.host ProofRun.factsUnreceived) ProofRun.retries s = some s' ∧
    (s.store.channel.packetCommitment ProofRun.packet2.keyOnA).isSome ∧
    s'.view ProofRun.packet2.chanOnA = s.view ProofRun.packet2.chanOnA := by
  obtain ⟨s, hs, h⟩ := Reachable.exists_of_runAll (H := ProofRun.host ProofRun.factsUnreceived)
    (s := ProofRun.start) ProofRun.closing
    (fun s => ((s.store.channel.packetCommitment ProofRun.packet2.keyOnA).isSome,
      s.store.channel.channels ProofRun.packet2.chanOnA,
      (runAll (ProofRun.host ProofRun.factsUnreceived) ProofRun.retries s).isSome))
    rfl rfl (by decide +kernel :
      _ = some (true, some (ProofRun.channelEnd .closed .ordered), true))
  obtain ⟨s', hrun⟩ := Option.isSome_iff_exists.mp (congrArg (·.2.2) h)
  exact ⟨s, s', hs, hrun, congrArg Prod.fst h, closed_end_frozen (ProofRun.host_isolated _)
    LightClient.oneFact_withStore.bindsPath hs (.of_runAll hrun) (congrArg (·.2.1) h) rfl⟩

end Ibc
