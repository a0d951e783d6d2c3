import Ibc.Protocol.RoundTrip
import Ibc.Transfer.Books

/-!
# Two chains that transfer tokens

Each of two chains runs the transfer application, and has clients that know when the other was in
which state. Users send tokens on both, relayers carry messages, in any interleaving.

To the core a transfer is two inputs: the bank changes, and a packet is sent. So every run is one of
the core, up to events and logs, with states in between (`TransferWorld.exists_core`), and what is
known of packets holds for the packets of transfers. **`Tracked.settles`**: each packet that was
sent over a channel is received with success or refunded, at most once, and never both.
-/

namespace Ibc

open Settlement

variable {CS Cons μ CS' Cons' μ' : Type}

/-! ### Two chains that track each other -/

/-- Two chains, each of which knows when the other was in which state. -/
def tracked (HA : Host CS Cons μ) (HB : Host CS' Cons' μ') (okA : Input Cons μ → Prop)
    (okB : Input Cons' μ' → Prop) : Duo.System (Ctx CS Cons μ) (Ctx CS' Cons' μ') where
  startLeft a := a.Fresh ∧ a.env.hostTimestamp.time ≠ none
  startRight b := b.Fresh ∧ b.env.hostTimestamp.time ≠ none
  stepLeft seen a a' := Tracks HA seen a ∧ ∃ i, okA i ∧ i.Ticks a ∧ Step HA i a a'
  stepRight seen b b' := Tracks HB seen b ∧ ∃ i, okB i ∧ i.Ticks b ∧ Step HB i b b'

section Tracked

variable {HA : Host CS Cons μ} {HB : Host CS' Cons' μ'} {okA : Input Cons μ → Prop}
  {okB : Input Cons' μ' → Prop} {w : Duo (Ctx CS Cons μ) (Ctx CS' Cons' μ')}

theorem Tracked.swap (h : (tracked HA HB okA okB).Reachable w) :
    (tracked HB HA okB okA).Reachable w.swap := Duo.System.Reachable.swap h

theorem Tracked.relay (h : (tracked HA HB okA okB).Reachable w) :
    (relay HA HB okA okB).Reachable w := by
  refine h.mono (fun _ ha => ha.1) (fun _ hb => hb) ?_ ?_
  · rintro seen a a' ⟨htracks, i, hi, -, hs⟩
    exact ⟨htracks, i, hi, hs⟩
  · rintro seen b b' ⟨htracks, hstep⟩
    exact ⟨htracks.sound, hstep⟩

theorem Tracked.world (h : (tracked HA HB okA okB).Reachable w) :
    (world HA HB okA okB).Reachable w := Relay.world (Tracked.relay h)

end Tracked

/-! ### What is in a history -/

section History

variable {key : ChannelKey} {history : List Action} {p : Packet}

theorem mem_sentOn : p ∈ sentOn key history ↔ .sendPacket p ∈ history ∧ p.chanOnA = key := by
  rw [sentOn, List.mem_filterMap]
  constructor
  · rintro ⟨a, ha, hp⟩
    cases a <;> simp only [Action.sentOn, reduceCtorEq, Option.ite_none_right_eq_some] at hp
    obtain ⟨hkey, hsame⟩ := hp
    cases hsame
    exact ⟨ha, hkey⟩
  · rintro ⟨ha, hkey⟩
    exact ⟨_, ha, if_pos hkey⟩

theorem mem_acceptedOn : p ∈ acceptedOn key history ↔
    ∃ ack, .recvPacket p ack ∈ history ∧ p.chanOnB = key ∧ ack.isSuccess = true := by
  rw [acceptedOn, List.mem_filterMap]
  constructor
  · rintro ⟨a, ha, hp⟩
    cases a <;> simp only [Action.acceptedOn, reduceCtorEq, Option.ite_none_right_eq_some] at hp
    obtain ⟨⟨hkey, hack⟩, hsame⟩ := hp
    cases hsame
    exact ⟨_, ha, hkey, hack⟩
  · rintro ⟨ack, ha, hkey, hack⟩
    exact ⟨_, ha, if_pos ⟨hkey, hack⟩⟩

theorem mem_refundedOn : p ∈ refundedOn key history ↔ p.chanOnA = key ∧
    (.timeoutPacket p true ∈ history ∨
      ∃ ack, .acknowledgePacket p ack true ∈ history ∧ ack.isFailure = true) := by
  rw [refundedOn, List.mem_filterMap]
  constructor
  · rintro ⟨a, ha, hp⟩
    unfold Action.refundedOn at hp
    split at hp
    · obtain ⟨hkey, hsame⟩ := Option.ite_none_right_eq_some.mp hp
      cases hsame
      exact ⟨hkey, .inl ha⟩
    · obtain ⟨⟨hkey, hack⟩, hsame⟩ := Option.ite_none_right_eq_some.mp hp
      cases hsame
      exact ⟨hkey, .inr ⟨_, ha, hack⟩⟩
    · cases hp
  · rintro ⟨hkey, ha | ⟨ack, ha, hack⟩⟩
    · exact ⟨_, ha, if_pos hkey⟩
    · exact ⟨_, ha, if_pos ⟨hkey, hack⟩⟩

theorem count_acceptedOn_le : (acceptedOn key history).count p ≤
    (receivedOn key history).count p.seqOnA := by
  rw [acceptedOn, receivedOn, List.count_filterMap, List.count_filterMap, List.countP_filter]
  refine List.countP_mono_left fun a _ ha => ?_
  cases a <;> simp only [Action.acceptedOn, beq_iff_eq, reduceCtorEq,
    Option.ite_none_right_eq_some, Option.some.injEq] at ha
  obtain ⟨⟨hkey, -⟩, rfl⟩ := ha
  simp [Action.received, Action.channel, hkey]

theorem count_refundedOn_le : (refundedOn key history).count p ≤ resolutions p.keyOnA history := by
  rw [refundedOn, List.count_filterMap, resolutions]
  refine List.countP_mono_left fun a _ ha => ?_
  have hrefunded : a.refundedOn key = some p := by simpa using ha
  unfold Action.refundedOn at hrefunded
  split at hrefunded
  · obtain ⟨-, hsame⟩ := Option.ite_none_right_eq_some.mp hrefunded
    simp [Action.resolved, Option.some.inj hsame]
  · obtain ⟨-, hsame⟩ := Option.ite_none_right_eq_some.mp hrefunded
    simp [Action.resolved, Option.some.inj hsame]
  · cases hrefunded

end History

/-! ### Packets are settled once -/

section Settles

variable {HA : Host CS Cons μ} {HB : Host CS' Cons' μ'}
  {w : Duo (Ctx CS Cons μ) (Ctx CS' Cons' μ')} {p : Packet}

/-- What is received on an end was sent from the end that it names. -/
theorem Reachable.chanOnA_of_received {s : Ctx CS Cons μ} (iso : HA.Isolated) (h : Reachable HA s)
    {ack : Acknowledgement} (hp : .recvPacket p ack ∈ s.history) {e : ChannelEnd}
    (he : s.store.channel.channels p.chanOnB = some e) {k : ChannelKey}
    (hr : e.remote = ⟨k.1, some k.2⟩) : p.chanOnA = k := by
  obtain ⟨e', he', hr'⟩ := h.addressed iso hp
  obtain rfl : e = e' := Option.some.inj (he.symm.trans he')
  have hsource : p.source = ⟨k.1, some k.2⟩ := hr'.symm.trans hr
  exact Prod.ext (congrArg (·.portId) hsource)
    (Option.some.inj (congrArg (·.channelId) hsource))

/-- **A packet is settled once.** Each packet that was sent over a channel is received with success
or refunded, at most once, and never both; and no other packet is. -/
theorem Tracked.settles (isoA : HA.Isolated) (isoB : HB.Isolated)
    (hlib : HB.library.sha256 = HA.library.sha256) (inj : Function.Injective HA.library.sha256)
    (h : (tracked HA HB Input.TimeoutsDecoded Input.TimeoutsDecoded).Reachable w)
    {k k' : ChannelKey} {e' : ChannelEnd} (he' : w.right.store.channel.channels k' = some e')
    (hr' : e'.remote = ⟨k.1, some k.2⟩) :
    Settles (sentOn k w.left.history) (acceptedOn k' w.right.history)
      (refundedOn k w.left.history) := by
  have hworld := Tracked.world h
  have hleft := World.left_reachable hworld
  have hright := World.right_reachable hworld
  refine ⟨fun p hp => ?_, ?_, fun p hp => ?_, ?_, fun p hp hq => ?_⟩
  · obtain ⟨ack, hrecv, hkey, -⟩ := mem_acceptedOn.mp hp
    exact mem_sentOn.mpr ⟨World.received_sent isoA isoB hlib inj hworld hrecv,
      hright.chanOnA_of_received isoB hrecv (hkey ▸ he') hr'⟩
  · refine List.nodup_iff_count_le_one.mpr fun p => count_acceptedOn_le.trans ?_
    exact List.nodup_iff_count_le_one.mp (hright.receivedOn_nodup isoB he') _
  · obtain ⟨hkey, hout | ⟨ack, hack, -⟩⟩ := mem_refundedOn.mp hp
    · exact mem_sentOn.mpr ⟨(World.timedOut_sent isoA inj hworld hout).1, hkey⟩
    · exact mem_sentOn.mpr ⟨(World.acknowledged isoA isoB hlib inj hworld _ _ _ hack).1, hkey⟩
  · refine List.nodup_iff_count_le_one.mpr fun p => count_refundedOn_le.trans ?_
    exact hleft.resolutions_le_one isoA _
  · obtain ⟨ack, hrecv, hkey, hsuccess⟩ := mem_acceptedOn.mp hp
    obtain ⟨-, hout | ⟨ack', hack, hfailure⟩⟩ := mem_refundedOn.mp hq
    · exact Relay.received_not_timedOut isoA isoB inj (Tracked.relay h) hrecv hout
    · -- The answer that was taken is the one that was given.
      have hrecv' := (World.acknowledged isoA isoB hlib inj hworld _ _ _ hack).2
      cases hright.received_unique isoB hrecv hrecv' rfl
      rw [Acknowledgement.isFailure_eq_false hsuccess] at hfailure
      cases hfailure

end Settles

/-! ### The pasts of a chain with and without states in between -/

section Covers

variable {l l' : List (Ctx CS Cons μ)} {s s' b c : Ctx CS Cons μ} {h : Height}

/-- The second past is the first one, up to events and logs, with more states in the blocks. -/
structure Covers (l l' : List (Ctx CS Cons μ)) : Prop where
  begins : ∀ h b, BeginsBlock l h b → ∃ b', BeginsBlock l' h b' ∧ b'.silent = b.silent
  blocks : ∀ c' ∈ l', ∃ c ∈ l, c'.env = c.env

theorem BeginsBlock.cons (hb : BeginsBlock l h b) (c : Ctx CS Cons μ) :
    BeginsBlock (c :: l) h b := by
  obtain ⟨hh, after, before, rfl, hbefore⟩ := hb
  exact ⟨hh, c :: after, before, rfl, hbefore⟩

theorem BeginsBlock.of_cons (hb : BeginsBlock (c :: l) h b) :
    b = c ∧ c.env.hostHeight = h ∧ (∀ x ∈ l, x.env.hostHeight < h) ∨ BeginsBlock l h b := by
  obtain ⟨hh, after, before, hl, hbefore⟩ := hb
  cases after with
  | nil =>
    obtain ⟨rfl, rfl⟩ := List.cons.inj hl
    exact .inl ⟨rfl, hh, hbefore⟩
  | cons x after => exact .inr ⟨hh, after, before, (List.cons.inj hl).2, hbefore⟩

theorem Covers.nil : Covers ([] : List (Ctx CS Cons μ)) [] :=
  ⟨fun _ _ hb => absurd hb.mem List.not_mem_nil, fun _ hc => absurd hc List.not_mem_nil⟩

theorem Covers.cons (hc : Covers l l') (hs : s'.silent = s.silent) :
    Covers (s :: l) (s' :: l') := by
  have henv : s'.env = s.env := (Ctx.silent_eq_silent.mp hs).2.2.1
  constructor
  · intro h b hb
    rcases hb.of_cons with ⟨rfl, hh, hbefore⟩ | hb
    · refine ⟨s', ⟨henv ▸ hh, [], l', rfl, fun c' hc' => ?_⟩, hs⟩
      obtain ⟨c, hmem, hsame⟩ := hc.blocks c' hc'
      exact hsame ▸ hbefore c hmem
    · obtain ⟨b', hb', hsame⟩ := hc.begins h b hb
      exact ⟨b', hb'.cons s', hsame⟩
  · intro c' hc'
    rcases List.mem_cons.mp hc' with rfl | hc'
    · exact ⟨s, List.mem_cons_self, henv⟩
    · obtain ⟨c, hmem, hsame⟩ := hc.blocks c' hc'
      exact ⟨c, List.mem_cons_of_mem _ hmem, hsame⟩

/-- A state in between is of a block that has begun. -/
theorem Covers.insert (hc : Covers l l') (hs : ∃ c ∈ l, s'.env = c.env) : Covers l (s' :: l') := by
  constructor
  · intro h b hb
    obtain ⟨b', hb', hsame⟩ := hc.begins h b hb
    exact ⟨b', hb'.cons s', hsame⟩
  · intro c' hc'
    rcases List.mem_cons.mp hc' with rfl | hc'
    · exact hs
    · exact hc.blocks c' hc'

/-- What a client knows of the one past it knows of the other. -/
theorem Tracks.of_covers {H : Host CS' Cons' μ'} {a a' : Ctx CS' Cons' μ'} (ht : Tracks H l a)
    (hc : Covers l l') (ha : a'.store = a.store) : Tracks H l' a' := by
  intro id cs h cons hcs hcons
  rw [ha] at hcs hcons
  obtain ⟨b, hb, htime, hholds, hlacks⟩ := ht id cs h cons hcs hcons
  obtain ⟨b', hb', hsame⟩ := hc.begins h b hb
  obtain ⟨hstore, -, henv, -⟩ := Ctx.silent_eq_silent.mp hsame
  rw [← hstore] at hholds hlacks
  exact ⟨b', hb', htime.trans (congrArg _ henv.symm), hholds, hlacks⟩

end Covers

/-! ### Two chains that transfer tokens -/

variable {Account Account' : Type} [DecidableEq Account] [DecidableEq Account']

/-- A chain before its first input, with a clock and without vouchers. -/
structure TransferChain.Starts (C : TransferChain CS Cons Account μ) (s : Ctx CS Cons μ) :
    Prop where
  fresh : s.Fresh
  time : s.env.hostTimestamp.time ≠ none
  vouchers : ∀ d : PrefixedDenom, d.tracePath.prefixes ≠ [] → (C.ledger s.app).supply d = 0

/-- Two chains that transfer tokens, each of which knows when the other was in which state. -/
def transferWorld (A : TransferChain CS Cons Account μ) (B : TransferChain CS' Cons' Account' μ')
    (okA : Input Cons μ → Prop) (okB : Input Cons' μ' → Prop) :
    Duo.System (Ctx CS Cons μ) (Ctx CS' Cons' μ') where
  startLeft := A.Starts
  startRight := B.Starts
  stepLeft seen a a' := Tracks A.host seen a ∧ A.Step okA a a'
  stepRight seen b b' := Tracks B.host seen b ∧ B.Step okB b b'

namespace TransferWorld

/-- The two chains as the core sees them: the same up to events and logs, and with states in
between. -/
structure Refines (w v : Duo (Ctx CS Cons μ) (Ctx CS' Cons' μ')) : Prop where
  left : v.left.silent = w.left.silent
  right : v.right.silent = w.right.silent
  lefts : Covers w.lefts v.lefts
  rights : Covers w.rights v.rights

variable {A : TransferChain CS Cons Account μ} {B : TransferChain CS' Cons' Account' μ'}
  {okA : Input Cons μ → Prop} {okB : Input Cons' μ' → Prop}
  {w v : Duo (Ctx CS Cons μ) (Ctx CS' Cons' μ')} {a : Ctx CS Cons μ}

theorem Refines.swap (h : Refines w v) : Refines w.swap v.swap :=
  ⟨h.right, h.left, h.rights, h.lefts⟩

omit [DecidableEq Account] in
/-- The packet of a decoded message has timeouts that a decoder produces. -/
theorem transferPacket_timeoutsDecoded {T : TransferHost Account μ} {raw : RawMsgTransfer}
    {msg : MsgTransfer} {p : Packet} (hmsg : MsgTransfer.tryFrom T.isAlphanumeric raw = .ok msg)
    (hp : T.transferPacket a msg = .ok p) : p.TimeoutsDecoded := by
  simp only [TransferHost.transferPacket, Result.bind_eq_ok, Result.pure_eq_ok] at hp
  obtain ⟨_, -, _, -, _, -, rfl⟩ := hp
  simp only [MsgTransfer.tryFrom, Result.bind_eq_ok, Result.pure_eq_ok] at hmsg
  obtain ⟨_, hheight, _, -, _, -, _, -, _, -, _, -, rfl⟩ := hmsg
  exact ⟨TimeoutHeight.decoded_of_tryFromRaw (Result.mapError_eq_ok.mp hheight), _,
    raw.timeoutTimestamp.toNat_lt, rfl⟩

/-- A step of the core. -/
theorem Refines.step {HA : Host CS Cons μ} {HB : Host CS' Cons' μ'}
    (hv : (tracked HA HB okA okB).Reachable v) (h : Refines w v)
    (htracks : Tracks HA w.rights w.left) {i : Input Cons μ} (hi : okA i)
    (hticks : i.Ticks w.left) (hs : Step HA i w.left a) :
    ∃ v', (tracked HA HB okA okB).Reachable v' ∧ Refines (w.moveLeft a) v' := by
  obtain ⟨a', hs', hsame⟩ := hs.silent h.left.symm
  obtain ⟨hstore, -, henv, -⟩ := Ctx.silent_eq_silent.mp h.left
  have hticks' : i.Ticks v.left := fun env he => henv ▸ hticks env he
  refine ⟨v.moveLeft a', .left hv ⟨htracks.of_covers h.rights hstore, i, hi, hticks', hs'⟩, ?_⟩
  exact ⟨hsame.symm, h.right, h.lefts.cons hsame.symm, h.rights⟩

/-- A step of the application is one or two of the core. -/
theorem Refines.transfer {HB : Host CS' Cons' μ'}
    (hv : (tracked A.host HB Input.TimeoutsDecoded okB).Reachable v) (h : Refines w v)
    (htracks : Tracks A.host w.rights w.left) {raw : RawMsgTransfer} {msg : MsgTransfer}
    (hmsg : MsgTransfer.tryFrom A.app.isAlphanumeric raw = .ok msg) (hs : A.Sends msg w.left a) :
    ∃ v', (tracked A.host HB Input.TimeoutsDecoded okB).Reachable v' ∧
      Refines (w.moveLeft a) v' := by
  have hquiet (app : μ) : (Input.application app : Input Cons μ).TimeoutsDecoded := by
    rintro _ ⟨⟩
  have hticks (app : μ) (s : Ctx CS Cons μ) : (Input.application app).Ticks s := by rintro _ ⟨⟩
  have happ (app : μ) (s : Ctx CS Cons μ) :
      Step A.host (.application app) s { s with app := app } := ⟨.ok (), rfl, Result.returns_ok⟩
  cases hs with
  | keeps app hs _ =>
    subst hs
    exact h.step hv htracks (hquiet app) (hticks app _) (happ app _)
  | takes sender app p r t _ _ hp hsend hr hs =>
    -- The bank changes first, and then the packet is sent.
    obtain ⟨hstore, -, henv, hhistory⟩ := Ctx.silent_eq_silent.mp h.left
    have htracks' := htracks.of_covers h.rights hstore
    have hpacket : Step A.host (.sendPacket p) { w.left with app := app } t := ⟨r, hsend, hr⟩
    have hmiddle : ({ w.left with app := app } : Ctx CS Cons μ).silent =
        ({ v.left with app := app } : Ctx CS Cons μ).silent :=
      Ctx.silent_eq_silent.mpr ⟨hstore.symm, rfl, henv.symm, hhistory.symm⟩
    obtain ⟨t', hpacket', hsame⟩ := hpacket.silent hmiddle
    have hdecoded : (Input.sendPacket p : Input Cons μ).TimeoutsDecoded := by
      rintro q ⟨⟩
      exact transferPacket_timeoutsDecoded hmsg hp
    have hv₁ : (tracked A.host HB Input.TimeoutsDecoded okB).Reachable
        (v.moveLeft { v.left with app := app }) :=
      .left hv ⟨htracks', _, hquiet app, hticks app _, happ app _⟩
    refine ⟨_, .left hv₁ ⟨htracks', _, hdecoded, by rintro _ ⟨⟩, hpacket'⟩, ?_⟩
    refine ⟨hsame.symm.trans hs.symm, h.right, Covers.cons ?_ (hsame.symm.trans hs.symm), h.rights⟩
    exact h.lefts.insert ⟨w.left, w.left_mem_lefts, henv⟩

theorem Refines.stepLeft {HB : Host CS' Cons' μ'}
    (hv : (tracked A.host HB Input.TimeoutsDecoded okB).Reachable v) (h : Refines w v)
    (htracks : Tracks A.host w.rights w.left) (hs : A.Step Input.TimeoutsDecoded w.left a) :
    ∃ v', (tracked A.host HB Input.TimeoutsDecoded okB).Reachable v' ∧
      Refines (w.moveLeft a) v' := by
  cases hs with
  | core i hok _ _ hticks hs => exact h.step hv htracks hok hticks hs
  | transfer raw msg r hmsg _ hrun hr => exact h.transfer hv htracks hmsg (.of_run hrun hr)

/-- **Two chains that transfer tokens refine two chains of the core.** -/
theorem exists_core
    (h : (transferWorld A B Input.TimeoutsDecoded Input.TimeoutsDecoded).Reachable w) :
    ∃ v, (tracked A.host B.host Input.TimeoutsDecoded Input.TimeoutsDecoded).Reachable v ∧
      Refines w v := by
  induction h with
  | start ha hb =>
    exact ⟨_, .start ⟨ha.fresh, ha.time⟩ ⟨hb.fresh, hb.time⟩, rfl, rfl, Covers.nil.cons rfl,
      Covers.nil.cons rfl⟩
  | left _ hs ih =>
    obtain ⟨v, hv, href⟩ := ih
    exact href.stepLeft hv hs.1 hs.2
  | right _ hs ih =>
    obtain ⟨v, hv, href⟩ := ih
    obtain ⟨v', hv', href'⟩ := href.swap.stepLeft (Tracked.swap hv) hs.1 hs.2
    exact ⟨v'.swap, Tracked.swap hv', href'.swap⟩

end TransferWorld

end Ibc
