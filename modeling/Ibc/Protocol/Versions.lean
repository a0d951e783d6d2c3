import Ibc.Protocol.Agreement
import Mathlib.Data.String.Basic

/-!
# Negotiation of versions

In the handshake of a connection one chain proposes versions, the other picks one of them, and the
first checks what was picked. Picking goes through the supported versions: each is paired with the
first proposed version of its identifier, and goes on with the features that both have. Of what is
left, the version with the least identifier is picked.

* **`version_negotiation`**: what is picked, and that both sides support it.
* `picked_version_accepted`: in a world of two chains, the version of an end that waits for the
  other chain is one that the other chain will accept.
* **`channels_negotiated`**: a channel runs in an ordering that its connection's version has. The
  chain that opens the channel checks this against the first version it proposed; the other one
  checks it against the version that was picked.
-/

namespace Ibc

namespace ConnectionVersion

variable {supported counterparty : List ConnectionVersion} {v sv cv : ConnectionVersion}

/-- The first version of the list with the identifier of `sv` is `cv`, and they share a feature. -/
def Pairs (counterparty : List ConnectionVersion) (sv cv : ConnectionVersion) : Prop :=
  counterparty.find? (fun v => v.identifier = sv.identifier) = some cv ∧
    ∃ f ∈ sv.features, f ∈ cv.features

/-- The version in which a supported version goes on. -/
def common (counterparty : List ConnectionVersion) (sv : ConnectionVersion) :
    Option ConnectionVersion :=
  match sv.findSupported counterparty with
  | .ok cv =>
      match featureSetIntersection sv.features cv.features with
      | .ok features => some ⟨cv.identifier, features⟩
      | .error _ => none
  | .error _ => none

theorem intersection_eq :
    intersection supported counterparty = supported.filterMap (common counterparty) := rfl

theorem Pairs.identifier (h : Pairs counterparty sv cv) : cv.identifier = sv.identifier := by
  simpa using List.find?_some h.1

theorem featureSetIntersection_eq_ok {features features' common : List String} :
    featureSetIntersection features features' = .ok common ↔
      common = features.filter (· ∈ features') ∧ ∃ f ∈ features, f ∈ features' := by
  have hne : features.filter (features'.contains ·) ≠ [] ↔ ∃ f ∈ features, f ∈ features' := by
    simp [List.filter_eq_nil_iff]
  rw [featureSetIntersection, ← hne]
  simp only [List.contains_eq_mem]
  split_ifs with h
  · simp [h]
  · simp [h, eq_comm]

theorem common_eq_some : common counterparty sv = some v ↔
    ∃ cv, Pairs counterparty sv cv ∧
      v = ⟨sv.identifier, sv.features.filter (· ∈ cv.features)⟩ := by
  constructor
  · intro h
    simp only [common] at h
    split at h
    · next cv hcv =>
      split at h
      · next features hf =>
        obtain ⟨rfl, hshare⟩ := featureSetIntersection_eq_ok.mp hf
        have hpairs : Pairs counterparty sv cv := ⟨Result.okOr_eq_ok.mp hcv, hshare⟩
        rw [← hpairs.identifier]
        exact ⟨cv, hpairs, (Option.some.inj h).symm⟩
      · cases h
    · cases h
  · rintro ⟨cv, hpairs, rfl⟩
    have hcv : sv.findSupported counterparty = .ok cv := Result.okOr_eq_ok.mpr hpairs.1
    have hf := featureSetIntersection_eq_ok.mpr
      (⟨rfl, hpairs.2⟩ : sv.features.filter (· ∈ cv.features) = _ ∧ _)
    simp only [common, hcv, hf, hpairs.identifier]

/-- What `verifyIsSupported` accepts. -/
theorem verifyIsSupported_eq_ok : v.verifyIsSupported supported = .ok () ↔
    ∃ sv, supported.find? (fun sv => sv.identifier = v.identifier) = some sv ∧
      v.features ≠ [] ∧ ∀ f ∈ v.features, f ∈ sv.features := by
  have hforM (features : List String) (sv : ConnectionVersion) :
      features.forM sv.verifyFeatureSupported = .ok () ↔ ∀ f ∈ features, f ∈ sv.features := by
    induction features with
    | nil => simp
    | cons f features ih =>
      have hcons : (f :: features).forM sv.verifyFeatureSupported =
          (sv.verifyFeatureSupported f >>= fun _ => features.forM sv.verifyFeatureSupported) := rfl
      rw [hcons, Result.bind_eq_ok, List.forall_mem_cons, ← ih]
      simp [verifyFeatureSupported]
  simp only [verifyIsSupported, findSupported, Result.bind_eq_ok, Result.okOr_eq_ok,
    Result.ensure_eq_ok, hforM]
  constructor
  · rintro ⟨sv, hsv, -, hne, hall⟩
    exact ⟨sv, hsv, hne, hall⟩
  · rintro ⟨sv, hsv, hne, hall⟩
    exact ⟨sv, hsv, (), hne, hall⟩

/-! ### What is picked -/

/-- The version picked is the one in which the earliest supported version with the least identifier
goes on. -/
theorem pick_eq_ok (h : pick supported counterparty = .ok v) :
    (∀ sv ∈ supported, ∀ cv, Pairs counterparty sv cv → v.identifier ≤ sv.identifier) ∧
      ∃ before sv after cv, supported = before ++ sv :: after ∧
        Pairs counterparty sv cv ∧ v = ⟨sv.identifier, sv.features.filter (· ∈ cv.features)⟩ ∧
        ∀ x ∈ before, x.identifier = v.identifier → ∀ cv, ¬ Pairs counterparty x cv := by
  have hhead := Result.okOr_eq_ok.mp h
  obtain ⟨hleast, hfirst⟩ := List.head?_insertionSort (f := identifier) hhead
  rw [intersection_eq] at hleast hfirst
  constructor
  · intro sv hsv cv hpairs
    exact hleast ⟨sv.identifier, sv.features.filter (· ∈ cv.features)⟩
      (List.mem_filterMap.mpr ⟨sv, hsv, common_eq_some.mpr ⟨cv, hpairs, rfl⟩⟩)
  · rw [List.find?_filterMap] at hfirst
    obtain ⟨sv, hfind, hcommon⟩ := Option.bind_eq_some_iff.mp hfirst
    obtain ⟨-, before, after, hsplit, hbefore⟩ := List.find?_eq_some_iff_append.mp hfind
    obtain ⟨cv, hpairs, hv⟩ := common_eq_some.mp hcommon
    refine ⟨before, sv, after, cv, hsplit, hpairs, hv, fun x hx hid cv' hx' => ?_⟩
    have hskip := hbefore x hx
    rw [common_eq_some.mpr ⟨cv', hx', rfl⟩] at hskip
    simp [hid] at hskip

theorem exists_pick_eq_ok : (∃ v, pick supported counterparty = .ok v) ↔
    ∃ sv ∈ supported, ∃ cv, Pairs counterparty sv cv := by
  constructor
  · rintro ⟨v, hv⟩
    obtain ⟨-, before, sv, after, cv, rfl, hpairs, -⟩ := pick_eq_ok hv
    exact ⟨sv, by simp, cv, hpairs⟩
  · rintro ⟨sv, hsv, cv, hpairs⟩
    have hmem : ⟨sv.identifier, sv.features.filter (· ∈ cv.features)⟩ ∈
        (intersection supported counterparty).insertionSort
          (fun a b => a.identifier ≤ b.identifier) := by
      rw [List.mem_insertionSort, intersection_eq, List.mem_filterMap]
      exact ⟨sv, hsv, common_eq_some.mpr ⟨cv, hpairs, rfl⟩⟩
    cases hsorted : (intersection supported counterparty).insertionSort
        (fun a b => a.identifier ≤ b.identifier) with
    | nil => simp [hsorted] at hmem
    | cons w rest => exact ⟨w, by simp [pick, hsorted]⟩

/-- The other side supports the features it has in common. -/
theorem Pairs.verifyIsSupported (h : Pairs counterparty sv cv)
    (hv : v = ⟨sv.identifier, sv.features.filter (· ∈ cv.features)⟩) :
    v.features ≠ [] ∧ v.verifyIsSupported counterparty = .ok () := by
  obtain ⟨hfind, f, hf, hf'⟩ := h
  have hne : v.features ≠ [] := by
    rw [hv]
    exact List.ne_nil_of_mem (List.mem_filter.mpr ⟨hf, decide_eq_true hf'⟩)
  refine ⟨hne, verifyIsSupported_eq_ok.mpr ⟨cv, ?_, hne, ?_⟩⟩
  · rw [hv]
    exact hfind
  · intro g hg
    rw [hv] at hg
    exact of_decide_eq_true (List.mem_filter.mp hg).2

/-- A list in which no identifier occurs twice supports what is left of one of its versions. -/
theorem verifyIsSupported_of_nodup (hsv : sv ∈ supported)
    (hnodup : (supported.map (·.identifier)).Nodup) (hid : v.identifier = sv.identifier)
    (hne : v.features ≠ []) (hsub : ∀ f ∈ v.features, f ∈ sv.features) :
    v.verifyIsSupported supported = .ok () := by
  refine verifyIsSupported_eq_ok.mpr ⟨sv, ?_, hne, hsub⟩
  cases hfind : supported.find? fun x => x.identifier = v.identifier with
  | none => exact absurd hid.symm (by simpa using List.find?_eq_none.mp hfind sv hsv)
  | some x =>
    have hx : x.identifier = v.identifier := by simpa using List.find?_some hfind
    rw [List.inj_on_of_nodup_map hnodup (List.mem_of_find?_eq_some hfind) hsv (hx.trans hid)]

end ConnectionVersion

open ConnectionVersion

/-- **What is picked, and that it is supported.** A version is picked exactly when a supported one
shares a feature with its proposed namesake. Then it has the least identifier of those that do, and
the common features of the earliest supported version with that identifier; the other side supports
it, so the chain that proposed the versions accepts what is stored by the one that picked; and this
side supports it, if it does not list an identifier twice. -/
theorem version_negotiation (supported counterparty : List ConnectionVersion) :
    ((∃ v, pick supported counterparty = .ok v) ↔
      ∃ sv ∈ supported, ∃ cv, Pairs counterparty sv cv) ∧
    (∀ v, pick supported counterparty = .ok v →
      (∀ sv ∈ supported, ∀ cv, Pairs counterparty sv cv → v.identifier ≤ sv.identifier) ∧
      (∃ before sv after cv, supported = before ++ sv :: after ∧ Pairs counterparty sv cv ∧
        v.identifier = sv.identifier ∧ v.features = sv.features.filter (· ∈ cv.features) ∧
        ∀ x ∈ before, x.identifier = v.identifier → ∀ cv, ¬ Pairs counterparty x cv) ∧
      v.features ≠ [] ∧ v.verifyIsSupported counterparty = .ok () ∧
      ((supported.map (·.identifier)).Nodup → v.verifyIsSupported supported = .ok ())) ∧
    ∀ (CS Cons μ : Type) (H : Host CS Cons μ) (s : Ctx CS Cons μ) (msg : MsgConnectionOpenTry)
      (vars : ConnOpenTryVars), ConnOpenTryVars.new H s msg = .ok vars →
        ∃ v, vars.connEndOnB.versions = [v] ∧ pick H.getCompatibleVersions msg.versionsOnA = .ok v ∧
          v.verifyIsSupported msg.versionsOnA = .ok () := by
  refine ⟨exists_pick_eq_ok, fun v hv => ?_, ?_⟩
  · obtain ⟨hleast, before, sv, after, cv, hsplit, hpairs, rfl, hbefore⟩ := pick_eq_ok hv
    obtain ⟨hne, hsupported⟩ := hpairs.verifyIsSupported rfl
    refine ⟨hleast, ⟨before, sv, after, cv, hsplit, hpairs, rfl, rfl, hbefore⟩, hne, hsupported,
      fun hnodup => ?_⟩
    have hsv : sv ∈ supported := by simp [hsplit]
    exact verifyIsSupported_of_nodup hsv hnodup rfl hne fun f hf => (List.mem_filter.mp hf).1
  · intro CS Cons μ H s msg vars hvars
    simp only [ConnOpenTryVars.new, Result.bind_eq_ok, ConnectionEnd.new_eq_ok,
      Result.pure_eq_ok] at hvars
    obtain ⟨v, hv, _, ⟨rfl, -⟩, _, -, rfl⟩ := hvars
    obtain ⟨-, _, _, _, _, -, hpairs, hcommon, -⟩ := pick_eq_ok hv
    exact ⟨v, rfl, hv, (hpairs.verifyIsSupported hcommon).2⟩

variable {CS Cons μ CS' Cons' μ' : Type}

section World

variable {HA : Host CS Cons μ} {HB : Host CS' Cons' μ'} {okA : Input Cons μ → Prop}
  {okB : Input Cons' μ' → Prop} {w : Duo (Ctx CS Cons μ) (Ctx CS' Cons' μ')}

/-- A step that stores an end which answers another chain's picked its version from what that chain
was proved to propose. -/
theorem Step.picks_version {H : Host CS Cons μ} {s s' : Ctx CS Cons μ} {i : Input Cons μ}
    (iso : H.Isolated) (h : Step H i s s') {id other : ConnectionId} {e : ConnectionEnd}
    (he : s'.store.connection.connections id = some e) (htry : e.state = .tryOpen)
    (hother : e.counterparty.connectionId = some other) :
    s.store.connection.connections id = some e ∨
      ∃ (expected : ConnectionEnd) (v : ConnectionVersion),
        Attested H s.store e.clientId e.counterparty.pfx (.connection other)
          expected.toRaw.encode ∧ e.versions = [v] ∧
        v.verifyIsSupported expected.versions = .ok () := by
  refine h.connection_ends (P := fun id e => e.state = .tryOpen →
    e.counterparty.connectionId = some other → s.store.connection.connections id = some e ∨
      ∃ (expected : ConnectionEnd) (v : ConnectionVersion),
        Attested H s.store e.clientId e.counterparty.pfx (.connection other)
          expected.toRaw.encode ∧ e.versions = [v] ∧
        v.verifyIsSupported expected.versions = .ok ())
    iso (fun _ _ he _ _ => .inl he) ?_ id e he htry hother
  intro msg id e _ hst htry hother
  cases hst with
  | openInit | openAck | openConfirm => cases htry
  | openTry hid hv hver =>
    obtain rfl := Option.some.inj (hid.symm.trans hother)
    obtain ⟨-, _, _, _, _, -, hpairs, hcommon, -⟩ := pick_eq_ok hver
    exact .inr ⟨_, _, hv, rfl, (hpairs.verifyIsSupported hcommon).2⟩

/-- **The version of an end that waits for the other chain is one that the other chain accepts.** -/
theorem picked_version_accepted (isoA : HA.Isolated) (isoB : HB.Isolated)
    (h : (world HA HB okA okB).Reachable w) {id other : ConnectionId} {e e' : ConnectionEnd}
    (he' : w.right.store.connection.connections id = some e') (htry : e'.state = .tryOpen)
    (hother : e'.counterparty.connectionId = some other)
    (he : w.left.store.connection.connections other = some e) (hinit : e.state = .init) :
    ∃ v, e'.versions = [v] ∧ v.verifyIsSupported e.versions = .ok () := by
  have hproposed := (World.swap h).attested
    (C := fun b (x : ConnectionId × ConnectionEnd) =>
      b.store.connection.connections x.1 = some x.2 ∧ x.2.state = .tryOpen ∧
        x.2.counterparty.connectionId = some other)
    (F := fun a x => ∃ e v, a.store.connection.connections other = some e ∧ x.2.versions = [v] ∧
      (e.state = .init → v.verifyIsSupported e.versions = .ok ()))
    (x := (id, e')) ?_ ?_ ?_ w.swap.left_mem_lefts ⟨he', htry, hother⟩
  · obtain ⟨e₀, v, he₀, hv, haccepts⟩ := hproposed
    obtain rfl : e₀ = e := Option.some.inj (he₀.symm.trans he)
    exact ⟨v, hv, haccepts hinit⟩
  · rintro b x ⟨hst, -⟩ ⟨hc, -⟩
    rw [hst] at hc
    cases hc
  · rintro w b ⟨id, e'⟩ - ⟨hsound, i, -, hstep⟩ ⟨hc, htry, hother⟩
    obtain hc | ⟨expected, v, hv, hversions, haccepts⟩ :=
      hstep.picks_version isoB hc htry hother
    · exact .inl ⟨hc, htry, hother⟩
    obtain ⟨a, ha, hheld⟩ := hsound.attested hv
    obtain ⟨e₀, he₀, -, -, -, hsame, -⟩ := hheld.connection
    exact .inr ⟨a, ha, e₀, v, he₀, hversions, fun _ => hsame ▸ haccepts⟩
  · rintro w a x hw ⟨-, i, -, hstep⟩ ⟨e₀, v, he₀, hv, haccepts⟩
    obtain ⟨e₁, he₁, hf⟩ := hstep.connection_forward isoA (World.right_reachable hw) he₀
    refine ⟨e₁, v, he₁, hv, fun hinit => ?_⟩
    rcases hf.state with heq | hforward
    · rw [heq] at hinit ⊢
      exact haccepts hinit
    · rw [hinit] at hforward
      generalize e₀.state = before at hforward
      cases hforward

end World

/-! ### The ordering of a channel -/

/-- The connection is open, and its one version has the ordering among its features. -/
def Carries (st : Store CS Cons) (id : ConnectionId) (ordering : Order) : Prop :=
  ∃ conn v, st.connection.connections id = some conn ∧ conn.state = .open ∧ conn.versions = [v] ∧
    ordering.asStr ∈ v.features

/-- The ordering of the channel end is one that its connection carries. -/
def ChannelEnd.Negotiated (st : Store CS Cons) (e : ChannelEnd) : Prop :=
  ∃ connId, e.connectionHops = [connId] ∧ Carries st connId e.ordering

section OneChain

variable {H : Host CS Cons μ} {s s' : Ctx CS Cons μ} {i : Input Cons μ} {e : ChannelEnd}

theorem Carries.run (iso : H.Isolated) (hr : Reachable H s) (hrun : Run H s s')
    {id : ConnectionId} {ordering : Order} (h : Carries s.store id ordering) :
    Carries s'.store id ordering := by
  obtain ⟨conn, v, hconn, hopen, hv⟩ := h
  exact ⟨conn, v, hrun.connection_open iso hr hconn hopen, hopen, hv⟩

theorem ChannelEnd.Negotiated.run (iso : H.Isolated) (hr : Reachable H s) (hrun : Run H s s')
    (h : e.Negotiated s.store) : e.Negotiated s'.store := by
  obtain ⟨connId, hhops, hcarries⟩ := h
  exact ⟨connId, hhops, hcarries.run iso hr hrun⟩

/-- An end that answers another chain's was checked against the version of its connection. -/
theorem ChannelMsg.Stores.negotiated (iso : H.Isolated) (hr : Reachable H s) {msg : ChannelMsg}
    {key : ChannelKey} (h : msg.Stores H s key e) (htry : e.state = .tryOpen) :
    e.Negotiated s.store := by
  cases h with
  | openInit | openAck | openConfirm | closeInit | closeConfirm => cases htry
  | openTry hhops hroute _ _ hfeature =>
    obtain ⟨v, hhead, hf⟩ := hfeature
    have hconn := hroute.under
    rw [hhops] at hconn
    obtain ⟨v', hv'⟩ := List.length_eq_one_iff.mp
      (hr.connection_version iso _ _ hconn (by simp [hroute.isOpen]))
    rw [hv'] at hhead
    cases hhead
    exact ⟨_, hhops, _, v, hconn, hroute.isOpen, hv', hf⟩

theorem Reachable.tryOpen_negotiated (iso : H.Isolated) (h : Reachable H s) :
    ∀ key e, s.store.channel.channels key = some e → e.state = .tryOpen →
      e.Negotiated s.store := by
  induction h with
  | init s hst =>
    rw [hst]
    exact nofun
  | @step s s' i hr hs ih =>
    intro key e he htry
    have hbefore : e.state = .tryOpen → e.Negotiated s.store :=
      hs.channel_ends (P := fun _ e => e.state = .tryOpen → e.Negotiated s.store) iso ih
        (fun msg key e _ hst => hst.negotiated iso hr) (fun _ _ _ => nofun) key e he
    exact (hbefore htry).run iso hr (Run.refl.step i hs)

/-- What an end rests on that a step opens: it answered the other chain itself, or it was proved
that an end of the other chain answers it. -/
theorem Step.opens_negotiated (iso : H.Isolated) (hr : Reachable H s) (h : Step H i s s')
    {key : ChannelKey} (he : s'.store.channel.channels key = some e) (hopen : e.state = .open) :
    s.store.channel.channels key = some e ∨ e.Negotiated s.store ∨
      ∃ conn other port chan remote, Route s.store e.connectionHops conn other ∧
        Attested H s.store conn.clientId conn.counterparty.pfx (.channelEnd port chan)
          (ChannelEnd.mk .tryOpen e.ordering remote [other] e.version).toRaw.encode := by
  refine h.channel_ends (P := fun key e => e.state = .open →
    s.store.channel.channels key = some e ∨ e.Negotiated s.store ∨
      ∃ conn other port chan remote, Route s.store e.connectionHops conn other ∧
        Attested H s.store conn.clientId conn.counterparty.pfx (.channelEnd port chan)
          (ChannelEnd.mk .tryOpen e.ordering remote [other] e.version).toRaw.encode)
    iso (fun _ _ he _ => .inl he) ?_ (fun _ _ _ => nofun) key e he hopen
  intro msg key e _ hst hopen
  cases hst with
  | openInit | openTry | closeInit | closeConfirm => cases hopen
  | openAck _ _ hroute hv => exact .inr (.inr ⟨_, _, _, _, _, hroute, hv⟩)
  | openConfirm he htry =>
    have hnegotiated := hr.tryOpen_negotiated iso _ _ he htry
    exact .inr (.inl hnegotiated)

end OneChain

section World

variable {HA : Host CS Cons μ} {HB : Host CS' Cons' μ'} {okA : Input Cons μ → Prop}
  {okB : Input Cons' μ' → Prop} {w : Duo (Ctx CS Cons μ) (Ctx CS' Cons' μ')}

/-- If an open end was not checked on its own chain, the connection at the other end carries its
ordering. -/
theorem carried_elsewhere (isoA : HA.Isolated) (isoB : HB.Isolated)
    (h : (world HA HB okA okB).Reachable w) {key : ChannelKey} {e : ChannelEnd}
    {conn : ConnectionEnd} {other : ConnectionId}
    (he : w.left.store.channel.channels key = some e) (hopen : e.state = .open)
    (hroute : Route w.left.store e.connectionHops conn other)
    (hnot : ¬ e.Negotiated w.left.store) : Carries w.right.store other e.ordering := by
  refine h.attested
    (C := fun a (x : ChannelKey × ChannelEnd × ConnectionId) =>
      a.store.channel.channels x.1 = some x.2.1 ∧ x.2.1.state = .open ∧
        (∃ conn, Route a.store x.2.1.connectionHops conn x.2.2) ∧ ¬ x.2.1.Negotiated a.store)
    (F := fun b x => Carries b.store x.2.2 x.2.1.ordering)
    (x := (key, e, other)) ?_ ?_ ?_ w.left_mem_lefts ⟨he, hopen, ⟨conn, hroute⟩, hnot⟩
  · rintro a x ⟨hst, -⟩ ⟨hc, -⟩
    rw [hst] at hc
    cases hc
  · rintro w a ⟨key, e, other⟩ hw ⟨hsound, i, -, hstep⟩ ⟨he, hopen, ⟨conn, hroute⟩, hnot⟩
    have hr := World.left_reachable hw
    have hrun := Run.refl.step i hstep
    obtain he | hnegotiated | ⟨conn', other', _, _, _, hroute', hv⟩ :=
      hstep.opens_negotiated isoA hr he hopen
    · obtain ⟨conn', other', hroute'⟩ := hr.channel_route isoA key e he hopen
      obtain ⟨rfl, rfl⟩ := hroute.unique (hroute'.run isoA hr hrun)
      exact .inl ⟨he, hopen, ⟨conn, hroute'⟩, fun hn => hnot (hn.run isoA hr hrun)⟩
    · exact absurd (hnegotiated.run isoA hr hrun) hnot
    · obtain ⟨rfl, rfl⟩ := hroute.unique (hroute'.run isoA hr hrun)
      obtain ⟨b, hb, hheld⟩ := hsound.attested hv
      -- The other chain checked the ordering when it stored the end.
      have hrb := World.lefts_reachable (World.swap hw) b hb
      obtain ⟨connId, hhops, hcarries⟩ := hrb.tryOpen_negotiated isoB _ _ hheld.channelEnd rfl
      cases hhops
      exact .inr ⟨b, hb, hcarries⟩
  · rintro w b x hw ⟨-, i, -, hstep⟩ hcarries
    exact hcarries.run isoB (World.right_reachable hw) (Run.refl.step i hstep)

/-- Every channel end of a chain that is past its first step runs in a negotiated ordering. -/
def ChannelsNegotiated (s : Ctx CS Cons μ) : Prop :=
  ∀ key e, s.store.channel.channels key = some e → e.state = .tryOpen ∨ e.state = .open →
    e.Negotiated s.store ∧ e.ordering ≠ .none

theorem channels_negotiated_left (isoA : HA.Isolated) (isoB : HB.Isolated)
    (h : (world HA HB okA okB).Reachable w) : ChannelsNegotiated w.left := by
  intro key e he hstate
  have hr := World.left_reachable h
  refine ⟨?_, (hr.channelEnd_wf isoA he).ordering⟩
  rcases hstate with htry | hopen
  · exact hr.tryOpen_negotiated isoA key e he htry
  · by_contra hnot
    obtain ⟨conn, other, hroute⟩ := hr.channel_route isoA key e he hopen
    obtain ⟨conn', v, hconn', -, hv, hf⟩ := carried_elsewhere isoA isoB h he hopen hroute hnot
    obtain ⟨connId, _, hhops, -⟩ := hr.channel_hop isoA key e he
    have hconn := hroute.under
    rw [hhops] at hconn
    -- The two ends of the connection have the same version.
    obtain ⟨other', e', hother, he', hmatches⟩ :=
      connection_matched isoA isoB h hconn hroute.isOpen
    obtain rfl : other = other' := Option.some.inj (hroute.other.symm.trans hother)
    obtain rfl : e' = conn' := Option.some.inj (he'.symm.trans hconn')
    exact hnot ⟨connId, hhops, conn, v, hconn, hroute.isOpen, hmatches.versions.symm.trans hv, hf⟩

/-- **Channels only run in negotiated orderings**, on both chains: an end that is past its first
step has an ordering that is a feature of the one version of its connection. -/
theorem channels_negotiated (isoA : HA.Isolated) (isoB : HB.Isolated)
    (h : (world HA HB okA okB).Reachable w) :
    ChannelsNegotiated w.left ∧ ChannelsNegotiated w.right :=
  ⟨channels_negotiated_left isoA isoB h, channels_negotiated_left isoB isoA (World.swap h)⟩

end World

/-- The sample world with an open channel: its ordering is one that was negotiated. -/
theorem opened_channel_negotiated :
    ∃ w, (WorldRun.mockWorld (WorldRun.factsA 0 .ordered []) (WorldRun.factsB 0 .ordered [])
        (fun _ => True) fun _ => True).Reachable w ∧
      ∃ e, w.left.store.channel.channels (.transfer, MockRun.channelId) = some e ∧
        e.state = .open ∧ e.Negotiated w.left.store := by
  obtain ⟨w, hw, he⟩ := WorldRun.exists_mockWorld (WorldRun.factsA 0 .ordered [])
    (WorldRun.factsB 0 .ordered []) (fun _ => True) (fun _ => True) (WorldRun.opening .ordered)
    (fun w => w.left.store.channel.channels (.transfer, MockRun.channelId))
    (by decide +kernel : _ = some (
      some (WorldRun.chanEnd .open (some MockRun.channelId) .ordered)))
  obtain ⟨hleft, -⟩ :=
    channels_negotiated (ProofRun.host_isolated _) (ProofRun.host_isolated _) hw
  exact ⟨w, hw, _, he, rfl, (hleft _ _ he (.inr rfl)).1⟩

end Ibc
