import Ibc.Model.SelfClient
import Ibc.Protocol.Agreement
import Ibc.Protocol.Closed
import Ibc.Tendermint.Storage
import Ibc.Tendermint.World

/-!
# Connected chains have clients of each other

The steps of the connection handshake that take proofs check two facts more than that the other end
exists: that the other chain keeps a client of this chain, and that this client has one of this
chain's own consensus states. Here are two Tendermint chains in any interleaving, each with clients
that show what the other's store holds, clients included (`Reflects`).

* **`connected_clients_mutual`**: over an open connection each chain keeps a client of the other:
  with its chain id, its proof specs and its unbonding period, and with parameters that pass
  validation. And each such client has had a consensus state of the chain it is of.

An upgrade may change the chain id of a client, so the chains here are in one revision.
-/

namespace Ibc

open Proto

/-! ### What the encodings determine -/

theorem Any.encode_inj {a b : Any} (h : a.encode = b.encode) : a = b := by
  have hfields := congrArg (· ++ []) h
  simp only [Any.encode, List.append_assoc] at hfields
  have hav (v : Bytes) : Avoids 0x0a (bytesField 0x12 v ++ []) :=
    .bytesField (by decide) (avoids_nil _)
  obtain ⟨hurl, hrest⟩ := bytesField_append_inj (hav _) (hav _) hfields
  obtain ⟨hvalue, -⟩ := bytesField_append_inj (avoids_nil _) (avoids_nil _) hrest
  cases a
  cases b
  simp only [Any.mk.injEq]
  exact ⟨utf8_inj hurl, hvalue⟩

/-- Seconds and nanoseconds give the time back: no time of the years 1 to 9999 has as many seconds
as another, modulo 2⁶⁴. -/
theorem Time.encode_inj {s t : Time} (h : s.encode = t.encode) : s = t := by
  have hav (n : ℕ) : Avoids 0x08 (varintField 0x10 n ++ []) :=
    .varintField (by decide) (avoids_nil _)
  have hfields := congrArg (· ++ []) h
  simp only [Time.encode, List.append_assoc] at hfields
  obtain ⟨hsecs, hrest⟩ := varintField_append_inj (hav _) (hav _) hfields
  obtain ⟨hnanos, -⟩ := varintField_append_inj (avoids_nil _) (avoids_nil _) hrest
  obtain ⟨a, ha⟩ := s
  obtain ⟨b, hb⟩ := t
  simp only [Time.mk.injEq]
  simp only [UInt64.size] at hsecs hnanos
  omega

theorem TmConsensusState.encodeVec_inj {c d : TmConsensusState} (h : c.encodeVec = d.encodeVec) :
    c = d := by
  have henc : c.encode = d.encode := congrArg Any.value (Any.encode_inj h)
  simp only [TmConsensusState.encode, List.append_assoc] at henc
  obtain ⟨htime, hrest⟩ := messageField_append_inj henc
  obtain ⟨hroot, hrest⟩ := messageField_append_inj hrest
  have hnext := bytesField_append_inj (avoids_nil _) (avoids_nil _) (congrArg (· ++ []) hrest)
  have hbytes := bytesField_append_inj (avoids_nil _) (avoids_nil _) (congrArg (· ++ []) hroot)
  obtain ⟨_, ⟨_⟩, _⟩ := c
  obtain ⟨_, ⟨_⟩, _⟩ := d
  simp only [TmConsensusState.mk.injEq, CommitmentRoot.mk.injEq]
  exact ⟨Time.encode_inj htime, hbytes.1, hnext.1⟩

/-! ### Clients of a chain -/

namespace TmClientState

variable {lib : TmLibrary} {host : TmSelf} {cs cs' : TmClientState}

/-- A client of the chain: what it asks of headers and proofs is what the chain has. -/
structure IsOf (lib : TmLibrary) (host : TmSelf) (cs : TmClientState) : Prop extends
    cs.Valid lib where
  chainId : cs.chainId = host.chainId
  specs : cs.proofSpecs = host.proofSpecs
  unbonding : cs.unbondingPeriod = host.unbondingPeriod
  path : cs.upgradePath = [] ∨ cs.upgradePath = host.upgradePath

/-- What is accepted as the chain's own client decodes to a client of the chain, which is not frozen
and at a height that the chain has passed. -/
theorem isOf_of_validateSelf {height : Height} {any : Any}
    (h : validateSelfTendermintClient lib host height any = .ok ()) :
    ∃ cs, lib.clientStateOf any = .ok cs ∧ cs.IsOf lib host ∧ cs.frozenHeight = none ∧
      cs.latestHeight < height := by
  simp only [validateSelfTendermintClient, Result.bind_eq_ok, Result.ofExcept_eq_ok,
    Result.mapErr_eq_ok, Result.require_eq_ok] at h
  obtain ⟨cs, hcs, _, hvalid, _, -, _, hchain, _, -, _, hheight, _, hspecs, _, -, _, hperiod,
    _, -, hpath⟩ := h
  refine ⟨cs, hcs, ⟨validate_eq_ok.mp hvalid, hchain.symm, hspecs.symm, hperiod.symm, ?_⟩,
    lib.frozenHeight_of_clientStateOf hcs, not_le.mp hheight⟩
  by_cases hnil : cs.upgradePath = []
  · exact .inl hnil
  · exact .inr (not_not.mp fun hne => hpath ⟨hnil, Ne.symm hne⟩)

/-- What becomes of a client state without an upgrade. -/
inductive Grows (lib : TmLibrary) (cs : TmClientState) : TmClientState → Prop where
  | same : Grows lib cs cs
  | header {header : TmHeader} {height : Height} (hheight : header.HasHeight lib height)
      (hrev : height.revisionNumber = cs.chainId.revisionNumber) :
      Grows lib cs (cs.withHeader height)
  | frozen : Grows lib cs (cs.withFrozenHeight (Height.min 0))

/-- A client stays one of the chain. -/
theorem Grows.isOf (h : Grows lib cs cs') (hof : cs.IsOf lib host) : cs'.IsOf lib host := by
  cases h with
  | same => exact hof
  | header _ hrev =>
    exact ⟨(Becomes.header hrev).valid hof.toValid, hof.chainId, hof.specs, hof.unbonding, hof.path⟩
  | frozen =>
    exact ⟨Becomes.frozen.valid hof.toValid, hof.chainId, hof.specs, hof.unbonding, hof.path⟩

theorem Grows.derived (h : Grows lib cs cs') (hd : Derived lib cs) : Derived lib cs' := by
  cases h with
  | same => exact hd
  | header hheight _ => exact hd.withHeader hheight
  | frozen => exact hd.withFrozenHeight (by decide)

end TmClientState

section Change

variable {lib : TmLibrary} {c c' : TmClientState.Records} {msg : ClientMsg}

def ClientMsg.isUpgrade : ClientMsg → Bool
  | .upgradeClient _ => true
  | _ => false

/-- A client stays and grows, and a client state that is stored is new or has grown from one. -/
structure ClientGrows (lib : TmLibrary) (c c' : TmClientState.Records) (id : ClientId) : Prop where
  kept : ∀ cs, c.clientState id = some cs →
    ∃ cs', c'.clientState id = some cs' ∧ cs.Grows lib cs'
  origin : ∀ cs', c'.clientState id = some cs' → (∃ any, lib.clientStateOf any = .ok cs') ∨
    ∃ cs, c.clientState id = some cs ∧ cs.Grows lib cs'

theorem ClientGrows.of_eq {id : ClientId} (h : c'.clientState id = c.clientState id) :
    ClientGrows lib c c' id :=
  ⟨fun cs hcs => ⟨cs, h.trans hcs, .same⟩, fun cs hcs => .inr ⟨cs, h ▸ hcs, .same⟩⟩

theorem ClientGrows.of_some {id : ClientId} {cs cs' : TmClientState}
    (h : c.clientState id = some cs) (h' : c'.clientState id = some cs') (hg : cs.Grows lib cs') :
    ClientGrows lib c c' id := by
  refine ⟨fun cs₁ hcs => ?_, fun cs₁ hcs => ?_⟩
  · cases h.symm.trans hcs
    exact ⟨cs', h', hg⟩
  · cases h'.symm.trans hcs
    exact .inr ⟨cs, h, hg⟩

theorem TmChange.grows (h : TmChange lib c msg c') (hmsg : msg.isUpgrade = false) (id : ClientId) :
    ClientGrows lib c c' id := by
  cases h with
  | @created m new cs cons hnew hcs =>
    by_cases hid : id = new
    · subst hid
      refine ⟨fun cs' h => ?_, fun cs' h => ?_⟩
      · cases hnew.symm.trans h
      · obtain rfl : cs = cs' := by simpa using h
        exact .inl ⟨_, hcs⟩
    · exact .of_eq (by simp [hid])
  | @header m cs header height flagged _ hup =>
    by_cases hid : id = m.clientId
    · subst hid
      rw [hup.records]
      unfold TmClientState.takeHeader
      split_ifs
      · exact .of_some hup.stored (by simp) .frozen
      · exact .of_eq rfl
      · exact .of_some hup.stored (by simp) (.header hup.hasHeight hup.revision)
    · rw [hup.records]
      unfold TmClientState.takeHeader
      split_ifs <;> exact .of_eq (by simp [hid])
  | @frozen m cs hcs =>
    by_cases hid : id = m.clientId
    · subst hid
      exact .of_some hcs (by simp) .frozen
    · exact .of_eq (by simp [hid])
  | upgraded => cases hmsg

end Change

/-! ### Two Tendermint chains -/

section Chain

variable {μ : Type} {lib : TmLibrary} {host : TmSelf} {H : TmHost μ}
  {s s' : TmCtx μ} {i : Input TmConsensusState μ}

/-- The input is no upgrade, and a new block checks the chain's own clients as the one before. -/
structure Input.Continues (lib : TmLibrary) (host : TmSelf) (i : Input TmConsensusState μ) :
    Prop where
  noUpgrade : ∀ msg, i = .dispatch (.client msg) → msg.isUpgrade = false
  block : ∀ env, i = .newBlock env → env.ChecksSelf lib host

theorem Step.grows (iso : H.Isolated) (tm : H.Tendermint lib) (hi : i.Continues lib host)
    (h : Step H i s s') (id : ClientId) :
    ClientGrows lib s.store.client.clients s'.store.client.clients id := by
  obtain heq | ⟨msg, rfl, -, hchange⟩ := h.tmChange iso tm
  · exact .of_eq (by rw [heq])
  · exact hchange.grows (hi.noUpgrade msg rfl) id

/-- The step has checked that the client `other` of the other chain, shown under the prefix `pfx`
through the client `id`, is one of this chain. -/
structure ShownSelf {CS Cons : Type} (H : Host CS Cons μ) (s : Ctx CS Cons μ) (id : ClientId)
    (pfx : CommitmentPrefix) (other : ClientId) (cs : CS) (cons : Cons) (any : Any) (h : Height)
    (own : Cons) : Prop where
  client : s.store.client.clients.clientState id = some cs
  consensus : ∃ height, s.store.client.clients.consensusState id height = some cons
  checked : s.env.validateSelfClient any = .ok ()
  reached : h ≤ s.env.hostHeight
  hosts : s.env.hostConsensusState h = .ok own
  showsClient : H.lightClient.Accepts cs cons pfx (.clientState other) (some any.encode)
  showsConsensus : H.lightClient.Accepts cs cons pfx (.clientConsensusState other h)
    (some (H.lightClient.encodeVec own))

end Chain

section Handshake

variable {CS Cons μ : Type} {H : Host CS Cons μ} {s s' : Ctx CS Cons μ} {i : Input Cons μ}

theorem connOpenTryValidate_showsSelf {msg : MsgConnectionOpenTry}
    (hv : connOpenTryValidate H s msg = .ok ()) : ∃ cs cons any h own,
      ShownSelf H s msg.clientIdOnB msg.counterparty.pfx msg.counterparty.clientId cs cons any h
        own := by
  obtain ⟨_, ⟨cs, cons⟩, hv⟩ := connOpenTryValidate_eq_ok.mp hv
  obtain ⟨own, hown, hshown⟩ := hv.consensusState
  exact ⟨cs, cons, _, _, own, hv.usable.active.client, ⟨_, hv.usable.consensus⟩, hv.selfClient,
    hv.reached, hown, ⟨_, hv.clientState⟩, _, hshown⟩

theorem connOpenAckValidate_showsSelf {msg : MsgConnectionOpenAck}
    (hv : connOpenAckValidate H s msg = .ok ()) :
    ∃ e, s.store.connection.connections msg.connIdOnA = some e ∧ ∃ cs cons any h own,
      ShownSelf H s e.clientId e.counterparty.pfx e.counterparty.clientId cs cons any h own := by
  obtain ⟨e, ⟨cs, cons⟩, hv⟩ := connOpenAckValidate_eq_ok.mp hv
  obtain ⟨own, hown, hshown⟩ := hv.consensusState
  exact ⟨e, hv.connection, cs, cons, _, _, own, hv.usable.active.client, ⟨_, hv.usable.consensus⟩,
    hv.selfClient, hv.reached, hown, ⟨_, hv.clientState⟩, _, hshown⟩

/-- The ends past `init` rest on such a check: a step that stores one has made it, or has found the
end past `init` already. -/
theorem Step.shows_self (iso : H.Isolated) (h : Step H i s s') {id : ConnectionId}
    {e : ConnectionEnd} (he : s'.store.connection.connections id = some e)
    (hne : e.state ≠ .init) :
    (∃ e₀, s.store.connection.connections id = some e₀ ∧ e₀.state ≠ .init ∧
      e₀.counterparty.clientId = e.counterparty.clientId) ∨
    ∃ cs cons any h own, ShownSelf H s e.clientId e.counterparty.pfx e.counterparty.clientId cs cons
      any h own := by
  obtain heq | ⟨msg, id', e', rfl, hst, hc, -⟩ := h.connections iso
  · exact .inl ⟨e, heq ▸ he, hne, rfl⟩
  obtain rfl | hvalid := h.validated
  · exact .inl ⟨e, he, hne, rfl⟩
  rw [hc, Function.update_apply] at he
  split_ifs at he with hid
  case neg => exact .inl ⟨e, he, hne, rfl⟩
  subst hid
  cases he
  cases hst with
  | openInit => exact absurd rfl hne
  | openTry => exact .inr (connOpenTryValidate_showsSelf hvalid)
  | openAck he₀ =>
    obtain ⟨e₁, he₁, hshown⟩ := connOpenAckValidate_showsSelf hvalid
    cases he₁.symm.trans he₀
    exact .inr hshown
  | openConfirm he₀ hs => exact .inl ⟨_, he₀, by simp [hs], rfl⟩

end Handshake

section World

variable {μ μ' : Type} {lib : TmLibrary} {hostA hostB : TmSelf}
  {HA : TmHost μ} {HB : TmHost μ'}
  {w : Duo (TmCtx μ) (TmCtx μ')}

/-- The store holds the client or consensus state of which the value is the wire form. -/
def Store.HoldsClient (lib : TmLibrary) (st : Store TmClientState TmConsensusState) :
    Path → Bytes → Prop
  | .clientState id, value => ∃ cs, st.client.clients.clientState id = some cs ∧
      value = cs.toAny.encode ∧ lib.decodeClientState cs.toRaw.encode = .ok cs.toRaw
  | .clientConsensusState id h, value => ∃ cons,
      st.client.clients.consensusState id h = some cons ∧ value = cons.encodeVec
  | _, _ => True

/-- Each stored consensus state is of a state that the other chain was in: what is accepted against
it is held there. -/
def Reflects (lib : TmLibrary) (H : TmHost μ)
    (seen : List (TmCtx μ'))
    (s : TmCtx μ) : Prop :=
  ∀ id cs h cons, s.store.client.clients.clientState id = some cs →
    s.store.client.clients.consensusState id h = some cons →
    ∃ b ∈ seen, ∀ pfx path value, H.lightClient.Accepts cs cons pfx path (some value) →
      b.store.Holds path value ∧ b.store.HoldsClient lib path value

theorem Reflects.sound {seen : List (TmCtx μ')}
    {s : TmCtx μ} (h : Reflects lib HA seen s) : Sound HA seen s := by
  intro id cs height cons pfx path value hcs hcons hacc
  obtain ⟨b, hb, hholds⟩ := h id cs height cons hcs hcons
  exact ⟨b, hb, (hholds pfx path value hacc).1⟩

/-- A chain and its steps, given the states that the other chain was in. -/
def Input.Proceeds (lib : TmLibrary) (host : TmSelf) (H : TmHost μ)
    (seen : List (TmCtx μ'))
    (s s' : TmCtx μ) : Prop :=
  Reflects lib H seen s ∧ ∃ i : Input TmConsensusState μ, i.Continues lib host ∧ Step H i s s'

/-- Two Tendermint chains that reflect each other. -/
def tmPair (lib : TmLibrary) (hostA hostB : TmSelf) (HA : TmHost μ)
    (HB : TmHost μ') :
    Duo.System (TmCtx μ) (TmCtx μ') where
  startLeft a := a.Fresh ∧ a.env.ChecksSelf lib hostA
  startRight b := b.Fresh ∧ b.env.ChecksSelf lib hostB
  stepLeft := Input.Proceeds lib hostA HA
  stepRight := Input.Proceeds lib hostB HB

/-- The chain `a` was shown a client of itself in the state `b` of the other chain. -/
structure TracksBack (lib : TmLibrary) (host : TmSelf) (a : TmCtx μ)
    (b : TmCtx μ') (id : ClientId) : Prop where
  client : ∃ cs, b.store.client.clients.clientState id = some cs ∧ cs.IsOf lib host ∧
    cs.frozenHeight = none ∧ cs.latestHeight < a.env.hostHeight
  consensus : ∃ h own, h ≤ a.env.hostHeight ∧ a.env.hostConsensusState h = .ok own ∧
    b.store.client.clients.consensusState id h = some own

namespace TmPair

theorem swap (h : (tmPair lib hostA hostB HA HB).Reachable w) :
    (tmPair lib hostB hostA HB HA).Reachable w.swap := Duo.System.Reachable.swap h

/-- Chains that reflect each other have sound clients. -/
theorem world (h : (tmPair lib hostA hostB HA HB).Reachable w) :
    (Ibc.world HA HB (fun _ => True) fun _ => True).Reachable w := by
  refine h.mono (fun _ hs => hs.1) (fun _ hs => hs.1) ?_ ?_
  · rintro seen a a' ⟨hr, i, -, hs⟩
    exact ⟨hr.sound, i, trivial, hs⟩
  · rintro seen b b' ⟨hr, i, -, hs⟩
    exact ⟨hr.sound, i, trivial, hs⟩

theorem lefts_checkSelf (isoA : HA.Isolated) (h : (tmPair lib hostA hostB HA HB).Reachable w) :
    ∀ a ∈ w.lefts, a.env.ChecksSelf lib hostA := by
  refine h.lefts_invariant (fun a ha => ha.2) ?_
  rintro seen a a' ⟨-, i, hi, hs⟩ hchecks
  rcases hs.env_eq isoA with henv | rfl
  · rwa [henv]
  · exact hi.block _ rfl

/-- Every client state that a chain stores is one that a client can go through. -/
theorem lefts_derived (isoA : HA.Isolated) (tmA : HA.Tendermint lib)
    (h : (tmPair lib hostA hostB HA HB).Reachable w) : ∀ a ∈ w.lefts, ∀ id cs,
      a.store.client.clients.clientState id = some cs → TmClientState.Derived lib cs := by
  refine h.lefts_invariant (I := fun a => ∀ id cs,
    a.store.client.clients.clientState id = some cs → TmClientState.Derived lib cs) ?_ ?_
  · rintro a ⟨⟨hst, -⟩, -⟩ id cs hcs
    rw [hst] at hcs
    cases hcs
  · rintro seen a a' ⟨-, i, hi, hs⟩ ih id cs hcs
    obtain ⟨any, hany⟩ | ⟨cs₀, hcs₀, hg⟩ := (hs.grows isoA tmA hi id).origin cs hcs
    · exact .decoded hany
    · exact hg.derived (ih id cs₀ hcs₀)

/-- What a handshake step is shown is a client of the chain. -/
theorem tracksBack_of_shown (isoA : HA.Isolated) (isoB : HB.Isolated) (tmA : HA.Tendermint lib)
    (tmB : HB.Tendermint lib) (h : (tmPair lib hostA hostB HA HB).Reachable w)
    (hr : Reflects lib HA w.rights w.left) {id other : ClientId} {pfx : CommitmentPrefix}
    {cs : TmClientState} {cons own : TmConsensusState} {any : Any} {height : Height}
    (hshown : ShownSelf HA w.left id pfx other cs cons any height own) :
    ∃ b ∈ w.rights, TracksBack lib hostA w.left b other := by
  obtain ⟨_, hcons⟩ := hshown.consensus
  obtain ⟨b, hb, hholds⟩ := hr id cs _ cons hshown.client hcons
  obtain ⟨cs', hcs', henc, hprost⟩ := (hholds _ _ _ hshown.showsClient).2
  obtain ⟨cons', hcons', henc'⟩ := (hholds _ _ _ hshown.showsConsensus).2
  obtain rfl := Any.encode_inj henc
  rw [tmA.lightClient] at henc'
  obtain rfl := TmConsensusState.encodeVec_inj henc'
  have hchecked := lefts_checkSelf isoA h _ w.left_mem_lefts cs'.toAny hshown.checked
  obtain ⟨cs₁, hdec, hof, hfrozen, hlt⟩ := TmClientState.isOf_of_validateSelf hchecked
  -- What this chain decodes is what the other chain stores.
  have hder := lefts_derived isoB tmB (swap h) b hb other cs' hcs'
  have hread := TmClientState.clientStateOf_toAny hder.storable hprost
  rw [hdec] at hread
  split_ifs at hread with hnone
  obtain rfl := Except.ok.inj hread
  exact ⟨b, hb, ⟨cs₁, hcs', hof, hfrozen, hlt⟩, height, own, hshown.reached, hshown.hosts, hcons'⟩

/-- Every end past `init` rests on a client of the chain, seen on the other one. -/
theorem tracksBack (isoA : HA.Isolated) (isoB : HB.Isolated) (tmA : HA.Tendermint lib)
    (tmB : HB.Tendermint lib) (h : (tmPair lib hostA hostB HA HB).Reachable w) :
    ∀ id e, w.left.store.connection.connections id = some e → e.state ≠ .init →
      ∃ a ∈ w.lefts, ∃ b ∈ w.rights, TracksBack lib hostA a b e.counterparty.clientId := by
  induction h with
  | start ha hb =>
    intro id e he
    rw [ha.1.1] at he
    cases he
  | @left w a' hw hs ih =>
    intro id e he hne
    obtain ⟨hr, i, hi, hstep⟩ := hs
    obtain ⟨e₀, he₀, hne₀, heq⟩ | ⟨cs, cons, any, height, own, hshown⟩ :=
      hstep.shows_self isoA he hne
    · obtain ⟨a, ha, b, hb, ht⟩ := ih id e₀ he₀ hne₀
      exact ⟨a, List.mem_cons_of_mem _ ha, b, hb, heq ▸ ht⟩
    · obtain ⟨b, hb, ht⟩ := tracksBack_of_shown isoA isoB tmA tmB hw hr hshown
      exact ⟨w.left, List.mem_cons_of_mem _ w.left_mem_lefts, b, hb, ht⟩
  | right hw hs ih =>
    intro id e he hne
    obtain ⟨a, ha, b, hb, ht⟩ := ih id e he hne
    exact ⟨a, ha, b, List.mem_cons_of_mem _ hb, ht⟩

/-- A client of the chain that was there is there. -/
theorem client_kept (isoB : HB.Isolated) (tmB : HB.Tendermint lib)
    (h : (tmPair lib hostA hostB HA HB).Reachable w) {host : TmSelf} {id : ClientId}
    {b : TmCtx μ'} (hb : b ∈ w.rights)
    (hof : ∃ cs, b.store.client.clients.clientState id = some cs ∧ cs.IsOf lib host) :
    ∃ cs, w.right.store.client.clients.clientState id = some cs ∧ cs.IsOf lib host := by
  refine h.right_kept (F := fun b => ∃ cs,
    b.store.client.clients.clientState id = some cs ∧ cs.IsOf lib host) ?_ b hb hof
  rintro w b - ⟨-, i, hi, hs⟩ ⟨cs, hcs, hof⟩
  obtain ⟨cs', hcs', hg⟩ := (hs.grows isoB tmB hi id).kept cs hcs
  exact ⟨cs', hcs', hg.isOf hof⟩

end TmPair

/-- The chain keeps, under `id`, a client of the other one, and has had one of its consensus
states. -/
structure KeepsClient (lib : TmLibrary) (host : TmSelf)
    (others : List (TmCtx μ))
    (mine : List (TmCtx μ'))
    (now : TmCtx μ') (id : ClientId) : Prop where
  client : ∃ cs, now.store.client.clients.clientState id = some cs ∧ cs.IsOf lib host
  consensus : ∃ a ∈ others, ∃ b ∈ mine, ∃ h own, h ≤ a.env.hostHeight ∧
    a.env.hostConsensusState h = .ok own ∧ b.store.client.clients.consensusState id h = some own

theorem TmPair.keepsClient (isoA : HA.Isolated) (isoB : HB.Isolated) (tmA : HA.Tendermint lib)
    (tmB : HB.Tendermint lib) (h : (tmPair lib hostA hostB HA HB).Reachable w) {id : ConnectionId}
    {e : ConnectionEnd} (he : w.left.store.connection.connections id = some e)
    (hne : e.state ≠ .init) :
    KeepsClient lib hostA w.lefts w.rights w.right e.counterparty.clientId := by
  obtain ⟨a, ha, b, hb, ⟨cs, hcs, hof, -⟩, hcons⟩ :=
    TmPair.tracksBack isoA isoB tmA tmB h id e he hne
  exact ⟨TmPair.client_kept isoB tmB h hb ⟨cs, hcs, hof⟩, a, ha, b, hb, hcons⟩

/-- **Connected chains have clients of each other.** Over an open connection of the left chain, the
right chain keeps a client of the left one and the left chain one of the right one. -/
theorem connected_clients_mutual (isoA : HA.Isolated) (isoB : HB.Isolated) (tmA : HA.Tendermint lib)
    (tmB : HB.Tendermint lib) (h : (tmPair lib hostA hostB HA HB).Reachable w) {id : ConnectionId}
    {e : ConnectionEnd} (he : w.left.store.connection.connections id = some e)
    (hopen : e.state = .open) :
    KeepsClient lib hostA w.lefts w.rights w.right e.counterparty.clientId ∧
      KeepsClient lib hostB w.rights w.lefts w.left e.clientId := by
  refine ⟨TmPair.keepsClient isoA isoB tmA tmB h he (by simp [hopen]), ?_⟩
  obtain ⟨other, e', -, he', hm⟩ := connection_matched isoA isoB (TmPair.world h) he hopen
  have hne : e'.state ≠ .init := by
    rcases hm.state with hst | hst <;> simp [hst]
  have hback := TmPair.keepsClient isoB isoA tmB tmA (TmPair.swap h) he' hne
  rwa [hm.counterparty] at hback

end World


/-! ### A connection between two chains -/

namespace DualRun

open TmRun (clientId block validState)

def connectionId : ConnectionId := .new 0

/-- The client that each chain keeps: the left one of `chain-0`, the right one of `other-0`. -/
def stateOfRight : TmClientState := validState

def stateOfLeft : TmClientState := { validState with chainId := ⟨"other-0", 0⟩ }

def hostOf (cs : TmClientState) : TmSelf where
  chainId := cs.chainId
  proofSpecs := cs.proofSpecs
  unbondingPeriod := cs.unbondingPeriod
  upgradePath := cs.upgradePath
  debugSpecs _ := ""
  debugPath _ := ""

/-- The first blocks of the two chains. -/
def firstOfRight : TmConsensusState := TmRun.consensusState

def firstOfLeft : TmConsensusState := { firstOfRight with root := ⟨List.replicate 32 99⟩ }

def connEnd (state : ConnectionState) (other : Option ConnectionId) : ConnectionEnd :=
  ⟨state, clientId, ⟨clientId, other, ⟨utf8 "mock"⟩⟩, [.default], 0⟩

/-- What a chain holds when the other one is to answer. -/
def factsOf (e : ConnectionEnd) (cs : TmClientState) (cons : TmConsensusState) :
    List (Path × Bytes) :=
  [(.connection connectionId, e.toRaw.encode), (.clientState clientId, cs.toAny.encode),
    (.clientConsensusState clientId ⟨0, 1⟩, cons.encodeVec)]

def factsOfLeft : List (Path × Bytes) := factsOf (connEnd .init none) stateOfRight firstOfRight

def factsOfRight : List (Path × Bytes) :=
  factsOf (connEnd .tryOpen (some connectionId)) stateOfLeft firstOfLeft

/-- The stores `[1]` and `[2]` are those of the left chain at its first block and of the right chain
at block 10. -/
def contents (root key : Bytes) : Option Bytes :=
  if root = firstOfLeft.root.bytes then if key = utf8 "mock" then some [1] else none
  else if root = (block 10).signedHeader.header.appHash then
    if key = utf8 "mock" then some [2] else none
  else if root = [1] then (factsOfLeft.find? fun fact => utf8 fact.1.toText = key).map (·.2)
  else if root = [2] then (factsOfRight.find? fun fact => utf8 fact.1.toText = key).map (·.2)
  else none

/-- A proof of two parts. The wire form of an existence proof is its root. -/
def merkleProof (sub root : Bytes) : MerkleProof :=
  ⟨[⟨some (.exist ⟨[], [], sub⟩)⟩, ⟨some (.exist ⟨[], [], root⟩)⟩]⟩

theorem ofLeft_ne_nil : ([1] : Bytes) ≠ [] := List.cons_ne_nil 1 []

theorem ofRight_ne_nil : ([2] : Bytes) ≠ [] := List.cons_ne_nil 2 []

def proofOfLeft : CommitmentProofBytes := ⟨[1], ofLeft_ne_nil⟩

def proofOfRight : CommitmentProofBytes := ⟨[2], ofRight_ne_nil⟩

def library : TmLibrary :=
  { TmRun.libraryOf [stateOfRight, stateOfLeft] with
    decodeConsensusState := fun b =>
      Result.okOr ([firstOfRight, firstOfLeft].find? fun c => c.encode = b) .decode
    decodeProof := fun b =>
      .ok (if b = proofOfLeft then merkleProof [1] firstOfLeft.root.bytes
        else merkleProof [2] (block 10).signedHeader.header.appHash)
    ics23 := ⟨fun p => some p.ops,
      fun _ _ root key value => decide (contents root key = some value), fun _ _ _ _ => false⟩ }

def host : TmHost Unit :=
  { TmRun.host [] with
    lightClient := tmClient library
    decodeClientState := fun any => Result.ofExcept .clientError (library.clientStateOf any) }

/-- A chain at height 5, which knows its own first block. -/
def env (cs : TmClientState) (first : TmConsensusState) : HostEnv TmConsensusState where
  hostHeight := ⟨0, 5⟩
  hostTimestamp := TmRun.now
  hostConsensusState h := Result.okOr (if h = ⟨0, 1⟩ then some first else none)
    (.connectionError (.client (.missingLocalConsensusState h)))
  validateSelfClient any :=
    Result.ensure (validateSelfTendermintClient library (hostOf cs) ⟨0, 5⟩ any = .ok ())
      (invalidSelfClient "client must be a tendermint client")

def startOfLeft : TmCtx Unit :=
  { TmRun.start with env := env stateOfLeft firstOfLeft }

def startOfRight : TmCtx Unit :=
  { TmRun.start with env := env stateOfRight firstOfRight }

def create (cs : TmClientState) (cons : TmConsensusState) : Input TmConsensusState Unit :=
  .dispatch (.client (.createClient ⟨cs.toAny,
    ⟨"/ibc.lightclients.tendermint.v1.ConsensusState", cons.encode⟩, MockRun.signer⟩))

def openInit : Input TmConsensusState Unit :=
  .dispatch (.connection (.openInit
    ⟨clientId, ⟨clientId, none, ⟨utf8 "mock"⟩⟩, none, 0, MockRun.signer⟩))

def openTry : Input TmConsensusState Unit :=
  .dispatch (.connection (.openTry ⟨clientId, stateOfRight.toAny,
    ⟨clientId, some connectionId, ⟨utf8 "mock"⟩⟩, [.default], proofOfLeft, proofOfLeft, proofOfLeft,
    ⟨0, 1⟩, ⟨0, 1⟩, 0, MockRun.signer, ""⟩))

def openAck : Input TmConsensusState Unit :=
  .dispatch (.connection (.openAck ⟨connectionId, connectionId, stateOfLeft.toAny,
    proofOfRight, proofOfRight, proofOfRight, ⟨0, 10⟩, ⟨0, 1⟩, .default, MockRun.signer⟩))

/-- The left chain creates its client, proposes a connection, takes block 10 of the right chain and
opens its end. -/
def leftCreated : TmCtx Unit :=
  ((create stateOfRight firstOfRight).run host startOfLeft).2

def leftProposed : TmCtx Unit := (openInit.run host leftCreated).2

def leftUpdated : TmCtx Unit :=
  ((TmRun.update 10).run host leftProposed).2

def leftOpened : TmCtx Unit := (openAck.run host leftUpdated).2

/-- The right chain creates its client and answers the proposal. -/
def rightCreated : TmCtx Unit :=
  ((create stateOfLeft firstOfLeft).run host startOfRight).2

def rightTried : TmCtx Unit := (openTry.run host rightCreated).2

def sample : Duo (TmCtx Unit) (TmCtx Unit)
    where
  left := leftOpened
  right := rightTried
  leftPast := [leftUpdated, leftProposed, leftCreated, startOfLeft]
  rightPast := [rightCreated, startOfRight]

theorem host_isolated : host.Isolated := TmRun.host_isolated []

theorem host_tendermint : host.Tendermint library := ⟨rfl, fun _ => rfl⟩

theorem env_checksSelf (cs : TmClientState) (first : TmConsensusState) :
    (env cs first).ChecksSelf library (hostOf cs) :=
  fun _ h => Result.ensure_eq_ok.mp h

/-! #### What the roots of the sample stand for -/

/-- Whatever is under the root is held by the chain. -/
def Describes (root : Bytes) (b : TmCtx Unit) : Prop :=
  ∀ key sub path value, contents root key = some sub →
    contents sub (utf8 path.toText) = some value →
    b.store.Holds path value ∧ b.store.HoldsClient library path value

/-- The root of every stored consensus state is one of these. -/
def Rooted (roots : List Bytes) (c : TmClientState.Records) : Prop :=
  ∀ id h cons, c.consensusState id h = some cons → cons.root.bytes ∈ roots

theorem Rooted.reflects {roots : List Bytes} {s : TmCtx Unit}
    {seen : List (TmCtx Unit)}
    (h : Rooted roots s.store.client.clients) (hroots : ∀ r ∈ roots, ∃ b ∈ seen, Describes r b) :
    Reflects library host seen s := by
  intro id cs height cons _ hcons
  obtain ⟨b, hb, hdesc⟩ := hroots _ (h id height cons hcons)
  refine ⟨b, hb, fun pfx path value hacc => ?_⟩
  have proofs p spec root key value (_ : spec ∈ cs.proofSpecs)
      (hv : library.ics23.verifyMembership p spec root key value = true) :
      contents root key = some value := of_decide_eq_true hv
  obtain ⟨key, sub, hkey, hvalue⟩ := TmClientState.accepts_contents proofs hacc
  exact hdesc key sub path value hkey hvalue

theorem Rooted.storeClientState {roots : List Bytes} {c : TmClientState.Records}
    (h : Rooted roots c) (id : ClientId) (cs : TmClientState) :
    Rooted roots (c.storeClientState id cs) := by
  intro id' height cons hc
  rw [Clients.consensusState_storeClientState] at hc
  exact h id' height cons hc

theorem Rooted.storeConsensusState {roots : List Bytes} {c : TmClientState.Records}
    (h : Rooted roots c) (id : ClientId) (height : Height) {cons : TmConsensusState}
    (hcons : cons.root.bytes ∈ roots) : Rooted roots (c.storeConsensusState id height cons) := by
  intro id' height' cons' hc
  rw [Clients.consensusState_storeConsensusState] at hc
  split_ifs at hc
  · cases hc
    exact hcons
  · exact h id' height' cons' hc

/-- The roots that the input brings are among these. -/
def RootsIn (roots : List Bytes) : Input TmConsensusState Unit → Prop
  | .dispatch (.client (.createClient msg)) => ∀ cons,
      library.consensusStateOf msg.consensusState = .ok cons → cons.root.bytes ∈ roots
  | .dispatch (.client (.updateClient msg)) => ∀ header, library.headerOf msg.header = .ok header →
      header.signedHeader.header.appHash ∈ roots
  | .dispatch (.client _) => False
  | _ => True

theorem Rooted.step {roots : List Bytes} {i : Input TmConsensusState Unit}
    {s s' : TmCtx Unit} (hs : Step host i s s')
    (hi : RootsIn roots i) (h : Rooted roots s.store.client.clients) :
    Rooted roots s'.store.client.clients := by
  obtain heq | ⟨msg, rfl, -, hchange⟩ := hs.tmChange host_isolated host_tendermint
  · rwa [heq]
  cases msg with
  | createClient m =>
    refine hs.clients_leave host_isolated h ?_
    rintro _ ⟨⟩ cs id -
    refine Exec.Ensures.ofExcept_bind (fun _ _ => h) fun cons hcons => ?_
    exact (h.storeClientState id cs).storeConsensusState id _ (hi cons hcons)
  | updateClient m =>
    cases hchange with
    | @header _ cs header height flagged _ hup =>
      have hstored : Rooted roots (s.store.client.clients.storeConsensusState m.clientId
        (max height cs.latestHeight) (.ofHeader header)) :=
        h.storeConsensusState _ _ (hi header hup.decoded)
      rw [hup.records]
      unfold TmClientState.takeHeader
      split_ifs
      · exact h.storeClientState _ _
      · exact h
      · exact hstored.storeClientState _ _
  | misbehaviour m => exact hi.elim
  | upgradeClient m => exact hi.elim

/-- Of what a chain holds, the facts under the root of its store are true. -/
theorem describes_of_facts {root : Bytes} (sub : Bytes) (facts : List (Path × Bytes))
    {b : TmCtx Unit}
    (hroot : ∀ key x, contents root key = some x → x = sub)
    (hsub : ∀ key, contents sub key =
      (facts.find? fun fact => utf8 fact.1.toText = key).map (·.2))
    (hfacts : ∀ fact ∈ facts,
      b.store.Holds fact.1 fact.2 ∧ b.store.HoldsClient library fact.1 fact.2) :
    Describes root b := by
  intro key x path value hkey hvalue
  rw [hroot key x hkey, hsub] at hvalue
  obtain ⟨fact, hfind, rfl⟩ := Option.map_eq_some_iff.mp hvalue
  have htext : utf8 fact.1.toText = utf8 path.toText := by simpa using List.find?_some hfind
  obtain rfl := Path.toText_inj (utf8_inj htext)
  exact hfacts fact (List.mem_of_find?_eq_some hfind)

theorem factsOf_held {b : TmCtx Unit} {e : ConnectionEnd}
    {cs : TmClientState} {cons : TmConsensusState}
    (he : b.store.connection.connections connectionId = some e)
    (hcs : b.store.client.clients.clientState clientId = some cs)
    (hdec : library.decodeClientState cs.toRaw.encode = .ok cs.toRaw)
    (hcons : b.store.client.clients.consensusState clientId ⟨0, 1⟩ = some cons) :
    ∀ fact ∈ factsOf e cs cons,
      b.store.Holds fact.1 fact.2 ∧ b.store.HoldsClient library fact.1 fact.2 := by
  simp only [factsOf, List.forall_mem_cons]
  refine ⟨⟨?_, trivial⟩, ⟨trivial, cs, hcs, rfl, hdec⟩, ⟨trivial, cons, hcons, rfl⟩, by simp⟩
  exact congrArg (Option.map (·.toRaw.encode)) he

/-- The roots of the sample are different ones. -/
theorem roots_ne :
    firstOfRight.root.bytes ≠ firstOfLeft.root.bytes ∧
      firstOfRight.root.bytes ≠ (block 10).signedHeader.header.appHash ∧
      (block 10).signedHeader.header.appHash ≠ firstOfLeft.root.bytes ∧
      ∀ sub ∈ [[1], [2]], sub ≠ firstOfRight.root.bytes ∧ sub ≠ firstOfLeft.root.bytes ∧
        sub ≠ (block 10).signedHeader.header.appHash := by
  decide +kernel

/-- Nothing is under the first root of the right chain, so it can be trusted from the start on. -/
theorem describes_firstOfRight (b : TmCtx Unit) :
    Describes firstOfRight.root.bytes b := by
  intro key sub path value hkey
  obtain ⟨h₁, h₂, -, hsub⟩ := roots_ne
  have h₃ := (hsub [1] (by simp)).1.symm
  have h₄ := (hsub [2] (by simp)).1.symm
  simp [contents, h₁, h₂, h₃, h₄] at hkey

theorem describes_firstOfLeft : Describes firstOfLeft.root.bytes leftProposed := by
  refine describes_of_facts [1] factsOfLeft (fun key x hkey => ?_) (fun key => ?_) ?_
  · simp only [contents, if_true] at hkey
    split_ifs at hkey
    exact (Option.some.inj hkey).symm
  · obtain ⟨-, h₁, h₂⟩ := roots_ne.2.2.2 [1] (by simp)
    simp [contents, h₁, h₂]
  · exact factsOf_held (by decide +kernel) (by decide +kernel) (by decide +kernel)
      (by decide +kernel)

theorem describes_block : Describes (block 10).signedHeader.header.appHash rightTried := by
  have hne := roots_ne.2.2.1
  refine describes_of_facts [2] factsOfRight (fun key x hkey => ?_) (fun key => ?_) ?_
  · simp only [contents, hne, if_false, if_true] at hkey
    split_ifs at hkey
    exact (Option.some.inj hkey).symm
  · obtain ⟨-, h₁, h₂⟩ := roots_ne.2.2.2 [2] (by simp)
    simp [contents, h₁, h₂]
  · exact factsOf_held (by decide +kernel) (by decide +kernel) (by decide +kernel)
      (by decide +kernel)

/-- An input that succeeds is a step. -/
theorem step_of_ok {i : Input TmConsensusState Unit} {s : TmCtx Unit}
    (hr : (i.run host s).1 = .ok ()) : Step host i s (i.run host s).2 :=
  ⟨_, rfl, hr ▸ fun _ => Result.avoids_ok⟩

/-- The messages of the sample decode. -/
theorem decoded :
    (∀ cons ∈ [firstOfRight, firstOfLeft], library.consensusStateOf
      ⟨"/ibc.lightclients.tendermint.v1.ConsensusState", cons.encode⟩ = .ok cons) ∧
    library.headerOf (TmRun.updateMsg 10).header = .ok (block 10) := by
  decide +kernel

theorem create_rootsIn {cs : TmClientState} {cons : TmConsensusState} {roots : List Bytes}
    (hcons : cons ∈ [firstOfRight, firstOfLeft]) (hroot : cons.root.bytes ∈ roots) :
    RootsIn roots (create cs cons) := by
  intro cons' hcons'
  obtain rfl : cons = cons' := Except.ok.inj ((decoded.1 cons hcons).symm.trans hcons')
  exact hroot

theorem update_rootsIn {roots : List Bytes}
    (hroot : (block 10).signedHeader.header.appHash ∈ roots) : RootsIn roots (TmRun.update 10) := by
  intro header hheader
  obtain rfl : block 10 = header := Except.ok.inj (decoded.2.symm.trans hheader)
  exact hroot

theorem rooted_fresh {roots : List Bytes} {s : TmCtx Unit}
    (hs : s.Fresh) : Rooted roots s.store.client.clients := by
  intro id h cons hcons
  rw [hs.1] at hcons
  cases hcons

theorem reflects_fresh {s : TmCtx Unit}
    {seen : List (TmCtx Unit)} (hs : s.Fresh) :
    Reflects library host seen s := by
  have hnone : Rooted [] s.store.client.clients := rooted_fresh hs
  exact hnone.reflects fun r hr => nomatch hr

theorem Rooted.mono {roots roots' : List Bytes} {c : TmClientState.Records} (h : Rooted roots c)
    (hle : roots ⊆ roots') : Rooted roots' c := fun id height cons hc => hle (h id height cons hc)

/-- Whether the input is a message, and no upgrade. -/
def plain : Input TmConsensusState Unit → Bool
  | .dispatch (.client msg) => !msg.isUpgrade
  | .dispatch _ => true
  | _ => false

theorem proceeds {self : TmSelf} {seen : List (TmCtx Unit)}
    {s : TmCtx Unit} (i : Input TmConsensusState Unit)
    (hi : plain i = true) (hs : Reflects library host seen s) (hr : (i.run host s).1 = .ok ()) :
    Input.Proceeds library self host seen s (i.run host s).2 := by
  refine ⟨hs, i, ⟨?_, ?_⟩, step_of_ok hr⟩
  · rintro msg rfl
    simpa [plain] using hi
  · rintro env rfl
    cases hi

/-- Every step of the sample succeeds. -/
theorem steps_ok :
    ((create stateOfRight firstOfRight).run host startOfLeft).1 = .ok () ∧
      (openInit.run host leftCreated).1 = .ok () ∧
      ((create stateOfLeft firstOfLeft).run host startOfRight).1 = .ok () ∧
      (openTry.run host rightCreated).1 = .ok () ∧
      ((TmRun.update 10).run host leftProposed).1 = .ok () ∧
      (openAck.run host leftUpdated).1 = .ok () := by
  decide +kernel

/-- The left chain knows the first root of the right one until it takes block 10. -/
theorem leftCreated_rooted : Rooted [firstOfRight.root.bytes] leftCreated.store.client.clients :=
  Rooted.step (step_of_ok steps_ok.1)
    (create_rootsIn List.mem_cons_self (List.mem_singleton_self _))
    (rooted_fresh (s := startOfLeft) ⟨rfl, rfl⟩)

theorem leftProposed_rooted : Rooted [firstOfRight.root.bytes] leftProposed.store.client.clients :=
  leftCreated_rooted.step (step_of_ok steps_ok.2.1) trivial

theorem leftUpdated_rooted :
    Rooted [firstOfRight.root.bytes, (block 10).signedHeader.header.appHash]
      leftUpdated.store.client.clients :=
  (leftProposed_rooted.mono (by simp)).step (step_of_ok steps_ok.2.2.2.2.1)
    (update_rootsIn (List.mem_cons_of_mem _ List.mem_cons_self))

theorem rightCreated_rooted : Rooted [firstOfLeft.root.bytes] rightCreated.store.client.clients :=
  Rooted.step (step_of_ok steps_ok.2.2.1)
    (create_rootsIn (List.mem_cons_of_mem _ List.mem_cons_self) (List.mem_singleton_self _))
    (rooted_fresh (s := startOfRight) ⟨rfl, rfl⟩)

/-- The two chains. -/
abbrev pair : Duo.System (TmCtx Unit) (TmCtx Unit) :=
  tmPair library (hostOf stateOfLeft) (hostOf stateOfRight) host host

theorem sample_reachable : pair.Reachable sample := by
  have freshL : startOfLeft.Fresh := ⟨rfl, rfl⟩
  have freshR : startOfRight.Fresh := ⟨rfl, rfl⟩
  have hfirst {seen : List (TmCtx Unit)} {b : TmCtx Unit} (hb : b ∈ seen) :
      ∀ r ∈ [firstOfRight.root.bytes], ∃ b ∈ seen, Describes r b := by
    intro r hr
    rw [List.mem_singleton.mp hr]
    exact ⟨b, hb, describes_firstOfRight b⟩
  have hproposed : ∀ r ∈ [firstOfLeft.root.bytes],
      ∃ b ∈ [leftProposed, leftCreated, startOfLeft], Describes r b := by
    intro r hr
    rw [List.mem_singleton.mp hr]
    exact ⟨_, List.mem_cons_self, describes_firstOfLeft⟩
  have htried : ∀ r ∈ [firstOfRight.root.bytes, (block 10).signedHeader.header.appHash],
      ∃ b ∈ [rightTried, rightCreated, startOfRight], Describes r b := by
    intro r hr
    rcases List.mem_cons.mp hr with rfl | hr
    · exact ⟨_, List.mem_cons_self, describes_firstOfRight _⟩
    · rw [List.mem_singleton.mp hr]
      exact ⟨_, List.mem_cons_self, describes_block⟩
  obtain ⟨hcreateL, hinit, hcreateR, htry, hupdate, hack⟩ := steps_ok
  have h₀ : pair.Reachable ⟨startOfLeft, startOfRight, [], []⟩ :=
    .start ⟨freshL, env_checksSelf _ _⟩ ⟨freshR, env_checksSelf _ _⟩
  have h₁ : pair.Reachable ⟨leftCreated, startOfRight, _, _⟩ :=
    h₀.step_left (proceeds _ rfl (reflects_fresh freshL) hcreateL)
  have h₂ : pair.Reachable ⟨leftProposed, startOfRight, _, _⟩ :=
    h₁.step_left (proceeds openInit rfl
      (leftCreated_rooted.reflects (hfirst List.mem_cons_self)) hinit)
  have h₃ : pair.Reachable ⟨leftProposed, rightCreated, _, _⟩ :=
    h₂.step_right (proceeds _ rfl (reflects_fresh freshR) hcreateR)
  have h₄ : pair.Reachable ⟨leftProposed, rightTried, _, _⟩ :=
    h₃.step_right (proceeds openTry rfl (rightCreated_rooted.reflects hproposed) htry)
  have h₅ : pair.Reachable ⟨leftUpdated, rightTried, _, _⟩ :=
    h₄.step_left (proceeds (TmRun.update 10) rfl
      (leftProposed_rooted.reflects (hfirst List.mem_cons_self)) hupdate)
  exact h₅.step_left (proceeds openAck rfl (leftUpdated_rooted.reflects htried) hack)

end DualRun

open DualRun

/-- The two chains of the sample have clients of each other. -/
theorem sample_clients_mutual :
    sample.left.store.connection.connections connectionId =
      some (connEnd .open (some connectionId)) ∧
    KeepsClient library (hostOf stateOfLeft) sample.lefts sample.rights sample.right
      TmRun.clientId ∧
    KeepsClient library (hostOf stateOfRight) sample.rights sample.lefts sample.left
      TmRun.clientId := by
  have he : sample.left.store.connection.connections connectionId =
      some (connEnd .open (some connectionId)) := by decide +kernel
  exact ⟨he, connected_clients_mutual host_isolated host_isolated host_tendermint host_tendermint
    sample_reachable he rfl⟩

end Ibc
