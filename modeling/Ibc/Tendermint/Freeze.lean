import Ibc.Tendermint.Frozen

/-!
# What freezes a client

The entries of a client are the consensus state it was created with and those of the headers it took
since (`Updates`). Two entries contradict each other when they differ at one height, or when the
higher one is not later in time. A client should be frozen exactly when two of its entries
contradict each other, and each header is compared with its stored neighbours only. That this is
enough rests on an invariant (`Watches`): what is stored is exactly the entries, and they do not
contradict each other.

A header that fills a gap in the past breaks the invariant, since it is not stored at its own
height. **`frozen_iff_evidence`**: without such headers a client is frozen exactly when there is
evidence. `honest_headers_freeze`: with one, the headers of an honest chain freeze it.
-/

namespace Ibc

/-- A height, and what some header says about it. -/
abbrev Entry := Height × TmConsensusState

/-- Two entries that no honest chain has. -/
def Entry.Contradicts (x y : Entry) : Prop :=
  (x.1 = y.1 ∧ x.2 ≠ y.2) ∨ (x.1 < y.1 ∧ y.2.timestamp ≤ x.2.timestamp)

instance (x y : Entry) : Decidable (x.Contradicts y) :=
  inferInstanceAs (Decidable (_ ∨ _))

/-- Two of the entries contradict each other. -/
def Evidence (E : List Entry) : Prop := ∃ x ∈ E, ∃ y ∈ E, x.Contradicts y

instance (E : List Entry) : Decidable (Evidence E) :=
  inferInstanceAs (Decidable (∃ x ∈ E, ∃ y ∈ E, x.Contradicts y))

theorem Evidence.mono {E E' : List Entry} (h : Evidence E) (hsub : E ⊆ E') : Evidence E' := by
  obtain ⟨x, hx, y, hy, hxy⟩ := h
  exact ⟨x, hsub hx, y, hsub hy, hxy⟩

/-- A new entry above all others brings no evidence when it is also later than all others. -/
theorem not_evidence_cons {E : List Entry} {e : Entry} (h : ¬ Evidence E)
    (habove : ∀ x ∈ E, x.1 < e.1 ∧ x.2.timestamp < e.2.timestamp) : ¬ Evidence (e :: E) := by
  rintro ⟨x, hx, y, hy, hxy⟩
  rcases List.mem_cons.mp hx with rfl | hx' <;> rcases List.mem_cons.mp hy with rfl | hy'
  · rcases hxy with ⟨-, hne⟩ | ⟨hlt, -⟩
    · exact hne rfl
    · exact lt_irrefl _ hlt
  · have hlow := (habove y hy').1
    rcases hxy with ⟨heq, -⟩ | ⟨hlt, -⟩
    · exact hlow.ne heq.symm
    · exact lt_asymm hlow hlt
  · obtain ⟨hlow, htime⟩ := habove x hx'
    rcases hxy with ⟨heq, -⟩ | ⟨-, hle⟩
    · exact hlow.ne heq
    · exact not_lt.mpr hle htime
  · exact h ⟨x, hx', y, hy', hxy⟩

/-! ### What the client compares -/

section Check

variable {lib : TmLibrary} {c : TmClientState.Records} {id : ClientId} {cs : TmClientState}
  {header : TmHeader} {h : Height}

/-- What is stored about a client that has a record. -/
theorem Clients.consensusState_of_record {record : ClientRecord TmClientState TmConsensusState}
    (hrec : c id = some record) (h' : Height) :
    c.consensusState id h' = record.consensusStates.lookup h' := by
  rw [Clients.consensusState, hrec, Option.bind_some]

theorem prevConsensusState_eq_ok {r : Option TmConsensusState}
    (hprev : c.prevConsensusState id h = .ok r) :
    (∀ cons, r = some cons → ∃ h', h' < h ∧ c.consensusState id h' = some cons ∧
      ∀ h'' cons', h'' < h → c.consensusState id h'' = some cons' → h'' ≤ h') ∧
    (r = none → ∀ h' cons, c.consensusState id h' = some cons → h ≤ h') := by
  unfold Clients.prevConsensusState at hprev
  cases hrec : c id with
  | none => simp [hrec] at hprev
  | some record =>
    simp only [hrec, Except.ok.injEq] at hprev
    subst hprev
    simp only [Clients.consensusState_of_record hrec]
    exact ⟨fun cons hcons => AList.prev_eq_some hcons, fun hnone _ _ => AList.prev_eq_none hnone⟩

theorem nextConsensusState_eq_ok {cons : TmConsensusState}
    (hnext : c.nextConsensusState id h = .ok (some cons)) :
    ∃ h', h < h' ∧ c.consensusState id h' = some cons := by
  unfold Clients.nextConsensusState at hnext
  cases hrec : c id with
  | none => simp [hrec] at hnext
  | some record =>
    simp only [hrec, Except.ok.injEq] at hnext
    obtain ⟨h', hlt, hlookup, -⟩ := AList.next_eq_some hnext
    exact ⟨h', hlt, (Clients.consensusState_of_record hrec h').trans hlookup⟩

/-- A flagged header contradicts something that is stored. -/
theorem flagged_contradicts (hh : header.HasHeight lib h)
    (hcheck : cs.checkForMisbehaviourUpdateClient lib c id header = .ok true) :
    ∃ h' cons, c.consensusState id h' = some cons ∧
      (Entry.Contradicts (h', cons) (h, .ofHeader header) ∨
        Entry.Contradicts (h, .ofHeader header) (h', cons)) := by
  rw [TmClientState.checkForMisbehaviourUpdateClient, hh.eq_ok, Result.ok_bind] at hcheck
  cases hstored : c.consensusState id h with
  | some existing =>
    simp only [hstored, Result.pure_eq_ok, decide_eq_true_eq] at hcheck
    exact ⟨h, existing, hstored, .inl (.inl ⟨rfl, hcheck⟩)⟩
  | none =>
    simp only [hstored, Result.bind_eq_ok, Result.ofExcept_eq_ok] at hcheck
    obtain ⟨prev, hprev, hcheck⟩ := hcheck
    split_ifs at hcheck with hearlier hlatest
    · obtain ⟨cons, rfl, htime⟩ := (Option.any_eq_true _ _).mp hearlier
      obtain ⟨h', hlt, hcons, -⟩ := (prevConsensusState_eq_ok hprev).1 cons rfl
      exact ⟨h', cons, hcons, .inl (.inr ⟨hlt, of_decide_eq_true htime⟩)⟩
    · obtain ⟨next, hnext, hlater⟩ := Result.bind_eq_ok.mp hcheck
      obtain ⟨cons, rfl, htime⟩ := (Option.any_eq_true _ _).mp (Result.pure_eq_ok.mp hlater)
      obtain ⟨h', hlt, hcons⟩ := nextConsensusState_eq_ok (Result.ofExcept_eq_ok.mp hnext)
      exact ⟨h', cons, hcons, .inr (.inr ⟨hlt, of_decide_eq_true htime⟩)⟩
    · cases hcheck

/-- A new header that is not flagged is later than the entry stored next below it. -/
theorem later_of_not_flagged (hh : header.HasHeight lib h) (hnew : c.consensusState id h = none)
    (hcheck : cs.checkForMisbehaviourUpdateClient lib c id header = .ok false) {h' : Height}
    {cons : TmConsensusState} (hlt : h' < h) (hcons : c.consensusState id h' = some cons) :
    ∃ h'' cons', h' ≤ h'' ∧ c.consensusState id h'' = some cons' ∧
      cons'.timestamp < header.time := by
  rw [TmClientState.checkForMisbehaviourUpdateClient, hh.eq_ok, Result.ok_bind] at hcheck
  simp only [hnew, Result.bind_eq_ok, Result.ofExcept_eq_ok] at hcheck
  obtain ⟨prev, hprev, hcheck⟩ := hcheck
  cases prev with
  | none => exact absurd ((prevConsensusState_eq_ok hprev).2 rfl h' cons hcons) (not_le.mpr hlt)
  | some cons' =>
    obtain ⟨h'', -, hcons', hnearest⟩ := (prevConsensusState_eq_ok hprev).1 cons' rfl
    refine ⟨h'', cons', hnearest h' cons hlt hcons, hcons', ?_⟩
    by_contra htime
    rw [if_pos (by simpa using not_lt.mp htime)] at hcheck
    cases hcheck

end Check

/-! ### Clients that take headers -/

section Updates

variable {μ : Type} {lib : TmLibrary} {H : TmHost μ} {id : ClientId}
  {s s' : TmCtx μ} {E : List Entry}

/-- The client `id` was created and has taken headers since, `E` being its entries. Only headers
that meet the condition `ok` were among them. In between the chain does anything else, but no
upgrade and no misbehaviour of this client succeeds. -/
inductive Updates (lib : TmLibrary) (H : TmHost μ) (id : ClientId)
    (ok : TmClientState.Records → TmClientState → TmHeader → Height → Prop) :
    List Entry → TmCtx μ → Prop where
  | created {s s' : TmCtx μ} {msg : MsgCreateClient}
      {cs : TmClientState} {cons : TmConsensusState} (hr : Reachable H s)
      (hok : dispatch H (.client (.createClient msg)) s = (.ok (), s'))
      (hnew : s.store.client.clients.clientState id = none)
      (hcs : s'.store.client.clients.clientState id = some cs)
      (hcons : s'.store.client.clients.consensusState id cs.latestHeight = some cons) :
      Updates lib H id ok [(cs.latestHeight, cons)] s'
  | header {s s' : TmCtx μ} {E : List Entry} {msg : MsgUpdateClient}
      {cs : TmClientState} {header : TmHeader} {h : Height} (hu : Updates lib H id ok E s)
      (hok : dispatch H (.client (.updateClient msg)) s = (.ok (), s')) (hid : msg.clientId = id)
      (hcs : s.store.client.clients.clientState id = some cs)
      (hd : lib.headerOf msg.header = .ok header) (hh : header.HasHeight lib h)
      (hheader : ok s.store.client.clients cs header h) :
      Updates lib H id ok ((h, .ofHeader header) :: E) s'
  | other {s s' : TmCtx μ} {E : List Entry}
      {i : Input TmConsensusState μ} (hu : Updates lib H id ok E s) (hs : Step H i s s')
      (hother : ∀ msg, i = .dispatch (.client msg) → (dispatch H (.client msg) s).1 = .ok () →
        msg.clientOf ≠ some id) : Updates lib H id ok E s'

/-- The header is flagged, or it is at a height that has a consensus state, or it is not below the
latest height: it does not fill a gap. -/
def FillsNoGap (lib : TmLibrary) (id : ClientId) (c : TmClientState.Records) (cs : TmClientState)
    (header : TmHeader) (h : Height) : Prop :=
  cs.checkForMisbehaviourUpdateClient lib c id header = .ok true ∨ c.consensusState id h ≠ none ∨
    cs.latestHeight ≤ h

theorem Updates.reachable {ok : TmClientState.Records → TmClientState → TmHeader → Height → Prop}
    (h : Updates lib H id ok E s) : Reachable H s := by
  induction h with
  | created hr hok => exact hr.step (.dispatch _) ⟨_, hok, Result.returns_ok⟩
  | header _ hok _ _ _ _ _ ih => exact ih.step (.dispatch _) ⟨_, hok, Result.returns_ok⟩
  | other _ hs _ ih => exact ih.step _ hs

/-- The client is not frozen, what it stores is exactly the entries, and they agree. -/
structure Watches (c : TmClientState.Records) (id : ClientId) (E : List Entry) : Prop where
  client : ∃ cs, c.clientState id = some cs ∧ cs.frozenHeight = none
  stored : ∀ h cons, c.consensusState id h = some cons ↔ (h, cons) ∈ E
  agree : ¬ Evidence E

/-- The records of one client. -/
theorem Watches.congr {c c' : TmClientState.Records} (h : Watches c id E)
    (heq : c' id = c id) : Watches c' id E := by
  obtain ⟨hclient, hstored, hagree⟩ := h
  refine ⟨?_, ?_, hagree⟩
  · simpa only [Clients.clientState, heq] using hclient
  · simpa only [Clients.consensusState, heq] using hstored

section Header

variable {c : TmClientState.Records} {cs : TmClientState} {header : TmHeader} {h : Height}

/-- A stored entry is not contradicted by a header that is not flagged. -/
theorem Watches.takeHeader_stored (hw : Watches c id E) (hh : header.HasHeight lib h)
    (hcheck : cs.checkForMisbehaviourUpdateClient lib c id header = .ok false)
    (hstored : c.consensusState id h ≠ none) :
    Watches (TmClientState.takeHeader c id cs header h false) id ((h, .ofHeader header) :: E) := by
  have hmem : ((h, .ofHeader header) : Entry) ∈ E :=
    (hw.stored _ _).mp (consensusState_of_not_flagged hh hcheck hstored)
  have hsame : ∀ x, x ∈ ((h, .ofHeader header) : Entry) :: E ↔ x ∈ E := by
    intro x
    rw [List.mem_cons, or_iff_right_of_imp]
    rintro rfl
    exact hmem
  rw [TmClientState.takeHeader, if_neg Bool.false_ne_true, if_pos hstored]
  refine ⟨hw.client, fun h' cons => (hw.stored h' cons).trans (hsame _).symm, fun hev => ?_⟩
  exact hw.agree (hev.mono fun x hx => (hsame x).mp hx)

/-- A header above everything that is stored is stored too, and agrees with it. -/
theorem Watches.takeHeader_new (hw : Watches c id E) (hbelow : BelowLatest c)
    (hcs : c.clientState id = some cs) (hfrozen : cs.frozenHeight = none)
    (hh : header.HasHeight lib h)
    (hcheck : cs.checkForMisbehaviourUpdateClient lib c id header = .ok false)
    (hnew : c.consensusState id h = none) (hle : cs.latestHeight ≤ h) :
    Watches (TmClientState.takeHeader c id cs header h false) id ((h, .ofHeader header) :: E) := by
  have hlow : ∀ x ∈ E, x.1 < h := by
    intro x hx
    have hx := (hw.stored x.1 x.2).mpr hx
    obtain ⟨cs', hcs', hxle⟩ := hbelow id x.1 x.2 hx
    obtain rfl : cs' = cs := Option.some.inj (hcs'.symm.trans hcs)
    refine lt_of_le_of_ne (hxle.trans hle) fun heq => ?_
    rw [heq, hnew] at hx
    cases hx
  have hearlier : ∀ x ∈ E, x.2.timestamp < header.time := by
    intro x hx
    obtain ⟨h', cons, hxle, hcons, htime⟩ :=
      later_of_not_flagged hh hnew hcheck (hlow x hx) ((hw.stored x.1 x.2).mpr hx)
    have hmem := (hw.stored h' cons).mp hcons
    -- The entries agree with each other, so the nearest one below is the latest one below.
    rcases hxle.eq_or_lt with heq | hlt
    · have hsame : x.2 = cons := by
        by_contra hne
        exact hw.agree ⟨x, hx, (h', cons), hmem, .inl ⟨heq, hne⟩⟩
      rwa [hsame]
    · have hlt : x.2.timestamp < cons.timestamp := by
        by_contra hnot
        exact hw.agree ⟨x, hx, (h', cons), hmem, .inr ⟨hlt, not_lt.mp hnot⟩⟩
      exact hlt.trans htime
  refine ⟨?_, fun h' cons => ?_, not_evidence_cons hw.agree fun x hx => ⟨hlow x hx, hearlier x hx⟩⟩
  · rw [clientState_takeHeader hnew, if_pos rfl]
    exact ⟨_, rfl, hfrozen⟩
  · rw [consensusState_takeHeader hnew, max_eq_left hle, List.mem_cons, Prod.mk.injEq]
    split_ifs with heq
    · obtain ⟨-, rfl⟩ := heq
      rw [Option.some.injEq, eq_comm, and_iff_right rfl]
      refine ⟨.inl, fun hor => hor.resolve_right fun hmem => ?_⟩
      exact lt_irrefl _ (hlow _ hmem)
    · rw [hw.stored, or_iff_right fun hor => heq ⟨rfl, hor.1⟩]

end Header

theorem Updates.watches_of_header (tm : H.Tendermint lib) (iso : H.Isolated) {msg : MsgUpdateClient}
    {cs : TmClientState} {header : TmHeader} {h : Height} (hr : Reachable H s)
    (hw : Watches s.store.client.clients id E)
    (hok : dispatch H (.client (.updateClient msg)) s = (.ok (), s')) (hid : msg.clientId = id)
    (hcs : s.store.client.clients.clientState id = some cs)
    (hd : lib.headerOf msg.header = .ok header) (hh : header.HasHeight lib h)
    (hheader : FillsNoGap lib id s.store.client.clients cs header h) :
    (Frozen H s'.store id ∧ Evidence ((h, .ofHeader header) :: E)) ∨
      Watches s'.store.client.clients id ((h, .ofHeader header) :: E) := by
  subst hid
  obtain ⟨cs', header', h', flagged, hup⟩ := updatesTo_of_dispatch tm hok
  obtain rfl : cs' = cs := Option.some.inj (hup.stored.symm.trans hcs)
  obtain rfl : header' = header := Except.ok.inj (hup.decoded.symm.trans hd)
  obtain rfl : h' = h := Except.ok.inj (hup.hasHeight.symm.trans hh)
  cases flagged with
  | true =>
    have hfrozen : s'.store.client.clients.clientState msg.clientId =
        some (cs'.withFrozenHeight (Height.min 0)) := by
      rw [hup.records]
      simp [TmClientState.takeHeader]
    obtain ⟨k, cons, hcons, hcontra⟩ := flagged_contradicts hh hup.check
    have hmem := List.mem_cons_of_mem ((h', .ofHeader header') : Entry)
      ((hw.stored k cons).mp hcons)
    refine .inl ⟨tm.frozen hfrozen (Option.some_ne_none _), ?_⟩
    rcases hcontra with hcontra | hcontra
    · exact ⟨_, hmem, _, List.mem_cons_self, hcontra⟩
    · exact ⟨_, List.mem_cons_self, _, hmem, hcontra⟩
  | false =>
    rw [hup.records]
    refine .inr ?_
    by_cases hnew : s.store.client.clients.consensusState msg.clientId h' = none
    · have hle : cs'.latestHeight ≤ h' := by
        rcases hheader with hflag | hstored | hle
        · exact absurd (hup.check.symm.trans hflag) (by simp)
        · exact absurd hnew hstored
        · exact hle
      exact hw.takeHeader_new (hr.belowLatest iso tm) hcs hup.notFrozen hh hup.check hnew hle
    · exact hw.takeHeader_stored hh hup.check hnew

/-- A message that creates a client or is for another one leaves the record of this one. -/
theorem TmChange.record_eq {c c' : TmClientState.Records} {msg : ClientMsg} {cs : TmClientState}
    (h : TmChange lib c msg c') (hcs : c.clientState id = some cs) (hne : msg.clientOf ≠ some id) :
    c' id = c id := by
  cases h with
  | @created msg new _ _ hnew _ =>
    have hid : id ≠ new := by
      rintro rfl
      rw [hnew] at hcs
      cases hcs
    simp [Clients.storeClientState, Clients.storeConsensusState, hid]
  | header hup =>
    rw [hup.records]
    have hid := Ne.symm (ne_of_apply_ne some hne)
    unfold TmClientState.takeHeader
    split_ifs <;> simp [Clients.storeClientState, Clients.storeConsensusState, hid]
  | frozen _ =>
    have hid := Ne.symm (ne_of_apply_ne some hne)
    simp [Clients.storeClientState, hid]
  | upgraded _ _ _ =>
    have hid := Ne.symm (ne_of_apply_ne some hne)
    simp [Clients.storeClientState, Clients.storeConsensusState, hid]

theorem Watches.of_created (iso : H.Isolated) (tm : H.Tendermint lib) {msg : MsgCreateClient}
    {cs : TmClientState} {cons : TmConsensusState} (hr : Reachable H s)
    (hok : dispatch H (.client (.createClient msg)) s = (.ok (), s'))
    (hnew : s.store.client.clients.clientState id = none)
    (hcs : s'.store.client.clients.clientState id = some cs)
    (hcons : s'.store.client.clients.consensusState id cs.latestHeight = some cons) :
    Watches s'.store.client.clients id [(cs.latestHeight, cons)] := by
  have hchange := tmChange_of_dispatch tm hok
  have hbelow := hr.belowLatest iso tm
  generalize s'.store.client.clients = c' at hcs hcons hchange
  cases hchange with
  | @created _ new cs₀ cons₀ hnew₀ hdecoded =>
    obtain rfl : id = new := by
      by_contra hne
      rw [Clients.clientState_storeConsensusState, Clients.clientState_storeClientState,
        if_neg hne, hnew] at hcs
      cases hcs
    obtain rfl : cs₀ = cs := by simpa using hcs
    obtain rfl : cons₀ = cons := by simpa using hcons
    refine ⟨⟨cs₀, hcs, TmLibrary.frozenHeight_of_clientStateOf hdecoded⟩, fun h cons => ?_, ?_⟩
    · rw [Clients.consensusState_storeConsensusState, Clients.consensusState_storeClientState,
        List.mem_singleton, Prod.mk.injEq]
      -- Nothing was stored for a client that did not exist.
      have hnone : s.store.client.clients.consensusState id h = none := by
        by_contra hsome
        obtain ⟨cons', hcons'⟩ := Option.ne_none_iff_exists'.mp hsome
        obtain ⟨cs', hcs', -⟩ := hbelow id h cons' hcons'
        rw [hnew] at hcs'
        cases hcs'
      split_ifs with heq
      · rw [Option.some.injEq, eq_comm, and_iff_right heq.2]
      · rw [hnone]
        exact iff_of_false (Option.some_ne_none _ ·.symm) fun hmem => heq ⟨rfl, hmem.1⟩
    · rintro ⟨x, hx, y, hy, hxy⟩
      rw [List.mem_singleton.mp hx, List.mem_singleton.mp hy] at hxy
      rcases hxy with ⟨-, hne⟩ | ⟨hlt, -⟩
      · exact hne rfl
      · exact lt_irrefl _ hlt

/-- A client without a frozen height is not frozen. -/
theorem Host.Tendermint.not_frozen (tm : H.Tendermint lib) {cs : TmClientState}
    (hcs : s.store.client.clients.clientState id = some cs) (hnone : cs.frozenHeight = none) :
    ¬ Frozen H s.store id := by
  rintro ⟨cs', hcs', hfrozen⟩
  obtain rfl : cs' = cs := Option.some.inj (hcs'.symm.trans hcs)
  rw [tm.lightClient] at hfrozen
  exact hfrozen (Result.ofExcept_eq_ok.mpr (TmClientState.confirmNotFrozen_eq_ok.mpr hnone))

/-- **A client is frozen exactly when there is evidence**, as long as no header fills a gap. -/
theorem frozen_iff_evidence (iso : H.Isolated) (tm : H.Tendermint lib)
    (h : Updates lib H id (FillsNoGap lib id) E s) : Frozen H s.store id ↔ Evidence E := by
  have hinv : (Frozen H s.store id ∧ Evidence E) ∨ Watches s.store.client.clients id E := by
    induction h with
    | created hr hok hnew hcs hcons => exact .inr (.of_created iso tm hr hok hnew hcs hcons)
    | header hu hok hid hcs hd hh hheader ih =>
      rcases ih with ⟨hfrozen, -⟩ | hw
      · obtain ⟨cs', _, _, _, hup⟩ := updatesTo_of_dispatch tm hok
        subst hid
        exact absurd hfrozen (tm.not_frozen hup.stored hup.notFrozen)
      · exact Updates.watches_of_header tm iso hu.reachable hw hok hid hcs hd hh hheader
    | other hu hs hother ih =>
      rcases ih with ⟨hfrozen, hev⟩ | hw
      · refine .inl ⟨hfrozen.of_about (hs.about_frozen iso ?_ hfrozen), hev⟩
        rw [tm.lightClient]
        exact tmClient_local lib
      · refine .inr ?_
        obtain heq | ⟨msg, rfl, hok, hchange⟩ := hs.tmChange iso tm
        · rwa [heq]
        · obtain ⟨cs, hcs, -⟩ := hw.client
          exact hw.congr (hchange.record_eq hcs (hother msg rfl (congrArg Prod.fst hok)))
  rcases hinv with ⟨hfrozen, hev⟩ | hw
  · exact iff_of_true hfrozen hev
  · obtain ⟨cs, hcs, hnone⟩ := hw.client
    exact iff_of_false (tm.not_frozen hcs hnone) hw.agree

end Updates

/-! ### Forks and late headers -/

namespace TmRun

/-- Two blocks of the sample chain, and the block of a fork. -/
def branches : List TmHeader := [block 10, block 5, forked]

def headerMsg (b : TmHeader) : MsgUpdateClient :=
  ⟨clientId, ⟨"/ibc.lightclients.tendermint.v1.Header", b.encode⟩, MockRun.signer⟩

/-- The client was created and has taken the given headers, the last one first. -/
def taken : List TmHeader → TmCtx Unit
  | [] => (createClient.run (host branches) start).2
  | b :: bs => (dispatch (host branches) (.client (.updateClient (headerMsg b))) (taken bs)).2

variable (ok : TmClientState.Records → TmClientState → TmHeader → Height → Prop) {E : List Entry}

theorem updates_created :
    Updates (library branches) (host branches) clientId ok [(⟨0, 1⟩, consensusState)] (taken []) :=
  .created (s := start) (.init _ rfl rfl)
    (Prod.ext (by decide +kernel : (createClient.run (host branches) start).1 = .ok ()) rfl)
    rfl
    (by decide +kernel : (taken []).store.client.clients.clientState clientId = some clientState)
    (by decide +kernel)

/-- A header that is accepted is one more entry. -/
theorem updates_taken {bs : List TmHeader} (b : TmHeader) (n : ℕ) (cs : TmClientState)
    (hu : Updates (library branches) (host branches) clientId ok E (taken bs))
    (hok : (dispatch (host branches) (.client (.updateClient (headerMsg b))) (taken bs)).1 =
        .ok () ∧
      (taken bs).store.client.clients.clientState clientId = some cs ∧
      (library branches).headerOf (headerMsg b).header = .ok b ∧
      b.height (library branches) = (.ok ⟨0, n⟩ : Result ClientError Height))
    (hheader : ok (taken bs).store.client.clients cs b ⟨0, n⟩) :
    Updates (library branches) (host branches) clientId ok ((⟨0, n⟩, .ofHeader b) :: E)
      (taken (b :: bs)) :=
  .header hu (Prod.ext hok.1 rfl) rfl hok.2.1 hok.2.2.1 hok.2.2.2 hheader

/-- The client once it knows block 10. -/
def clientAtTen : TmClientState := clientState.withHeader ⟨0, 10⟩

end TmRun

section TmRun

open TmRun

/-- Two blocks at one height are evidence, and the client is frozen. -/
theorem fork_freezes : ∃ E s, Updates (library branches) (host branches) clientId
    (FillsNoGap (library branches) clientId) E s ∧
    Evidence E ∧ Frozen (host branches) s.store clientId := by
  have hten := updates_taken _ (block 10) 10 clientState
    (updates_created (FillsNoGap (library branches) clientId)) (by decide +kernel)
    (.inr (.inr (by decide)))
  have hfork := updates_taken _ forked 10 clientAtTen hten (by decide +kernel)
    (.inl (by decide +kernel))
  have hev : Evidence [(⟨0, 10⟩, .ofHeader forked), (⟨0, 10⟩, .ofHeader (block 10)),
    (⟨0, 1⟩, consensusState)] := by decide +kernel
  exact ⟨_, _, hfork, hev,
    (frozen_iff_evidence (host_isolated _) (host_tendermint _) hfork).mpr hev⟩

/-- The blocks of an honest chain, the fifth one after the tenth and then the tenth again: there is
no evidence, and the client is frozen. -/
theorem honest_headers_freeze : ∃ E s, Updates (library branches) (host branches) clientId
    (fun _ _ _ _ => True) E s ∧ ¬ Evidence E ∧ Frozen (host branches) s.store clientId := by
  have hten := updates_taken _ (block 10) 10 clientState (updates_created fun _ _ _ _ => True)
    (by decide +kernel) trivial
  have hfive := updates_taken _ (block 5) 5 clientAtTen hten (by decide +kernel) trivial
  have hagain := updates_taken _ (block 10) 10 clientAtTen hfive (by decide +kernel) trivial
  have hstate : (taken [block 10, block 5, block 10]).store.client.clients.clientState clientId =
    some frozenState := by decide +kernel
  exact ⟨_, _, hagain, by decide +kernel, (host_tendermint _).frozen hstate (by decide)⟩

end TmRun

end Ibc
