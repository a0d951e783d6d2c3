import Ibc.Tendermint.Update

/-!
# What is stored of a Tendermint client

A client state gets into the store in four ways: a message creates it, and a header, a report of
misbehaviour or an upgrade replaces it (`TmChange.clientState_cases`, `TmClientState.Becomes`). Only
an upgrade goes through the validating constructor. What does this make of the two things the rest
of the core takes for granted about a stored client?

* Its state is valid when the state it was created with is: **`stored_clients_valid`**. Creating a
  client does not check that (`invalid_client_stored`).
* Its latest height has a consensus state, and no greater height has one:
  **`latest_height_backed`**.
-/

namespace Ibc

variable {μ : Type} {lib : TmLibrary}

/-! ### Valid client states -/

namespace TmClientState

/-- The checks of `validate`, one by one. -/
structure Valid (lib : TmLibrary) (cs : TmClientState) : Prop where
  chainIdLength : cs.chainId.validateLength lib.isAlphanumeric 3 maxChainIdLen = .ok ()
  trustLevel : cs.trustLevel ≠ .zero
  admissible : lib.checkTrustThreshold cs.trustLevel = .ok ()
  trustingPeriod : 0 < cs.trustingPeriod
  unbondingPeriod : cs.trustingPeriod < cs.unbondingPeriod
  maxClockDrift : 0 < cs.maxClockDrift
  revision : cs.latestHeight.revisionNumber = cs.chainId.revisionNumber
  proofSpecs : cs.proofSpecs ≠ []
  upgradePath : ∀ key ∈ cs.upgradePath, trim key ≠ ""

theorem blankUpgradeKey_eq_none {path : List String} :
    blankUpgradeKey path = none ↔ ∀ key ∈ path, trim key ≠ "" := by
  simp [blankUpgradeKey, List.findIdx?_eq_none_iff]

theorem validate_eq_ok {cs : TmClientState} : cs.validate lib = .ok () ↔ cs.Valid lib := by
  have hkeys : blankUpgradeKey cs.upgradePath = none ↔ ∀ key ∈ cs.upgradePath, trim key ≠ "" :=
    blankUpgradeKey_eq_none
  constructor
  · intro h
    simp only [validate, Result.bind_eq_ok, Result.mapErr_eq_ok, Result.require_eq_ok,
      Result.ofExcept_eq_ok] at h
    obtain ⟨_, hlen, _, hzero, _, hadm, _, htrust, _, -, _, hunb, _, hdrift, _, hrev, _, hspecs,
      hlast⟩ := h
    refine ⟨hlen, hzero, hadm, htrust, hunb, hdrift, hrev, hspecs, hkeys.mp ?_⟩
    split at hlast
    · assumption
    · cases hlast
  · intro h
    simp only [validate, Result.bind_eq_ok, Result.mapErr_eq_ok, Result.require_eq_ok,
      Result.ofExcept_eq_ok, hkeys.mpr h.upgradePath]
    exact ⟨_, h.chainIdLength, (), h.trustLevel, _, h.admissible, (), h.trustingPeriod, (),
      h.trustingPeriod.trans h.unbondingPeriod, (), h.unbondingPeriod, (), h.maxClockDrift, (),
      h.revision, (), h.proofSpecs, rfl⟩

/-- What a message can make of a stored client state. -/
inductive Becomes (lib : TmLibrary) (cs : TmClientState) : TmClientState → Prop where
  | header {height : Height} (hrev : height.revisionNumber = cs.chainId.revisionNumber) :
      Becomes lib cs (cs.withHeader height)
  | frozen : Becomes lib cs (cs.withFrozenHeight (Height.min 0))
  | upgraded {cs' : TmClientState} (hlt : cs.latestHeight < cs'.latestHeight)
      (hvalid : cs'.validate lib = .ok ()) : Becomes lib cs cs'

theorem Becomes.latestHeight_le {cs cs' : TmClientState} (h : Becomes lib cs cs') :
    cs.latestHeight ≤ cs'.latestHeight := by
  cases h with
  | header _ => exact le_max_right _ _
  | frozen => exact le_rfl
  | upgraded hlt _ => exact hlt.le

theorem Becomes.valid {cs cs' : TmClientState} (h : Becomes lib cs cs') (hv : cs.Valid lib) :
    cs'.Valid lib := by
  cases h with
  | header hrev =>
    -- Both heights are of the revision in the chain id, and so is the later one.
    refine { hv with revision := ?_ }
    rcases max_choice (α := Height) _ cs.latestHeight with hmax | hmax
    · exact (congrArg Height.revisionNumber hmax).trans hrev
    · exact (congrArg Height.revisionNumber hmax).trans hv.revision
  | frozen => exact { hv with }
  | upgraded _ hvalid => exact validate_eq_ok.mp hvalid

end TmClientState

/-! ### What a change does to one client -/

section Change

variable {c c' : TmClientState.Records} {msg : ClientMsg}

/-- The header of an accepted update is of the revision in the client's chain id. -/
theorem UpdatesTo.revision {msg : MsgUpdateClient} {cs : TmClientState} {header : TmHeader}
    {height : Height} {flagged : Bool} (h : UpdatesTo lib c msg cs header height flagged c') :
    height.revisionNumber = cs.chainId.revisionNumber := by
  obtain ⟨now, hverify⟩ := h.verified
  obtain ⟨_, -, hverify⟩ := Result.bind_eq_ok.mp hverify
  obtain ⟨_, hmatch, -⟩ := Result.bind_eq_ok.mp hverify
  obtain ⟨height', hheight', hrev⟩ := Result.bind_eq_ok.mp (Result.mapErr_eq_ok.mp hmatch)
  obtain rfl : height' = height := Except.ok.inj (hheight'.symm.trans h.hasHeight.eq_ok)
  exact Result.require_eq_ok.mp hrev

/-- A change leaves the state of a client, creates it, or makes another one of it. -/
theorem TmChange.clientState_cases (h : TmChange lib c msg c') (id : ClientId) :
    c'.clientState id = c.clientState id ∨
      (∃ m cs, msg = .createClient m ∧ lib.clientStateOf m.clientState = .ok cs ∧
        c.clientState id = none ∧ c'.clientState id = some cs) ∨
      ∃ cs cs', c.clientState id = some cs ∧ c'.clientState id = some cs' ∧
        cs.Becomes lib cs' := by
  cases h with
  | @created m new cs cons hnew hcs =>
    by_cases hid : id = new
    · subst hid
      exact .inr (.inl ⟨m, cs, rfl, hcs, hnew, by simp⟩)
    · exact .inl (by simp [hid])
  | @header m cs header height flagged _ hup =>
    by_cases hid : id = m.clientId
    · subst hid
      rw [hup.records]
      unfold TmClientState.takeHeader
      split_ifs
      · exact .inr (.inr ⟨cs, _, hup.stored, by simp, .frozen⟩)
      · exact .inl rfl
      · exact .inr (.inr ⟨cs, _, hup.stored, by simp, .header hup.revision⟩)
    · rw [hup.records]
      unfold TmClientState.takeHeader
      split_ifs <;> exact .inl (by simp [hid])
  | @frozen m cs hcs =>
    by_cases hid : id = m.clientId
    · subst hid
      exact .inr (.inr ⟨cs, _, hcs, by simp, .frozen⟩)
    · exact .inl (by simp [hid])
  | @upgraded m cs cs' cons hcs hlt hvalid =>
    by_cases hid : id = m.clientId
    · subst hid
      exact .inr (.inr ⟨cs, cs', hcs, by simp, .upgraded hlt hvalid⟩)
    · exact .inl (by simp [hid])

end Change

/-! ### All stored client states are valid -/

/-- Every stored client state passes `validate`. -/
def AllValid (lib : TmLibrary) (c : TmClientState.Records) : Prop :=
  ∀ id cs, c.clientState id = some cs → cs.validate lib = .ok ()

/-- A message that creates a client brings a valid client state. -/
def ClientMsg.CreatesValid (lib : TmLibrary) (msg : ClientMsg) : Prop :=
  ∀ m cs, msg = .createClient m → lib.clientStateOf m.clientState = .ok cs →
    cs.validate lib = .ok ()

/-- The condition on an input. -/
def Input.CreatesValid (lib : TmLibrary) (i : Input TmConsensusState μ) : Prop :=
  ∀ msg, i = .dispatch (.client msg) → msg.CreatesValid lib

theorem TmChange.allValid_iff {c c' : TmClientState.Records} {msg : ClientMsg}
    (h : TmChange lib c msg c') (hv : AllValid lib c) :
    AllValid lib c' ↔ msg.CreatesValid lib := by
  constructor
  · intro hv' m cs hmsg hcs
    subst hmsg
    cases h with
    | @created _ id cs₀ _ hnew hcs₀ =>
      obtain rfl : cs₀ = cs := Except.ok.inj (hcs₀.symm.trans hcs)
      exact hv' id cs₀ (by simp)
  · intro hmsg id cs' hcs'
    obtain heq | ⟨m, cs, rfl, hdec, -, hcs⟩ | ⟨cs, cs₁, hcs, hcs₁, hbec⟩ := h.clientState_cases id
    · exact hv id cs' (heq ▸ hcs')
    · obtain rfl : cs = cs' := Option.some.inj (hcs.symm.trans hcs')
      exact hmsg m cs rfl hdec
    · obtain rfl : cs₁ = cs' := Option.some.inj (hcs₁.symm.trans hcs')
      exact TmClientState.validate_eq_ok.mpr
        (hbec.valid (TmClientState.validate_eq_ok.mp (hv id cs hcs)))

section Runs

variable {H : TmHost μ} {s s' : TmCtx μ}
  {i : Input TmConsensusState μ}

theorem Step.allValid_iff (iso : H.Isolated) (tm : H.Tendermint lib) (hs : Step H i s s')
    (hv : AllValid lib s.store.client.clients) :
    AllValid lib s'.store.client.clients ↔
      ∀ msg, i = .dispatch (.client msg) → (dispatch H (.client msg) s).1 = .ok () →
        msg.CreatesValid lib := by
  constructor
  · rintro hv' msg rfl hok
    obtain ⟨r, hrun, -⟩ := hs
    obtain rfl : r = .ok () := (congrArg Prod.fst hrun).symm.trans hok
    exact ((tmChange_of_dispatch tm hrun).allValid_iff hv).mp hv'
  · intro hi
    obtain heq | ⟨msg, rfl, hok, hchange⟩ := hs.tmChange iso tm
    · rwa [heq]
    · exact (hchange.allValid_iff hv).mpr (hi msg rfl (congrArg Prod.fst hok))

/-- **Stored client states are valid** in every run whose created clients are. And a client that is
created with a client state that is not valid is stored all the same: one step keeps all stored
client states valid exactly when it does not create such a client. -/
theorem stored_clients_valid (iso : H.Isolated) (tm : H.Tendermint lib) :
    (∀ s, ReachableBy H (Input.CreatesValid lib) s → AllValid lib s.store.client.clients) ∧
    ∀ i s s', AllValid lib s.store.client.clients → Step H i s s' →
      (AllValid lib s'.store.client.clients ↔
        ∀ msg, i = .dispatch (.client msg) → (dispatch H (.client msg) s).1 = .ok () →
          msg.CreatesValid lib) := by
  refine ⟨fun s h => ?_, fun i s s' hv hs => hs.allValid_iff iso tm hv⟩
  induction h with
  | init s hst _ =>
    intro id cs hcs
    rw [hst] at hcs
    cases hcs
  | step i _ hok hs ih => exact (hs.allValid_iff iso tm ih).mpr fun msg hi _ => hok msg hi

end Runs

namespace TmRun

open Proto

/-- The proof specs of a chain that keeps its stores in IAVL trees under a simple Merkle tree. -/
def iavlSpec : Bytes :=
  messageField 0x0a (varintField 0x08 1 ++ varintField 0x18 1 ++ varintField 0x20 1 ++
    bytesField 0x2a [0]) ++
  messageField 0x12 (bytesField 0x0a [0, 1] ++ varintField 0x10 33 ++ varintField 0x18 4 ++
    varintField 0x20 12 ++ varintField 0x30 1)

def tendermintSpec : Bytes :=
  messageField 0x0a (varintField 0x08 1 ++ varintField 0x18 1 ++ varintField 0x20 1 ++
    bytesField 0x2a [0]) ++
  messageField 0x12 (bytesField 0x0a [0, 1] ++ varintField 0x10 32 ++ varintField 0x18 1 ++
    varintField 0x20 1 ++ varintField 0x30 1)

/-- The sample client state with all its parameters set. -/
def validState : TmClientState :=
  { clientState with
    proofSpecs := [iavlSpec, tendermintSpec]
    upgradePath := ["upgrade", "upgradedIBCState"] }

/-- The sample library, for a chain with this client state. -/
def libraryFor (cs : TmClientState) : TmLibrary :=
  { library [block 10] with
    decodeClientState := fun b => if b = cs.toRaw.encode then .ok cs.toRaw else .error .decode }

def hostFor (cs : TmClientState) : TmHost Unit :=
  { host [] with
    lightClient := tmClient (libraryFor cs)
    decodeClientState := fun any =>
      Result.ofExcept .clientError ((libraryFor cs).clientStateOf any) }

theorem hostFor_isolated (cs : TmClientState) : (hostFor cs).Isolated := host_isolated []

theorem hostFor_tendermint (cs : TmClientState) : (hostFor cs).Tendermint (libraryFor cs) :=
  ⟨rfl, fun _ => rfl⟩

def createMsg (cs : TmClientState) : MsgCreateClient :=
  ⟨⟨"/ibc.lightclients.tendermint.v1.ClientState", cs.toRaw.encode⟩,
    ⟨"/ibc.lightclients.tendermint.v1.ConsensusState", consensusState.encode⟩, MockRun.signer⟩

def create (cs : TmClientState) : Input TmConsensusState Unit :=
  .dispatch (.client (.createClient (createMsg cs)))

end TmRun

section TmRun

open TmRun

/-- A client with a valid client state can be created, and is stored so. -/
theorem valid_client_stored : ∃ s, ReachableBy (hostFor validState)
    (Input.CreatesValid (libraryFor validState)) s ∧
    s.store.client.clients.clientState clientId = some validState ∧
    validState.validate (libraryFor validState) = .ok () := by
  have hvalid : (create validState).CreatesValid (libraryFor validState) := by
    rintro _ ⟨⟩ _ cs ⟨⟩ hcs
    obtain rfl : validState = cs := Except.ok.inj
      ((by decide +kernel :
        (libraryFor validState).clientStateOf (createMsg validState).clientState =
        .ok validState).symm.trans hcs)
    decide +kernel
  have hstep : Step (hostFor validState) (create validState) start
      ((create validState).run (hostFor validState) start).2 :=
    ⟨.ok (), Prod.ext (by decide +kernel) rfl, Result.returns_ok⟩
  have hs := ReachableBy.step _ (.init start rfl rfl) hvalid hstep
  have hcs : ((create validState).run (hostFor validState) start).2.store.client.clients.clientState
    clientId = some validState := by decide +kernel
  exact ⟨_, hs, hcs,
    (stored_clients_valid (hostFor_isolated _) (hostFor_tendermint _)).1 _ hs _ _ hcs⟩

/-- A client without proof specs is created and stored. -/
theorem invalid_client_stored : ∃ s, Reachable (hostFor clientState) s ∧
    s.store.client.clients.clientState clientId = some clientState ∧
    clientState.validate (libraryFor clientState) ≠ .ok () := by
  obtain ⟨s, hs, hcs⟩ := Reachable.exists_of_runAll (H := hostFor clientState) (s := start)
    [create clientState] (·.store.client.clients.clientState clientId) rfl rfl
    (by decide +kernel : _ = some (some clientState))
  exact ⟨s, hs, hcs, by decide +kernel⟩

end TmRun

/-! ### The latest height -/

/-- Every client has a consensus state at its latest height. -/
def Backed (c : TmClientState.Records) : Prop :=
  ∀ id cs, c.clientState id = some cs → c.consensusState id cs.latestHeight ≠ none

section Backed

variable {c c' : TmClientState.Records} {id : ClientId} {cs cs' : TmClientState}
  {cons : TmConsensusState}

/-- A client state can be replaced by one with the same latest height. -/
theorem Backed.storeClientState (hc : Backed c) (hcs : c.clientState id = some cs)
    (heq : cs'.latestHeight = cs.latestHeight) : Backed (c.storeClientState id cs') := by
  intro id' cs₁ hcs₁
  rw [Clients.consensusState_storeClientState]
  rw [Clients.clientState_storeClientState] at hcs₁
  split_ifs at hcs₁ with hid
  · obtain rfl := Option.some.inj hcs₁
    rw [hid, heq]
    exact hc id cs hcs
  · exact hc id' cs₁ hcs₁

/-- Both records of a client, written at its latest height. -/
theorem Backed.storeBoth (hc : Backed c) (cs : TmClientState) :
    Backed ((c.storeClientState id cs).storeConsensusState id cs.latestHeight cons) := by
  intro id' cs₁ hcs₁
  rw [Clients.clientState_storeConsensusState, Clients.clientState_storeClientState] at hcs₁
  rw [Clients.consensusState_storeConsensusState, Clients.consensusState_storeClientState]
  split_ifs at hcs₁ with hid
  · obtain rfl := Option.some.inj hcs₁
    simp [hid]
  · rw [if_neg fun h => hid h.1]
    exact hc id' cs₁ hcs₁

theorem TmChange.backed {msg : ClientMsg} (h : TmChange lib c msg c') (hc : Backed c) :
    Backed c' := by
  cases h with
  | created _ _ => exact hc.storeBoth _
  | header hup =>
    rw [hup.records]
    unfold TmClientState.takeHeader
    split_ifs
    · exact hc.storeClientState hup.stored rfl
    · exact hc
    · rw [Clients.storeClientState_storeConsensusState]
      exact hc.storeBoth (TmClientState.withHeader _ _)
  | frozen hcs => exact hc.storeClientState hcs rfl
  | upgraded _ _ _ => exact hc.storeBoth _

/-- A change never takes a client's latest height back. -/
theorem TmChange.latestHeight_le {msg : ClientMsg} (h : TmChange lib c msg c')
    (hcs : c.clientState id = some cs) :
    ∃ cs', c'.clientState id = some cs' ∧ cs.latestHeight ≤ cs'.latestHeight := by
  obtain heq | ⟨_, _, -, -, hnew, -⟩ | ⟨cs₁, cs', hcs₁, hcs', hbec⟩ := h.clientState_cases id
  · exact ⟨cs, heq.trans hcs, le_rfl⟩
  · exact absurd (hnew.symm.trans hcs) (Option.some_ne_none _ ·.symm)
  · obtain rfl : cs₁ = cs := Option.some.inj (hcs₁.symm.trans hcs)
    exact ⟨cs', hcs', hbec.latestHeight_le⟩

end Backed

section Runs

variable {H : TmHost μ} {s s' : TmCtx μ}

theorem Reachable.backed (iso : H.Isolated) (tm : H.Tendermint lib) (h : Reachable H s) :
    Backed s.store.client.clients := by
  induction h with
  | init s hst _ =>
    intro id cs hcs
    rw [hst] at hcs
    cases hcs
  | step i _ hs ih =>
    obtain heq | ⟨msg, -, -, hchange⟩ := hs.tmChange iso tm
    · rwa [heq]
    · exact hchange.backed ih

theorem Run.latestHeight_le (iso : H.Isolated) (tm : H.Tendermint lib) (h : Run H s s')
    {id : ClientId} {cs : TmClientState} (hcs : s.store.client.clients.clientState id = some cs) :
    ∃ cs', s'.store.client.clients.clientState id = some cs' ∧
      cs.latestHeight ≤ cs'.latestHeight := by
  induction h with
  | refl => exact ⟨cs, hcs, le_rfl⟩
  | step i _ hs ih =>
    obtain ⟨cs₁, hcs₁, hle⟩ := ih
    obtain heq | ⟨msg, -, -, hchange⟩ := hs.tmChange iso tm
    · exact ⟨cs₁, heq ▸ hcs₁, hle⟩
    · obtain ⟨cs', hcs', hle'⟩ := hchange.latestHeight_le hcs₁
      exact ⟨cs', hcs', hle.trans hle'⟩

/-- **The latest height of a client is backed.** A consensus state is stored there and at no greater
height; the latest height never goes back, and an upgrade takes it forward. So the lookup that
`sendPacketValidate` and `upgradeClientValidate` make finds a consensus state for every client that
is there. -/
theorem latest_height_backed (iso : H.Isolated) (tm : H.Tendermint lib) :
    (∀ s id cs, Reachable H s → s.store.client.clients.clientState id = some cs →
      (∃ cons, s.store.client.clients.consensusState id cs.latestHeight = some cons) ∧
      ∀ h, cs.latestHeight < h → s.store.client.clients.consensusState id h = none) ∧
    (∀ s s' id cs, Run H s s' → s.store.client.clients.clientState id = some cs →
      ∃ cs', s'.store.client.clients.clientState id = some cs' ∧
        cs.latestHeight ≤ cs'.latestHeight) ∧
    (∀ s s' msg, dispatch H (.client (.upgradeClient msg)) s = (.ok (), s') →
      ∃ cs cs', s.store.client.clients.clientState msg.clientId = some cs ∧
        s'.store.client.clients.clientState msg.clientId = some cs' ∧
        cs.latestHeight < cs'.latestHeight) ∧
    ∀ s id cs, Reachable H s → s.clientState id = .ok cs →
      ∃ cons, s.consensusState id (H.lightClient.latestHeight cs) = .ok cons := by
  refine ⟨fun s id cs hr hcs => ⟨?_, fun h hlt => ?_⟩,
    fun s s' id cs hrun hcs => hrun.latestHeight_le iso tm hcs, fun s s' msg hok => ?_,
    fun s id cs hr hcs => ?_⟩
  · exact Option.ne_none_iff_exists'.mp (hr.backed iso tm id cs hcs)
  · by_contra hsome
    obtain ⟨cons, hcons⟩ := Option.ne_none_iff_exists'.mp hsome
    obtain ⟨cs', hcs', hle⟩ := hr.belowLatest iso tm id h cons hcons
    obtain rfl : cs' = cs := Option.some.inj (hcs'.symm.trans hcs)
    exact absurd hlt (not_lt.mpr hle)
  · have hchange := tmChange_of_dispatch tm hok
    generalize s'.store.client.clients = c' at hchange
    cases hchange with
    | @upgraded _ cs cs' _ hcs hlt _ => exact ⟨cs, cs', hcs, by simp, hlt⟩
  · have hcs := Result.okOr_eq_ok.mp hcs
    obtain ⟨cons, hcons⟩ := Option.ne_none_iff_exists'.mp (hr.backed iso tm id cs hcs)
    rw [tm.lightClient]
    exact ⟨cons, Result.okOr_eq_ok.mpr hcons⟩

end Runs

/-- The latest height of the sample client is backed, before and after the header of block 10. -/
theorem TmRun.latest_height_backed_sample : ∃ s s', Reachable (host blocks) s ∧
    s.store.client.clients.clientState clientId = some clientState ∧
    (∃ cons, s.store.client.clients.consensusState clientId ⟨0, 1⟩ = some cons) ∧
    s.store.client.clients.consensusState clientId ⟨0, 10⟩ = none ∧
    Run (host blocks) s s' ∧
    ∃ cs', s'.store.client.clients.clientState clientId = some cs' ∧
      (⟨0, 1⟩ : Height) ≤ cs'.latestHeight := by
  obtain ⟨s, hs, h⟩ := Reachable.exists_of_runAll (H := host blocks) (s := start) [createClient]
    (fun s => (s.store.client.clients.clientState clientId, ((update 10).run (host blocks) s).1))
    rfl rfl (by decide +kernel : _ = some (some clientState, .ok ()))
  have hcs := congrArg Prod.fst h
  have hbacked := latest_height_backed (host_isolated blocks) (host_tendermint blocks)
  have hrun : Run (host blocks) s ((update 10).run (host blocks) s).2 :=
    .step (update 10) .refl ⟨.ok (), Prod.ext (congrArg Prod.snd h) rfl, Result.returns_ok⟩
  exact ⟨s, _, hs, hcs, (hbacked.1 s clientId clientState hs hcs).1,
    (hbacked.1 s clientId clientState hs hcs).2 ⟨0, 10⟩ (by decide), hrun,
    hbacked.2.1 s _ clientId clientState hrun hcs⟩

end Ibc
