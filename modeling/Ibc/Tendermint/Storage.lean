import Ibc.Tendermint.Stored

/-!
# Client states in storage

A host may keep a Tendermint client state as an `Any` and decode it when it is read. The wire form
has marks for what is not set: a frozen height of zero, a trust level of zero over zero, durations
of zero. This module follows a client state from its decoding through all that the client does to
it (`TmClientState.Derived`) and says what is read back.

**`client_state_read_back`**: what is read back is what was written, except that a frozen client
state is refused. The decoder is meant for new clients, which must not be frozen.
-/

namespace Ibc

open Exec

namespace TmClientState

variable {lib : TmLibrary} {cs cs' : TmClientState}

/-- The client state as it is stored or sent. -/
def toAny (cs : TmClientState) : Any :=
  ⟨"/ibc.lightclients.tendermint.v1.ClientState", cs.toRaw.encode⟩

/-- The client states that a client can go through. An upgrade reads its new state off the records
it leaves. -/
inductive Derived (lib : TmLibrary) : TmClientState → Prop where
  | decoded {any : Any} {cs : TmClientState} (h : lib.clientStateOf any = .ok cs) : Derived lib cs
  | withHeader {cs : TmClientState} {header : TmHeader} {height : Height} (h : Derived lib cs)
      (hh : header.HasHeight lib height) : Derived lib (cs.withHeader height)
  | withFrozenHeight {cs : TmClientState} {height : Height} (h : Derived lib cs)
      (hh : height.revisionHeight ≠ 0) : Derived lib (cs.withFrozenHeight height)
  | upgraded {cs cs' : TmClientState} {id : ClientId} {clientState consensusState : Any}
      {c c' : Records} {height : Height} (h : Derived lib cs)
      (hrun : cs.updateStateOnUpgrade lib id clientState consensusState c = (.ok height, c'))
      (hcs' : c'.clientState id = some cs') : Derived lib cs'
  | zeroCustomFields {cs : TmClientState} (h : Derived lib cs) : Derived lib cs.zeroCustomFields

/-- What the decoder checks of a client state, and that a frozen height is a height. -/
structure Storable (lib : TmLibrary) (cs : TmClientState) : Prop where
  chainId : ChainId.fromStr lib.isAlphanumeric cs.chainId.id = .ok cs.chainId
  trustLevel : cs.trustLevel.new = .ok cs.trustLevel
  latestHeight : cs.latestHeight.revisionHeight ≠ 0
  frozenHeight : ∀ h, cs.frozenHeight = some h → h.revisionHeight ≠ 0

end TmClientState

/-! ### The parts of a client state -/

section Parts

theorem ChainId.fromStr_id {alnum : Char → Bool} {s : String} {c : ChainId}
    (h : ChainId.fromStr alnum s = .ok c) : ChainId.fromStr alnum c.id = .ok c := by
  obtain ⟨_, hparse, hc⟩ := Result.bind_eq_ok.mp h
  obtain rfl : (⟨s, _⟩ : ChainId) = c := Except.ok.inj hc
  exact h

theorem TrustThreshold.new_eq_ok {t t' : TrustThreshold} (h : t.new = .ok t') : t = t' := by
  unfold TrustThreshold.new at h
  split_ifs at h
  exact Except.ok.inj h

theorem Height.new_eq_some {n k : ℕ} {h : Height} :
    Height.new n k = some h ↔ k ≠ 0 ∧ h = ⟨n, k⟩ := by
  unfold Height.new
  split_ifs with hk
  · simp [hk]
  · simp [hk, eq_comm]

theorem decodeHeight_height {h : Height} (hh : h.revisionHeight ≠ 0) :
    decodeHeight (some (h.revisionNumber, h.revisionHeight)) = some h :=
  Height.new_eq_some.mpr ⟨hh, rfl⟩

theorem decodeHeight_ne_zero {raw : Option (ℕ × ℕ)} {h : Height}
    (hraw : decodeHeight raw = some h) : h.revisionHeight ≠ 0 := by
  obtain ⟨_, -, hnew⟩ := Option.bind_eq_some_iff.mp hraw
  obtain ⟨hne, rfl⟩ := Height.new_eq_some.mp hnew
  exact hne

theorem decodeDuration_natCast (d : Duration) (e : TmError) :
    decodeDuration (some (d : ℤ)) e = .ok d := by
  simp [decodeDuration, Result.okOr, bind, Except.bind, pure, Except.pure]

theorem TmHeader.HasHeight.ne_zero {lib : TmLibrary} {header : TmHeader} {h : Height}
    (hh : header.HasHeight lib h) : h.revisionHeight ≠ 0 := by
  unfold TmHeader.HasHeight TmHeader.height at hh
  split at hh
  · cases hh
  · split at hh
    · next hnew =>
      obtain rfl := Except.ok.inj hh
      obtain ⟨hne, rfl⟩ := Height.new_eq_some.mp hnew
      exact hne
    · cases hh

end Parts

namespace TmClientState

variable {lib : TmLibrary} {cs cs' : TmClientState}

theorem storable_of_tryFromRaw {raw : RawTmClientState}
    (h : tryFromRaw lib.isAlphanumeric raw = .ok cs) : cs.Storable lib := by
  simp only [tryFromRaw, Result.bind_eq_ok, Result.pure_eq_ok, Result.mapError_eq_ok,
    Result.okOr_eq_ok] at h
  obtain ⟨_, hchain, _, -, _, hlevel, _, -, _, -, _, -, _, hlatest, -, -, rfl⟩ := h
  refine ⟨ChainId.fromStr_id hchain, ?_, decodeHeight_ne_zero hlatest, ?_⟩
  · obtain rfl := TrustThreshold.new_eq_ok hlevel
    exact hlevel
  · intro h hh
    cases hh

theorem storable_of_clientStateOf {any : Any} (h : lib.clientStateOf any = .ok cs) :
    cs.Storable lib := by
  unfold TmLibrary.clientStateOf at h
  split_ifs at h
  obtain ⟨raw, -, hraw⟩ := Result.bind_eq_ok.mp h
  exact storable_of_tryFromRaw (Result.mapError_eq_ok.mp hraw)

/-- The new state of an upgrade has the chain and the height of the upgraded client, which is
decoded, and the trust level of the old one. -/
theorem Storable.upgraded {id : ClientId} {clientState consensusState : Any} {c c' : Records}
    {height : Height} (h : cs.Storable lib)
    (hrun : cs.updateStateOnUpgrade lib id clientState consensusState c = (.ok height, c'))
    (hcs' : c'.clientState id = some cs') : cs'.Storable lib := by
  have hwrites : Ensures (cs.updateStateOnUpgrade lib id clientState consensusState) c
      fun r c' => ∀ height, r = .ok height → ∀ cs', c'.clientState id = some cs' →
        cs'.Storable lib := by
    refine Ensures.ofExcept_bind (fun _ _ _ => nofun) fun upgraded hd => ?_
    refine Ensures.ofExcept_bind (fun _ _ _ => nofun) fun cons _ => ?_
    refine Ensures.ofResult_bind (fun _ _ _ => nofun) fun new hnew => ?_
    intro _ _ cs' hcs'
    obtain ⟨_, -, hnew⟩ := Result.bind_eq_ok.mp (Result.mapErr_eq_ok.mp hnew)
    have hup := storable_of_clientStateOf hd
    obtain rfl : new = cs' := by simpa using hcs'
    obtain rfl := Except.ok.inj hnew
    exact ⟨hup.chainId, h.trustLevel, hup.latestHeight, nofun⟩
  rw [Ensures, hrun] at hwrites
  exact hwrites height rfl cs' hcs'

/-- **Every client state a client can go through is made of what the decoder accepts.** -/
theorem Derived.storable (h : Derived lib cs) : cs.Storable lib := by
  induction h with
  | decoded h => exact storable_of_clientStateOf h
  | @withHeader cs _ height h hh ih =>
    refine ⟨ih.chainId, ih.trustLevel, ?_, ih.frozenHeight⟩
    -- The latest height is one of the two.
    unfold TmClientState.withHeader
    rcases max_choice height cs.latestHeight with heq | heq
    · rw [heq]
      exact hh.ne_zero
    · rw [heq]
      exact ih.latestHeight
  | withFrozenHeight h hh ih =>
    refine ⟨ih.chainId, ih.trustLevel, ih.latestHeight, ?_⟩
    rintro _ ⟨⟩
    exact hh
  | upgraded h hrun hcs' ih => exact ih.upgraded hrun hcs'
  | zeroCustomFields h ih => exact ⟨ih.chainId, rfl, ih.latestHeight, nofun⟩

/-- The wire form of a client state is read as the client state, unless it is frozen. -/
theorem tryFromRaw_toRaw (h : cs.Storable lib) : tryFromRaw lib.isAlphanumeric cs.toRaw =
    if cs.frozenHeight = none then .ok cs else .error .frozenHeightNotAllowed := by
  have hfrozen : decodeHeight cs.toRaw.frozenHeight = cs.frozenHeight := by
    cases hcs : cs.frozenHeight with
    | none => simp [toRaw, hcs, decodeHeight, Height.new]
    | some k =>
      simp only [toRaw, hcs, Option.map_some, Option.getD_some]
      exact decodeHeight_height (h.frozenHeight k hcs)
  have hlatest : decodeHeight cs.toRaw.latestHeight = some cs.latestHeight :=
    decodeHeight_height h.latestHeight
  have hchain : ChainId.fromStr lib.isAlphanumeric cs.toRaw.chainId = .ok cs.chainId := h.chainId
  simp only [tryFromRaw, hchain, hlatest, hfrozen]
  simp only [toRaw, Result.okOr, h.trustLevel, decodeDuration_natCast, Except.mapError,
    Result.ok_bind]
  cases hcs : cs.frozenHeight with
  | none =>
    simp only [Result.ensure, if_true, Result.ok_bind]
    rw [← hcs]
    rfl
  | some k => simp [Result.ensure]

theorem clientStateOf_toAny (h : cs.Storable lib)
    (hprost : lib.decodeClientState cs.toRaw.encode = .ok cs.toRaw) :
    lib.clientStateOf cs.toAny = if cs.frozenHeight = none then .ok cs
      else .error (TmError.frozenHeightNotAllowed.toClient lib) := by
  simp only [TmLibrary.clientStateOf, toAny, if_true, hprost, Result.ok_bind, tryFromRaw_toRaw h]
  split_ifs <;> rfl

end TmClientState

open TmClientState (Derived)

/-- **What is read back is what was written, unless the client is frozen.** The decoder reads every
client state that a client can go through, also one with all custom fields zero, but it refuses the
frozen ones. -/
theorem client_state_read_back {lib : TmLibrary} {cs : TmClientState} (h : Derived lib cs)
    (hprost : lib.decodeClientState cs.toRaw.encode = .ok cs.toRaw) :
    (lib.clientStateOf cs.toAny = .ok cs ↔ cs.frozenHeight = none) ∧
    (cs.frozenHeight ≠ none →
      lib.clientStateOf cs.toAny = .error (TmError.frozenHeightNotAllowed.toClient lib)) := by
  rw [TmClientState.clientStateOf_toAny h.storable hprost]
  constructor
  · split_ifs with hnone
    · exact iff_of_true rfl hnone
    · exact iff_of_false nofun hnone
  · intro hfrozen
    rw [if_neg hfrozen]

namespace TmRun

/-- The sample library, for these client states. -/
def libraryOf (states : List TmClientState) : TmLibrary :=
  { library [block 10] with
    decodeClientState := fun b =>
      Result.okOr ((states.find? fun cs => cs.toRaw.encode = b).map (·.toRaw)) .decode }

/-- The sample client after a header, and then with its custom fields zero. -/
def zeroedState : TmClientState := (validState.withHeader ⟨0, 10⟩).zeroCustomFields

def frozenValidState : TmClientState := validState.withFrozenHeight (Height.min 0)

end TmRun

/-- A client that took a header, as an upgrade proposal stores it, is read back. -/
theorem zeroed_client_read_back :
    TmClientState.Derived (TmRun.libraryOf [TmRun.validState, TmRun.zeroedState])
      TmRun.zeroedState ∧
    (TmRun.libraryOf [TmRun.validState, TmRun.zeroedState]).clientStateOf TmRun.zeroedState.toAny =
      .ok TmRun.zeroedState := by
  have hdecoded : (TmRun.libraryOf [TmRun.validState, TmRun.zeroedState]).clientStateOf
      TmRun.validState.toAny = .ok TmRun.validState := by decide +kernel
  have hheight : (TmRun.block 10).HasHeight
      (TmRun.libraryOf [TmRun.validState, TmRun.zeroedState]) ⟨0, 10⟩ :=
    TmRun.header_hasHeight (n := 10) (by decide) TmRun.validatorsHash []
  have hderived := ((Derived.decoded hdecoded).withHeader hheight).zeroCustomFields
  exact ⟨hderived, (client_state_read_back hderived (by decide +kernel)).1.mpr rfl⟩

/-- A client that is frozen, as misbehaviour leaves it, is not read back. -/
theorem frozen_client_refused :
    TmClientState.Derived (TmRun.libraryOf [TmRun.validState, TmRun.frozenValidState])
      TmRun.frozenValidState ∧
    (TmRun.libraryOf [TmRun.validState, TmRun.frozenValidState]).decodeClientState
      TmRun.frozenValidState.toRaw.encode = .ok TmRun.frozenValidState.toRaw ∧
    (TmRun.libraryOf [TmRun.validState, TmRun.frozenValidState]).clientStateOf
      TmRun.frozenValidState.toAny =
        .error (.clientSpecific "Disallowed to create a new client with a frozen height") := by
  have hdecoded : (TmRun.libraryOf [TmRun.validState, TmRun.frozenValidState]).clientStateOf
      TmRun.validState.toAny = .ok TmRun.validState := by decide +kernel
  refine ⟨(Derived.decoded hdecoded).withFrozenHeight (by decide), ?_, ?_⟩ <;> decide +kernel

end Ibc
