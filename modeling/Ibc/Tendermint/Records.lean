import Ibc.Protocol.FailSafe
import Ibc.Tendermint.VerifyHeader

/-!
# What a step does to the records of Tendermint clients

`TmChange` lists what a message can do to the client records: create a client, take a header, freeze
a client, upgrade it, or nothing. **`Step.tmChange`** says that the list is complete for a host
whose light client is the Tendermint client, and `UpdatesTo` is the exact outcome of an accepted
header.

Two facts about the records follow: every stored consensus state belongs to a client and is at or
below its latest height (`Reachable.belowLatest`), and a client's operations check before they write
(`tmClient_failSafe`).
-/

namespace Ibc

open Exec

variable {μ : Type} {lib : TmLibrary}

/-- The records after an accepted header. A flagged header freezes the client. A header at a height
that has a consensus state changes nothing. -/
def TmClientState.takeHeader (c : TmClientState.Records) (id : ClientId) (cs : TmClientState)
    (header : TmHeader) (height : Height) (flagged : Bool) : TmClientState.Records :=
  if flagged then c.storeClientState id (cs.withFrozenHeight (Height.min 0))
  else if c.consensusState id height ≠ none then c
  else
    (c.storeConsensusState id (max height cs.latestHeight) (.ofHeader header)).storeClientState id
    (cs.withHeader height)

/-- The message was taken as the header of its client, at this height, and flagged or not. -/
structure UpdatesTo (lib : TmLibrary) (c : TmClientState.Records) (msg : MsgUpdateClient)
    (cs : TmClientState) (header : TmHeader) (height : Height) (flagged : Bool)
    (c' : TmClientState.Records) : Prop where
  stored : c.clientState msg.clientId = some cs
  notFrozen : cs.frozenHeight = none
  decoded : lib.headerOf msg.header = .ok header
  hasHeight : header.HasHeight lib height
  verified : ∃ now, cs.verifyHeader lib c now msg.clientId header = .ok ()
  check : cs.checkForMisbehaviourUpdateClient lib c msg.clientId header = .ok flagged
  records : c' = TmClientState.takeHeader c msg.clientId cs header height flagged

/-- What a message for a client does to the client records when it succeeds. -/
inductive TmChange (lib : TmLibrary) (c : TmClientState.Records) :
    ClientMsg → TmClientState.Records → Prop where
  | created {msg : MsgCreateClient} {id : ClientId} {cs : TmClientState} {cons : TmConsensusState}
      (hnew : c.clientState id = none) (hcs : lib.clientStateOf msg.clientState = .ok cs) :
      TmChange lib c (.createClient msg)
        ((c.storeClientState id cs).storeConsensusState id cs.latestHeight cons)
  | header {msg : MsgUpdateClient} {cs : TmClientState} {header : TmHeader} {height : Height}
      {flagged : Bool} {c' : TmClientState.Records}
      (h : UpdatesTo lib c msg cs header height flagged c') : TmChange lib c (.updateClient msg) c'
  | frozen {msg : MsgSubmitMisbehaviour} {cs : TmClientState}
      (hcs : c.clientState msg.clientId = some cs) :
      TmChange lib c (.misbehaviour msg)
        (c.storeClientState msg.clientId (cs.withFrozenHeight (Height.min 0)))
  | upgraded {msg : MsgUpgradeClient} {cs cs' : TmClientState} {cons : TmConsensusState}
      (hcs : c.clientState msg.clientId = some cs) (hlt : cs.latestHeight < cs'.latestHeight)
      (hvalid : cs'.validate lib = .ok ()) :
      TmChange lib c (.upgradeClient msg)
        ((c.storeClientState msg.clientId cs').storeConsensusState msg.clientId cs'.latestHeight
          cons)

/-! ### The client's operations -/

section Operations

variable {c : TmClientState.Records} {id : ClientId} {cs : TmClientState} {msg : Any}

theorem initialise_ensures {cons : Any} : Ensures (cs.initialise lib id cons) c fun r c' =>
    r = .ok () →
      ∃ cons', c' = (c.storeClientState id cs).storeConsensusState id cs.latestHeight cons' :=
  Ensures.ofExcept_bind (fun _ _ h => nomatch h) fun cons' _ => fun _ => ⟨cons', rfl⟩

/-- An update that succeeds takes the header, and the height it names is the header's. -/
theorem updateState_ensures : Ensures (cs.updateState lib id msg) c fun r c' =>
    ∀ heights, r = .ok heights → ∃ header height, lib.headerOf msg = .ok header ∧
      header.HasHeight lib height ∧ heights = [height] ∧
      c' = TmClientState.takeHeader c id cs header height false := by
  refine Ensures.ofExcept_bind (fun _ _ _ h => nomatch h) fun header hd => ?_
  refine Ensures.ofResult_bind (fun _ _ _ h => nomatch h) fun height hh => ?_
  refine ensures_read_bind (Ensures.ite (fun hex => ?_) fun hex => ?_)
  · rintro _ ⟨⟩
    exact ⟨header, height, hd, hh, rfl, (if_pos hex).symm⟩
  · rintro _ ⟨⟩
    exact ⟨header, height, hd, hh, rfl, (if_neg hex).symm⟩

theorem updateStateOnUpgrade_ensures {clientState consensusState : Any} :
    Ensures (cs.updateStateOnUpgrade lib id clientState consensusState) c fun r c' =>
      ∀ h, r = .ok h → ∃ upgraded cs' cons, lib.clientStateOf clientState = .ok upgraded ∧
        cs'.latestHeight = upgraded.latestHeight ∧ cs'.validate lib = .ok () ∧
        c' = (c.storeClientState id cs').storeConsensusState id cs'.latestHeight cons := by
  refine Ensures.ofExcept_bind (fun _ _ _ h => nomatch h) fun upgraded hd => ?_
  refine Ensures.ofExcept_bind (fun _ _ _ h => nomatch h) fun cons _ => ?_
  refine Ensures.ofResult_bind (fun _ _ _ h => nomatch h) fun cs' hnew => ?_
  obtain ⟨_, hvalid, hcs'⟩ := Result.bind_eq_ok.mp (Result.mapErr_eq_ok.mp hnew)
  have hcs' := Except.ok.inj hcs'
  have hlatest := congrArg TmClientState.latestHeight hcs'
  exact fun _ _ => ⟨upgraded, cs', _, hd, hlatest.symm, hcs' ▸ hvalid, rfl⟩

end Operations

/-- The client's operations check before they write, and an update names a height. -/
theorem tmClient_failSafe (lib : TmLibrary) : (tmClient lib).FailSafe where
  initialise _ _ _ _ :=
    Ensures.ofExcept_bind (fun _ _ _ _ => rfl) fun _ _ => fun _ h => nomatch h
  updateState cs id msg c := by
    refine Ensures.ofExcept_bind (fun _ _ _ _ => rfl) fun header _ => ?_
    refine Ensures.ofResult_bind (fun _ _ _ _ => rfl) fun height _ => ?_
    exact ensures_read_bind
      (Ensures.ite (fun _ => fun _ h => nomatch h) fun _ => fun _ h => nomatch h)
  updateStateOnMisbehaviour _ _ _ _ _ := fun _ h => nomatch h
  updateStateOnUpgrade _ _ _ _ _ := by
    refine Ensures.ofExcept_bind (fun _ _ _ _ => rfl) fun _ _ => ?_
    refine Ensures.ofExcept_bind (fun _ _ _ _ => rfl) fun _ _ => ?_
    exact Ensures.ofResult_bind (fun _ _ _ _ => rfl) fun _ _ => fun _ h => nomatch h
  names_height cs id msg c h := by
    obtain ⟨_, _, -, -, hheights, -⟩ := updateState_ensures [] h
    cases hheights

/-! ### The messages for clients -/

/-- The host's clients are Tendermint clients. -/
structure Host.Tendermint (lib : TmLibrary) (H : TmHost μ) : Prop where
  lightClient : H.lightClient = tmClient lib
  decodeClientState : ∀ any,
    H.decodeClientState any = Result.ofExcept .clientError (lib.clientStateOf any)

theorem TmLibrary.frozenHeight_of_clientStateOf {any : Any} {cs : TmClientState}
    (h : lib.clientStateOf any = .ok cs) : cs.frozenHeight = none := by
  unfold clientStateOf at h
  split at h
  · obtain ⟨raw, -, hraw⟩ := Result.bind_eq_ok.mp h
    exact TmClientState.frozenHeight_of_tryFromRaw (Result.mapError_eq_ok.mp hraw)
  · cases h

theorem TmClientState.confirmNotFrozen_eq_ok {cs : TmClientState} :
    cs.confirmNotFrozen = .ok () ↔ cs.frozenHeight = none := by
  unfold confirmNotFrozen
  split <;> simp_all

section Messages

variable {H : TmHost μ} {s : TmCtx μ}

/-- The records a handler leaves: those of a success, or the old ones. -/
def EndsInChange (lib : TmLibrary) (c : TmClientState.Records) (msg : ClientMsg) :
    Result ContextError Unit → TmCtx μ → Prop
  | .ok _, s' => TmChange lib c msg s'.store.client.clients
  | .error (.err _), s' => s'.store.client.clients = c
  | .error (.panic _), _ => True

theorem EndsInChange.error {msg : ClientMsg} {e : Fault ContextError} :
    EndsInChange lib s.store.client.clients msg (.error e) s := by
  cases e with
  | err e => exact rfl
  | panic _ => exact trivial

/-- The rule for an operation of the client that fails safely. -/
theorem runClient_endsInChange {α : Type} {x : Exec TmClientState.Records ClientError α}
    {f : α → Handler TmClientState TmConsensusState μ Unit} {msg : ClientMsg}
    {P : Result ClientError α → TmClientState.Records → Prop} (hx : x.Atomic)
    (hP : Ensures x s.store.client.clients P)
    (hf : ∀ a c, P (.ok a) c → Ensures (f a) (s.onClient fun cl => { cl with clients := c })
      (EndsInChange lib s.store.client.clients msg)) :
    Ensures (runClient x >>= f) s (EndsInChange lib s.store.client.clients msg) := by
  refine ensures_runClient (fun e c hr => ?_) (fun _ _ => trivial) fun a c hr => hf a c ?_
  · have hatomic := hx s.store.client.clients
    rw [Ensures, hr] at hatomic
    exact hatomic e rfl
  · rw [Ensures, hr] at hP
    exact hP

theorem createClient_endsInChange (tm : H.Tendermint lib) {msg : MsgCreateClient}
    (hv : createClientValidate H s msg = .ok ()) :
    Ensures (createClientExecute H msg) s
      (EndsInChange lib s.store.client.clients (.createClient msg)) := by
  simp only [createClientValidate, Result.bind_eq_ok, lift_client_eq_ok, lift_context_eq_ok,
    Result.ensure_eq_ok] at hv
  obtain ⟨-, -, cs, hcs, -, -, id, hid, hnew⟩ := hv
  have hdecoded : lib.clientStateOf msg.clientState = .ok cs := by
    rwa [tm.decodeClientState, Result.ofExcept_eq_ok] at hcs
  unfold createClientExecute
  refine ensures_read_bind (Ensures.ofResult_bind (fun _ _ => .error) fun cs' hcs' => ?_)
  obtain rfl : cs' = cs := Except.ok.inj (hcs'.symm.trans hcs)
  refine Ensures.ofExcept_ok_bind hid ?_
  rw [tm.lightClient]
  refine runClient_endsInChange ((tmClient_failSafe lib).initialise _ _ _) initialise_ensures
    fun _ c hc => ?_
  obtain ⟨cons, rfl⟩ := hc rfl
  refine ensures_write_bind (ensures_write_bind ?_)
  simp only [increaseClientCounter, Exec.bind_assoc]
  exact ensures_read_bind (Ensures.addU64_bind trivial fun _ => .created hnew hdecoded)

theorem updateClient_endsInChange (tm : H.Tendermint lib) {msg : MsgUpdateClient}
    (hv : updateClientValidate H s msg.toUpdate = .ok ()) :
    Ensures (updateClientExecute H msg.toUpdate) s
      (EndsInChange lib s.store.client.clients (.updateClient msg)) := by
  simp only [updateClientValidate, Result.bind_eq_ok, lift_client_eq_ok, lift_result_client_eq_ok,
    tm.lightClient] at hv
  obtain ⟨-, -, cs, hcs, _, hfrozen, hverify⟩ := hv
  have hfrozen : cs.frozenHeight = none :=
    TmClientState.confirmNotFrozen_eq_ok.mp (Result.ofExcept_eq_ok.mp hfrozen)
  unfold updateClientExecute
  refine ensures_read_bind (Ensures.ofExcept_bind (fun _ _ => .error) fun cs' hcs' => ?_)
  obtain rfl : cs' = cs := Except.ok.inj (hcs'.symm.trans hcs)
  rw [tm.lightClient]
  refine Ensures.ofResult_bind (fun _ _ => .error) fun flagged hflagged => ?_
  obtain ⟨header, hheader, hcheck⟩ := Result.bind_eq_ok.mp (Result.mapErr_eq_ok.mp hflagged)
  have hheader := Result.ofExcept_eq_ok.mp hheader
  obtain ⟨height, hheight, -⟩ := Result.bind_eq_ok.mp hcheck
  obtain ⟨header', hheader', hverify⟩ := Result.bind_eq_ok.mp hverify
  obtain rfl : header = header' :=
    Except.ok.inj (hheader.symm.trans (Result.ofExcept_eq_ok.mp hheader'))
  have hstored := Result.okOr_eq_ok.mp hcs
  refine Ensures.ite (fun hflag => ?_) fun hflag => ?_
  · subst hflag
    exact .header ⟨hstored, hfrozen, hheader, hheight, ⟨_, hverify⟩, hcheck, rfl⟩
  · obtain rfl : flagged = false := by simpa using hflag
    refine Ensures.ofExcept_bind (fun _ _ => .error) fun _ _ => ?_
    refine runClient_endsInChange ((tmClient_failSafe lib).updateState _ _ _) updateState_ensures
      fun heights c hc => ?_
    obtain ⟨header', height', hheader', hheight', rfl, rfl⟩ := hc heights rfl
    obtain rfl : header' = header := Except.ok.inj (hheader'.symm.trans hheader)
    obtain rfl : height' = height := Except.ok.inj (hheight'.symm.trans hheight)
    exact .header ⟨hstored, hfrozen, hheader, hheight, ⟨_, hverify⟩, hcheck, rfl⟩

theorem misbehaviour_endsInChange (tm : H.Tendermint lib) {msg : MsgSubmitMisbehaviour} :
    Ensures (updateClientExecute H msg.toUpdate) s
      (EndsInChange lib s.store.client.clients (.misbehaviour msg)) := by
  unfold updateClientExecute
  refine ensures_read_bind (Ensures.ofExcept_bind (fun _ _ => .error) fun cs hcs => ?_)
  rw [tm.lightClient]
  refine Ensures.ofResult_bind (fun _ _ => .error) fun flagged _ => ?_
  refine Ensures.ite (fun _ => .frozen (Result.okOr_eq_ok.mp hcs)) fun _ => ?_
  exact Ensures.ofExcept_bind (fun _ _ => .error) fun _ h => nomatch h

theorem upgradeClient_endsInChange (tm : H.Tendermint lib) {msg : MsgUpgradeClient}
    (hv : upgradeClientValidate H s msg = .ok ()) :
    Ensures (upgradeClientExecute H msg) s
      (EndsInChange lib s.store.client.clients (.upgradeClient msg)) := by
  simp only [upgradeClientValidate, Result.bind_eq_ok, lift_client_eq_ok, lift_result_client_eq_ok,
    tm.lightClient] at hv
  obtain ⟨-, -, cs, hcs, -, -, cons, -, -, -, -, -, hv⟩ := hv
  obtain ⟨up, hup, _, -, _, hlt, -⟩ : ∃ up, _ ∧ ∃ _, _ ∧ ∃ _, _ ∧ _ := by
    simpa only [tmClient, TmClientState.verifyUpgradeClient, Result.bind_eq_ok,
      Result.ofExcept_eq_ok, Result.require_eq_ok] using hv
  unfold upgradeClientExecute
  refine ensures_read_bind (Ensures.ofExcept_bind (fun _ _ => .error) fun cs' hcs' => ?_)
  obtain rfl : cs' = cs := Except.ok.inj (hcs'.symm.trans hcs)
  rw [tm.lightClient]
  refine runClient_endsInChange ((tmClient_failSafe lib).updateStateOnUpgrade _ _ _ _)
    updateStateOnUpgrade_ensures fun h c hc => ?_
  obtain ⟨up', new, _, hup', hlatest, hvalid, rfl⟩ := hc h rfl
  obtain rfl : up' = up := Except.ok.inj (hup'.symm.trans hup)
  exact .upgraded (Result.okOr_eq_ok.mp hcs) (hlatest ▸ not_le.mp hlt) hvalid

theorem dispatch_endsInChange (tm : H.Tendermint lib) (msg : ClientMsg) :
    Ensures (dispatch H (.client msg)) s (EndsInChange lib s.store.client.clients msg) := by
  unfold dispatch
  refine ensures_read_bind (Ensures.ofResult_bind (fun _ _ => .error) fun _ hv => ?_)
  cases msg with
  | createClient msg => exact createClient_endsInChange tm hv
  | updateClient msg => exact updateClient_endsInChange tm hv
  | misbehaviour msg => exact misbehaviour_endsInChange tm
  | upgradeClient msg => exact upgradeClient_endsInChange tm hv

/-- A message that succeeds does one of the changes. -/
theorem tmChange_of_dispatch (tm : H.Tendermint lib) {msg : ClientMsg}
    {s' : TmCtx μ}
    (hok : dispatch H (.client msg) s = (.ok (), s')) :
    TmChange lib s.store.client.clients msg s'.store.client.clients := by
  have hends := dispatch_endsInChange tm msg (s := s)
  rw [Ensures, hok] at hends
  exact hends

/-- **What a step does to the client records.** Only a message for a client that succeeds changes
them, and it does one of the changes. -/
theorem Step.tmChange {i : Input TmConsensusState μ} {s' : TmCtx μ}
    (iso : H.Isolated) (tm : H.Tendermint lib) (h : Step H i s s') :
    s'.store.client.clients = s.store.client.clients ∨
      ∃ msg, i = .dispatch (.client msg) ∧ dispatch H (.client msg) s = (.ok (), s') ∧
        TmChange lib s.store.client.clients msg s'.store.client.clients := by
  by_cases hi : i.isClient = true
  · obtain ⟨msg, rfl⟩ := Input.isClient_eq_true.mp hi
    obtain ⟨r, hrun, hr⟩ := h
    have hends := dispatch_endsInChange tm msg (s := s)
    simp only [Input.run] at hrun
    rw [Ensures, hrun] at hends
    rcases r with (_ | _) | _
    · exact .inl hends
    · exact absurd hr Result.not_returns_panic
    · exact .inr ⟨msg, rfl, hrun, hends⟩
  · rw [h.client_eq iso (by simpa using hi)]
    exact .inl rfl

end Messages

/-! ### Stored heights -/

/-- Every consensus state belongs to a client, and its height is not above the client's latest. -/
def BelowLatest (c : TmClientState.Records) : Prop :=
  ∀ id h cons, c.consensusState id h = some cons →
    ∃ cs, c.clientState id = some cs ∧ h ≤ cs.latestHeight

section BelowLatest

variable {c c' : TmClientState.Records} {id : ClientId} {cs : TmClientState} {h : Height}
  {cons : TmConsensusState}

/-- A client state can be replaced by one that is not behind it. -/
theorem BelowLatest.storeClientState (hc : BelowLatest c)
    (hle : ∀ old, c.clientState id = some old → old.latestHeight ≤ cs.latestHeight) :
    BelowLatest (c.storeClientState id cs) := by
  intro id' h' cons' hcons
  rw [Clients.consensusState_storeClientState] at hcons
  obtain ⟨old, hold, hh⟩ := hc id' h' cons' hcons
  rw [Clients.clientState_storeClientState]
  split_ifs with hid
  · subst hid
    exact ⟨cs, rfl, hh.trans (hle old hold)⟩
  · exact ⟨old, hold, hh⟩

theorem BelowLatest.storeConsensusState (hc : BelowLatest c) (hcs : c.clientState id = some cs)
    (hle : h ≤ cs.latestHeight) : BelowLatest (c.storeConsensusState id h cons) := by
  intro id' h' cons' hcons
  rw [Clients.consensusState_storeConsensusState] at hcons
  rw [Clients.clientState_storeConsensusState]
  split_ifs at hcons with hid
  · obtain ⟨rfl, rfl⟩ := hid
    exact ⟨cs, hcs, hle⟩
  · exact hc id' h' cons' hcons

/-- Both records of a client, written at its latest height. -/
theorem BelowLatest.storeBoth (hc : BelowLatest c)
    (hle : ∀ old, c.clientState id = some old → old.latestHeight ≤ cs.latestHeight) :
    BelowLatest ((c.storeClientState id cs).storeConsensusState id cs.latestHeight cons) :=
  (hc.storeClientState hle).storeConsensusState (show _ = some cs by simp) le_rfl

theorem BelowLatest.takeHeader (hc : BelowLatest c) (hcs : c.clientState id = some cs)
    {header : TmHeader} {flagged : Bool} :
    BelowLatest (TmClientState.takeHeader c id cs header h flagged) := by
  unfold TmClientState.takeHeader
  split_ifs
  · exact hc.storeClientState fun old hold => by
      rw [Option.some.inj (hold.symm.trans hcs)]
      exact le_rfl
  · exact hc
  · rw [Clients.storeClientState_storeConsensusState]
    change BelowLatest (Clients.storeConsensusState id (cs.withHeader h).latestHeight _ _)
    refine hc.storeBoth fun old hold => ?_
    rw [Option.some.inj (hold.symm.trans hcs)]
    exact le_max_right _ _

theorem TmChange.belowLatest {msg : ClientMsg} (h : TmChange lib c msg c') (hc : BelowLatest c) :
    BelowLatest c' := by
  cases h with
  | created hnew _ => exact hc.storeBoth fun old hold => nomatch hold.symm.trans hnew
  | header h =>
    rw [h.records]
    exact hc.takeHeader h.stored
  | frozen hcs =>
    refine hc.storeClientState fun old hold => ?_
    rw [Option.some.inj (hold.symm.trans hcs)]
    exact le_rfl
  | upgraded hcs hlt _ =>
    refine hc.storeBoth fun old hold => ?_
    rw [Option.some.inj (hold.symm.trans hcs)]
    exact hlt.le

end BelowLatest

/-- In every reachable state the stored heights are below the latest. -/
theorem Reachable.belowLatest {H : TmHost μ}
    {s : TmCtx μ} (iso : H.Isolated) (tm : H.Tendermint lib)
    (h : Reachable H s) : BelowLatest s.store.client.clients := by
  induction h with
  | init s hst _ =>
    intro id h cons hcons
    rw [hst] at hcons
    cases hcons
  | step i _ hs ih =>
    obtain heq | ⟨msg, -, -, hchange⟩ := hs.tmChange iso tm
    · rwa [heq]
    · exact hchange.belowLatest ih

end Ibc
