import Ibc.Protocol.Handshake

/-!
# What messages do to the clients' records

A message for a client makes the handlers run operations of the light client on the records of all
clients, and nothing else writes them. So a property of the records holds after a step when every
operation that the message may run ends in it (`ClientMsg.Leaves`): **`Step.clients_leave`**.

A light client that keeps to the record it is called for (`LightClient.Local`) leaves all that is
stored about the other clients (`ClientStore.about`).
-/

namespace Ibc

open Exec

variable {CS Cons μ : Type}

/-- Whichever operation of the light client the message has run on the records `c`, it ends in
records with the property `P`. A new client starts with the state that the message decodes to. -/
def ClientMsg.Leaves (H : Host CS Cons μ) (P : Clients CS Cons → Prop)
    (c : Clients CS Cons) : ClientMsg → Prop
  | .createClient msg => ∀ cs id, H.decodeClientState msg.clientState = .ok cs →
      Ensures (H.lightClient.initialise cs id msg.consensusState) c fun _ => P
  | .updateClient msg => ∀ cs,
      Ensures (H.lightClient.updateState cs msg.clientId msg.header) c (fun _ => P) ∧
      Ensures (H.lightClient.updateStateOnMisbehaviour cs msg.clientId msg.header .updateClient) c
        fun _ => P
  | .misbehaviour msg => ∀ cs, Ensures (H.lightClient.updateStateOnMisbehaviour cs msg.clientId
      msg.misbehaviour .submitMisbehaviour) c fun _ => P
  | .upgradeClient msg => ∀ cs, Ensures (H.lightClient.updateStateOnUpgrade cs msg.clientId
      msg.upgradedClientState msg.upgradedConsensusState) c fun _ => P

section Handlers

variable {H : Host CS Cons μ} {s s' : Ctx CS Cons μ} {i : Input Cons μ}
  {P : Clients CS Cons → Prop}

/-- The property holds of the records a handler leaves. -/
def ClientsIn {ε α : Type} (P : Clients CS Cons → Prop) (_ : Result ε α) (s : Ctx CS Cons μ) :
    Prop := P s.store.client.clients

/-- The rule for an operation of the client, when nothing after it touches the records. -/
theorem runClient_leaves {α : Type} {x : Exec (Clients CS Cons) ClientError α}
    {f : α → Handler CS Cons μ Unit} (hx : Ensures x s.store.client.clients fun _ => P)
    (hf : ∀ a, Preserves (fun s => s.store.client.clients) (f a)) :
    Ensures (runClient x >>= f) s (ClientsIn P) := by
  have hrun : Ensures (runClient x) s (ClientsIn P) := hx
  refine hrun.bind (fun _ _ h => h) fun a s' h => ?_
  have heq : (f a s').2.store.client.clients = s'.store.client.clients := hf a s'
  unfold Ensures ClientsIn
  rw [heq]
  exact h

theorem createClient_leaves (hP : P s.store.client.clients) {msg : MsgCreateClient}
    (h : (ClientMsg.createClient msg).Leaves H P s.store.client.clients) :
    Ensures (createClientExecute H msg) s (ClientsIn P) := by
  unfold createClientExecute
  refine ensures_read_bind (Ensures.ofResult_bind (fun _ _ => hP) fun cs hcs => ?_)
  refine Ensures.ofExcept_bind (fun _ _ => hP) fun id _ => ?_
  refine runClient_leaves (h cs id hcs) fun _ => ?_
  refine Preserves.write_bind (fun _ => rfl) <| Preserves.write_bind (fun _ => rfl) ?_
  refine Preserves.bind (Preserves.read_bind fun _ => Preserves.ofResult_bind fun _ =>
    preserves_write fun _ => rfl) fun _ => ?_
  exact Preserves.write_bind (fun _ => rfl) <| Preserves.write_bind (fun _ => rfl) <|
    preserves_write fun _ => rfl

/-- A report of misbehaviour that shows none is refused, so it never runs an update. -/
theorem updateClient_leaves (hP : P s.store.client.clients) {msg : MsgUpdateOrMisbehaviour}
    (hupdate : msg.updateKind = .updateClient → ∀ cs, Ensures
      (H.lightClient.updateState cs msg.clientId msg.clientMessage) s.store.client.clients
        fun _ => P)
    (hmis : ∀ cs, Ensures (H.lightClient.updateStateOnMisbehaviour cs msg.clientId
      msg.clientMessage msg.updateKind) s.store.client.clients fun _ => P) :
    Ensures (updateClientExecute H msg) s (ClientsIn P) := by
  unfold updateClientExecute
  refine ensures_read_bind (Ensures.ofExcept_bind (fun _ _ => hP) fun cs _ => ?_)
  refine Ensures.ofResult_bind (fun _ _ => hP) fun found _ => Ensures.ite (fun _ => ?_) fun _ => ?_
  · refine runClient_leaves (hmis _) fun _ => ?_
    exact Preserves.write_bind (fun _ => rfl) <| preserves_write fun _ => rfl
  · refine Ensures.ofExcept_bind (fun _ _ => hP) fun _ hkind => ?_
    refine runClient_leaves (hupdate (Result.ensure_eq_ok.mp hkind) _) fun heights => ?_
    refine Preserves.write_bind (fun _ => storeUpdateTimes_clients _ _ _ _ _) <|
      Preserves.ofResult_bind fun height => ?_
    exact Preserves.write_bind (fun _ => rfl) <| preserves_write fun _ => rfl

theorem upgradeClient_leaves (hP : P s.store.client.clients) {msg : MsgUpgradeClient}
    (h : (ClientMsg.upgradeClient msg).Leaves H P s.store.client.clients) :
    Ensures (upgradeClientExecute H msg) s (ClientsIn P) := by
  unfold upgradeClientExecute
  refine ensures_read_bind (Ensures.ofExcept_bind (fun _ _ => hP) fun cs _ => ?_)
  refine runClient_leaves (h _) fun _ => ?_
  exact Preserves.write_bind (fun _ => rfl) <| preserves_write fun _ => rfl

theorem dispatch_client_leaves (hP : P s.store.client.clients) {msg : ClientMsg}
    (h : msg.Leaves H P s.store.client.clients) :
    Ensures (dispatch H (.client msg)) s (ClientsIn P) := by
  unfold dispatch
  refine ensures_read_bind (Ensures.ofResult_bind (fun _ _ => hP) fun _ _ => ?_)
  cases msg with
  | createClient msg => exact createClient_leaves hP h
  | updateClient msg =>
    exact updateClient_leaves hP (fun _ cs => (h cs).1) fun cs => (h cs).2
  | misbehaviour msg => exact updateClient_leaves hP nofun h
  | upgradeClient msg => exact upgradeClient_leaves hP h

/-- **A step leaves the records as the operations of its message leave them.** -/
theorem Step.clients_leave (iso : H.Isolated) (h : Step H i s s') (hP : P s.store.client.clients)
    (hmsg : ∀ msg, i = .dispatch (.client msg) →
      msg.Leaves H P s.store.client.clients) : P s'.store.client.clients := by
  by_cases hi : i.isClient = true
  · obtain ⟨msg, rfl⟩ := Input.isClient_eq_true.mp hi
    obtain ⟨r, hrun, -⟩ := h
    have hleaves := dispatch_client_leaves hP (hmsg msg rfl)
    rwa [Ensures, show dispatch H (.client msg) s = (r, s') from hrun] at hleaves
  · rwa [h.client_eq iso (by simpa using hi)]

end Handlers

/-! ### What is stored about one client -/

/-- The client a message names. -/
def ClientMsg.clientOf : ClientMsg → Option ClientId
  | .createClient _ => none
  | .updateClient msg => some msg.clientId
  | .misbehaviour msg => some msg.clientId
  | .upgradeClient msg => some msg.clientId

/-- The record of a client, and when and at which heights it was updated. -/
def ClientStore.about (c : ClientStore CS Cons) (id : ClientId) :
    Option (ClientRecord CS Cons) × (Height → Option Timestamp) × (Height → Option Height) :=
  (c.clients id, fun h => c.clientProcessedTimes (id, h), fun h => c.clientProcessedHeights (id, h))

/-- The operation writes no record but that of `id`. -/
def WritesOnly {α : Type} (id : ClientId) (x : Exec (Clients CS Cons) ClientError α) : Prop :=
  ∀ other, other ≠ id → Preserves (fun c => c other) x

/-- Every operation of the light client writes no record but that of the client it is called for. -/
structure LightClient.Local (L : LightClient CS Cons) : Prop where
  initialise : ∀ cs id cons, WritesOnly id (L.initialise cs id cons)
  updateState : ∀ cs id msg, WritesOnly id (L.updateState cs id msg)
  updateStateOnMisbehaviour : ∀ cs id msg kind,
    WritesOnly id (L.updateStateOnMisbehaviour cs id msg kind)
  updateStateOnUpgrade : ∀ cs id upgraded cons,
    WritesOnly id (L.updateStateOnUpgrade cs id upgraded cons)

section About

variable {H : Host CS Cons μ} {s : Ctx CS Cons μ} {id other : ClientId}

theorem runClient_about {α : Type} {x : Exec (Clients CS Cons) ClientError α}
    (hx : WritesOnly id x) (hne : other ≠ id) :
    Preserves (fun s : Ctx CS Cons μ => s.store.client.about other) (runClient x) := fun s =>
  congrArg (fun r => (r, _, _)) (hx other hne s.store.client.clients)

theorem storeUpdateTime_about (hne : other ≠ id) (h : Height) (t : Timestamp)
    (c : ClientStore CS Cons) : (c.storeUpdateTime id h t).about other = c.about other := by
  simp [ClientStore.about, ClientStore.storeUpdateTime, hne]

theorem storeUpdateHeight_about (hne : other ≠ id) (h host : Height) (c : ClientStore CS Cons) :
    (c.storeUpdateHeight id h host).about other = c.about other := by
  simp [ClientStore.about, ClientStore.storeUpdateHeight, hne]

theorem storeUpdateTimes_about (hne : other ≠ id) (heights : List Height) (t : Timestamp)
    (host : Height) (c : ClientStore CS Cons) :
    (storeUpdateTimes id heights t host c).about other = c.about other := by
  induction heights generalizing c with
  | nil => rfl
  | cons h heights ih =>
    refine (ih _).trans ?_
    rw [storeUpdateHeight_about hne, storeUpdateTime_about hne]

/-- What was validated before a client is created. -/
theorem createClientValidate_eq_ok {msg : MsgCreateClient}
    (hv : createClientValidate H s msg = .ok ()) : ∃ cs new,
      H.decodeClientState msg.clientState = .ok cs ∧ newClientId H s cs = .ok new ∧
        s.store.client.clients.clientState new = none := by
  simp only [createClientValidate, Result.bind_eq_ok, lift_client_eq_ok, lift_context_eq_ok,
    Result.ensure_eq_ok] at hv
  obtain ⟨-, -, cs, hcs, -, -, new, hnew, hfresh⟩ := hv
  exact ⟨cs, new, hcs, hnew, hfresh⟩

theorem createClient_about (hL : H.lightClient.Local) {msg : MsgCreateClient} {cs : CS}
    {new : ClientId} (hcs : H.decodeClientState msg.clientState = .ok cs)
    (hnew : newClientId H s cs = .ok new) (hne : id ≠ new) :
    Ensures (createClientExecute H msg) s fun _ s' =>
      s'.store.client.about id = s.store.client.about id := by
  unfold createClientExecute
  refine ensures_read_bind (Ensures.ofResult_bind (fun _ _ => rfl) fun cs' hcs' => ?_)
  obtain rfl : cs' = cs := Except.ok.inj (hcs'.symm.trans hcs)
  refine Ensures.ofExcept_ok_bind hnew ?_
  refine Preserves.bind (runClient_about (hL.initialise _ _ _) hne) (fun _ => ?_) s
  refine Preserves.write_bind (fun _ => storeUpdateTime_about hne _ _ _) <|
    Preserves.write_bind (fun _ => storeUpdateHeight_about hne _ _ _) ?_
  refine Preserves.bind (Preserves.read_bind fun _ => Preserves.ofResult_bind fun _ =>
    preserves_write fun _ => rfl) fun _ => ?_
  exact Preserves.write_bind (fun _ => rfl) <| Preserves.write_bind (fun _ => rfl) <|
    preserves_write fun _ => rfl

theorem updateClient_about (hL : H.lightClient.Local) (msg : MsgUpdateOrMisbehaviour)
    (hne : id ≠ msg.clientId) :
    Preserves (fun s => s.store.client.about id) (updateClientExecute H msg) := by
  refine Preserves.read_bind fun s => Preserves.ofResult_bind fun cs =>
    Preserves.ofResult_bind fun found => ?_
  refine Preserves.ite ?_ (Preserves.ofResult_bind fun _ => ?_)
  · refine (runClient_about (hL.updateStateOnMisbehaviour _ _ _ _) hne).bind fun _ => ?_
    exact Preserves.write_bind (fun _ => rfl) <| preserves_write fun _ => rfl
  · refine (runClient_about (hL.updateState _ _ _) hne).bind fun heights => ?_
    refine Preserves.write_bind (fun _ => storeUpdateTimes_about hne _ _ _ _) <|
      Preserves.ofResult_bind fun height => ?_
    exact Preserves.write_bind (fun _ => rfl) <| preserves_write fun _ => rfl

theorem upgradeClient_about (hL : H.lightClient.Local) (msg : MsgUpgradeClient)
    (hne : id ≠ msg.clientId) :
    Preserves (fun s => s.store.client.about id) (upgradeClientExecute H msg) := by
  refine Preserves.read_bind fun s => Preserves.ofResult_bind fun cs => ?_
  refine (runClient_about (hL.updateStateOnUpgrade _ _ _ _) hne).bind fun _ => ?_
  exact Preserves.write_bind (fun _ => rfl) <| preserves_write fun _ => rfl

/-- The client that a message names, or the one that it creates. -/
def ClientMsg.touches (H : Host CS Cons μ) (s : Ctx CS Cons μ) : ClientMsg → Set ClientId
  | .createClient msg => {id | ∃ cs, H.decodeClientState msg.clientState = .ok cs ∧
      newClientId H s cs = .ok id}
  | .updateClient msg => {msg.clientId}
  | .misbehaviour msg => {msg.clientId}
  | .upgradeClient msg => {msg.clientId}

/-- What is stored about every other client stays. -/
theorem dispatch_client_about (hL : H.lightClient.Local) {msg : ClientMsg}
    (hid : id ∉ msg.touches H s) : Ensures (dispatch H (.client msg)) s fun _ s' =>
      s'.store.client.about id = s.store.client.about id := by
  unfold dispatch
  refine ensures_read_bind (Ensures.ofResult_bind (fun _ _ => rfl) fun _ hv => ?_)
  cases msg with
  | createClient msg =>
    obtain ⟨cs, new, hcs, hnew, -⟩ := createClientValidate_eq_ok hv
    refine createClient_about hL hcs hnew ?_
    rintro rfl
    exact hid ⟨cs, hcs, hnew⟩
  | updateClient msg | misbehaviour msg => exact updateClient_about hL msg.toUpdate hid s
  | upgradeClient msg => exact upgradeClient_about hL msg hid s

/-- A message that names a client passes validation only when the client is active. -/
theorem ClientMsg.validate_active {msg : ClientMsg} (hid : msg.clientOf = some id)
    (hv : msg.validate H s = .ok ()) : ∃ cs, Active H s.store id cs := by
  have hupdate : ∀ {u : MsgUpdateOrMisbehaviour}, updateClientValidate H s u = .ok () →
      ∃ cs, Active H s.store u.clientId cs := by
    intro u hu
    simp only [updateClientValidate, Result.bind_eq_ok, lift_client_eq_ok,
      lift_result_client_eq_ok, Ctx.clientState, Result.okOr_eq_ok] at hu
    obtain ⟨_, _, cs, hcs, _, hnot, _⟩ := hu
    exact ⟨cs, hcs, hnot⟩
  cases msg with
  | createClient msg => cases hid
  | updateClient msg | misbehaviour msg =>
    cases hid
    exact hupdate hv
  | upgradeClient msg =>
    cases hid
    simp only [ClientMsg.validate, upgradeClientValidate, Result.bind_eq_ok, lift_client_eq_ok,
      lift_result_client_eq_ok, Ctx.clientState, Result.okOr_eq_ok] at hv
    obtain ⟨_, _, cs, hcs, _, hnot, _⟩ := hv
    exact ⟨cs, hcs, hnot⟩

/-- A message that passes validation is for an active client or makes a new one. -/
theorem ClientMsg.validate_touches {msg : ClientMsg} (hid : id ∈ msg.touches H s)
    (hv : msg.validate H s = .ok ()) :
    (∃ cs, Active H s.store id cs) ∨ s.store.client.clients.clientState id = none := by
  cases msg with
  | createClient msg =>
    obtain ⟨cs, new, hcs, hnew, hfresh⟩ := createClientValidate_eq_ok hv
    obtain ⟨cs', hcs', hid⟩ := hid
    obtain rfl : cs = cs' := Except.ok.inj (hcs.symm.trans hcs')
    obtain rfl : new = id := Except.ok.inj (hnew.symm.trans hid)
    exact .inr hfresh
  | updateClient msg | misbehaviour msg | upgradeClient msg =>
    cases hid
    exact .inl (validate_active rfl hv)

end About

end Ibc
