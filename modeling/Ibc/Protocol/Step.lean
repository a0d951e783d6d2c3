import Ibc.Model.Dispatch

/-!
# Steps of one chain

A chain takes inputs: a relayer's message, an application's request to send a packet, a new block,
or activity of the applications that is no concern of the core. An input that makes the core panic
is no step. A step that ends in an error is one, and its state is the state the failed call left.

`Host.Isolated` is the assumption on modules under which packets are followed: a module's callback
works on the modules' own state and does not write the core's store.

The frame lemmas at the end say what a client or connection message cannot touch.
-/

namespace Ibc

variable {CS Cons μ : Type}

/-- What a chain is given to do. -/
inductive Input (Cons μ : Type) where
  | dispatch (msg : MsgEnvelope)
  | sendPacket (packet : Packet)
  | newBlock (env : HostEnv Cons)
  | application (app : μ)

namespace Input

def run (H : Host CS Cons μ) : Input Cons μ → Handler CS Cons μ Unit
  | .dispatch msg => Ibc.dispatch H msg
  | .sendPacket packet => Ibc.sendPacket H packet
  | .newBlock env => Exec.write fun s => { s with env := env }
  | .application app => Exec.write fun s => { s with app := app }

/-- The packet an input is about. -/
def packet : Input Cons μ → Option Packet
  | .dispatch (.packet msg) => some msg.packet
  | .sendPacket packet => some packet
  | _ => none

/-- Whether the input is a message for a client. -/
def isClient : Input Cons μ → Bool
  | .dispatch (.client _) => true
  | _ => false

theorem isClient_eq_true {i : Input Cons μ} :
    i.isClient = true ↔ ∃ msg, i = .dispatch (.client msg) := by
  constructor
  · intro h
    unfold isClient at h
    split at h
    · exact ⟨_, rfl⟩
    · cases h
  · rintro ⟨msg, rfl⟩
    rfl

end Input

/-- The chain takes the input and comes back, with or without an error. -/
def Step (H : Host CS Cons μ) (i : Input Cons μ) (s s' : Ctx CS Cons μ) : Prop :=
  ∃ r, i.run H s = (r, s') ∧ r.Returns

theorem dispatch_eq_ok_iff {H : Host CS Cons μ} {s s' : Ctx CS Cons μ} {msg : MsgEnvelope} :
    dispatch H msg s = (.ok (), s') ↔
      validate H s msg = .ok () ∧ execute H msg s = (.ok (), s') := by
  unfold dispatch
  rw [Exec.read_bind]
  change (Exec.ofResult (validate H s msg) >>= fun _ => execute H msg) s = _ ↔ _
  rw [Exec.ofResult_bind]
  cases hv : validate H s msg with
  | error f => simp
  | ok u => simp

/-! ### Modules that keep to their own state -/

/-- The callback leaves the store as it is. -/
def Callback.KeepsStore {St α : Type} (f : Callback St μ α) : Prop :=
  ∀ st a, (f st a).2.1 = st

/-- No callback of the module writes the store. -/
structure Module.Isolated {St : Type} (m : Module St μ) : Prop where
  openInit : ∀ o hops p c cp v, (m.onChanOpenInitExecute o hops p c cp v).KeepsStore
  openTry : ∀ o hops p c cp v, (m.onChanOpenTryExecute o hops p c cp v).KeepsStore
  openAck : ∀ p c v, (m.onChanOpenAckExecute p c v).KeepsStore
  openConfirm : ∀ p c, (m.onChanOpenConfirmExecute p c).KeepsStore
  closeInit : ∀ p c, (m.onChanCloseInitExecute p c).KeepsStore
  closeConfirm : ∀ p c, (m.onChanCloseConfirmExecute p c).KeepsStore
  recvPacket : ∀ p r, (m.onRecvPacketExecute p r).KeepsStore
  acknowledgePacket : ∀ p a r, (m.onAcknowledgementPacketExecute p a r).KeepsStore
  timeoutPacket : ∀ p r, (m.onTimeoutPacketExecute p r).KeepsStore

/-- The module bound to a port. -/
def Host.moduleOf (H : Host CS Cons μ) (port : PortId) : Option (Module (Store CS Cons) μ) :=
  (H.lookupModuleByPort port).bind H.getRoute

/-- Every module of the host is isolated. -/
def Host.Isolated (H : Host CS Cons μ) : Prop := ∀ port m, H.moduleOf port = some m → m.Isolated

/-- The rule for a callback that keeps the store: only the modules' state is new. -/
theorem ensures_runCallback {α β : Type} {f : Callback (Store CS Cons) μ α}
    {g : α → Handler CS Cons μ β} {s : Ctx CS Cons μ}
    {Q : Result ContextError β → Ctx CS Cons μ → Prop} (hf : f.KeepsStore)
    (h : ∀ a app, f s.store s.app = (a, s.store, app) → (g a).Ensures { s with app := app } Q) :
    Exec.Ensures (runCallback f >>= g) s Q := by
  have hst := hf s.store s.app
  rcases hr : f s.store s.app with ⟨a, st, app⟩
  simp only [hr] at hst
  subst hst
  have := h a app hr
  unfold Exec.Ensures at this ⊢
  rwa [runCallback_bind, hr]

/-- The rule for a client's operation: what it leaves of the client records, and how it ends. -/
theorem ensures_runClient {α β : Type} {x : Exec (Clients CS Cons) ClientError α}
    {f : α → Handler CS Cons μ β} {s : Ctx CS Cons μ}
    {Q : Result ContextError β → Ctx CS Cons μ → Prop}
    (herr : ∀ e c, x s.store.client.clients = (.error (.err e), c) →
      Q (.error (.err (.clientError e))) (s.onClient fun cl => { cl with clients := c }))
    (hpanic : ∀ c s', Q (.error (.panic c)) s')
    (hok : ∀ a c, x s.store.client.clients = (.ok a, c) →
      (f a).Ensures (s.onClient fun cl => { cl with clients := c }) Q) :
    Exec.Ensures (runClient x >>= f) s Q := by
  rcases hr : x s.store.client.clients with ⟨(e | cause) | a, c⟩
  · have hrun : runClient x s = (.error (.err (.clientError e)),
        s.onClient fun cl => { cl with clients := c }) := by
      simp only [runClient, Exec.zoom, Exec.mapErr, hr, Result.mapErr]
    rw [Exec.Ensures, Exec.bind_of_error hrun]
    exact herr e c hr
  · have hrun : runClient x s = (.error (.panic cause),
        s.onClient fun cl => { cl with clients := c }) := by
      simp only [runClient, Exec.zoom, Exec.mapErr, hr, Result.mapErr]
    rw [Exec.Ensures, Exec.bind_of_error hrun]
    exact hpanic _ _
  · have hrun : runClient x s = (.ok a, s.onClient fun cl => { cl with clients := c }) := by
      simp only [runClient, Exec.zoom, Exec.mapErr, hr, Result.mapErr]
    rw [Exec.Ensures, Exec.bind_of_ok hrun]
    exact hok a c hr

/-- The rule for the counter of clients. -/
theorem increaseClientCounter_ensures {s : Ctx CS Cons μ} {f : Unit → Handler CS Cons μ Unit}
    {Q : Result ContextError Unit → Ctx CS Cons μ → Prop}
    (hp : ∀ s', Q (.error (.panic .overflow)) s')
    (hQ : Exec.Ensures (f ()) (s.onClient fun c =>
      { c with clientIdsCounter := c.clientIdsCounter + 1 }) Q) :
    Exec.Ensures (increaseClientCounter >>= f) s Q := by
  simp only [increaseClientCounter, Exec.bind_assoc]
  exact Exec.Ensures.addU64_bind (hp _) fun _ => hQ

/-- The rule for the counter of connections. -/
theorem increaseConnectionCounter_ensures {s : Ctx CS Cons μ} {f : Unit → Handler CS Cons μ Unit}
    {Q : Result ContextError Unit → Ctx CS Cons μ → Prop}
    (hp : ∀ s', Q (.error (.panic .overflow)) s')
    (hQ : Exec.Ensures (f ()) (s.onConnection fun c =>
      { c with connectionIdsCounter := c.connectionIdsCounter + 1 }) Q) :
    Exec.Ensures (increaseConnectionCounter >>= f) s Q := by
  simp only [increaseConnectionCounter, Exec.bind_assoc]
  exact Exec.Ensures.addU64_bind (hp _) fun _ => hQ

/-- A callback of the channel handshake took the modules' state from `a` to `a'`. -/
inductive HandshakeCall {St : Type} (m : Module St μ) (st : St) (a a' : μ) : Prop where
  | openInit (o hops p c cp v) (h : (m.onChanOpenInitExecute o hops p c cp v st a).2.2 = a')
  | openTry (o hops p c cp v) (h : (m.onChanOpenTryExecute o hops p c cp v st a).2.2 = a')
  | openAck (p c v) (h : (m.onChanOpenAckExecute p c v st a).2.2 = a')
  | openConfirm (p c) (h : (m.onChanOpenConfirmExecute p c st a).2.2 = a')
  | closeInit (p c) (h : (m.onChanCloseInitExecute p c st a).2.2 = a')
  | closeConfirm (p c) (h : (m.onChanCloseConfirmExecute p c st a).2.2 = a')

/-- The modules' state is as before, or a handshake callback changed it. -/
def AppFrame (H : Host CS Cons μ) (s s' : Ctx CS Cons μ) : Prop :=
  s'.app = s.app ∨ ∃ port m, H.moduleOf port = some m ∧ HandshakeCall m s.store s.app s'.app

/-! ### What client and connection messages leave alone -/

/-- Noting the times of an update leaves the records. -/
@[simp] theorem storeUpdateTimes_clients (id : ClientId) (heights : List Height) (t : Timestamp)
    (h : Height) (c : ClientStore CS Cons) :
    (storeUpdateTimes id heights t h c).clients = c.clients := by
  induction heights generalizing c with
  | nil => rfl
  | cons height heights ih => exact ih _

/-- All that a client message does not touch. -/
def Ctx.besideClients (s : Ctx CS Cons μ) :
    ConnectionStore × ChannelStore × μ × HostEnv Cons × List Action :=
  (s.store.connection, s.store.channel, s.app, s.env, s.history)

/-- All that a connection message does not touch. -/
def Ctx.besideConnections (s : Ctx CS Cons μ) :
    ClientStore CS Cons × ChannelStore × μ × HostEnv Cons × List Action :=
  (s.store.client, s.store.channel, s.app, s.env, s.history)

section Frames

open Exec Exec.Preserves

theorem runClient_preserves {α : Type} (x : Exec (Clients CS Cons) ClientError α) :
    Preserves Ctx.besideClients (runClient x : Handler CS Cons μ α) := fun _ => rfl

theorem increaseClientCounter_preserves :
    Preserves Ctx.besideClients (increaseClientCounter : Handler CS Cons μ Unit) :=
  read_bind fun _ => ofResult_bind fun _ => preserves_write fun _ => rfl

theorem createClient_preserves (H : Host CS Cons μ) (msg : MsgCreateClient) :
    Preserves Ctx.besideClients (createClientExecute H msg) := by
  refine read_bind fun s => ofResult_bind fun cs => ofResult_bind fun id => ?_
  refine (runClient_preserves _).bind fun _ => ?_
  refine write_bind (fun _ => rfl) <| write_bind (fun _ => rfl) ?_
  refine increaseClientCounter_preserves.bind fun _ => ?_
  exact write_bind (fun _ => rfl) <| write_bind (fun _ => rfl) <| preserves_write fun _ => rfl

theorem updateClient_preserves (H : Host CS Cons μ) (msg : MsgUpdateOrMisbehaviour) :
    Preserves Ctx.besideClients (updateClientExecute H msg) := by
  refine read_bind fun s => ofResult_bind fun cs => ofResult_bind fun found => ?_
  refine Preserves.ite ?_ (ofResult_bind fun _ => ?_)
  · refine (runClient_preserves _).bind fun _ => ?_
    exact write_bind (fun _ => rfl) <| preserves_write fun _ => rfl
  · refine (runClient_preserves _).bind fun heights => ?_
    refine write_bind (fun _ => rfl) <| ofResult_bind fun height => ?_
    exact write_bind (fun _ => rfl) <| preserves_write fun _ => rfl

theorem upgradeClient_preserves (H : Host CS Cons μ) (msg : MsgUpgradeClient) :
    Preserves Ctx.besideClients (upgradeClientExecute H msg) := by
  refine read_bind fun s => ofResult_bind fun cs => ?_
  refine (runClient_preserves _).bind fun _ => ?_
  exact write_bind (fun _ => rfl) <| preserves_write fun _ => rfl

theorem increaseConnectionCounter_preserves :
    Preserves Ctx.besideConnections (increaseConnectionCounter : Handler CS Cons μ Unit) :=
  read_bind fun _ => ofResult_bind fun _ => preserves_write fun _ => rfl

theorem connOpenInit_preserves (H : Host CS Cons μ) (msg : MsgConnectionOpenInit) :
    Preserves Ctx.besideConnections (connOpenInitExecute H msg) := by
  refine read_bind fun s => ofResult_bind fun versions => ofResult_bind fun connEnd => ?_
  refine write_bind (fun _ => rfl) <| write_bind (fun _ => rfl) <| write_bind (fun _ => rfl) ?_
  refine increaseConnectionCounter_preserves.bind fun _ => ?_
  exact write_bind (fun _ => rfl) <| preserves_write fun _ => rfl

theorem connOpenTry_preserves (H : Host CS Cons μ) (msg : MsgConnectionOpenTry) :
    Preserves Ctx.besideConnections (connOpenTryExecute H msg) := by
  refine read_bind fun s => ofResult_bind fun vars => ofResult_bind fun connId => ?_
  refine write_bind (fun _ => rfl) <| write_bind (fun _ => rfl) <| write_bind (fun _ => rfl) ?_
  refine increaseConnectionCounter_preserves.bind fun _ => ?_
  exact write_bind (fun _ => rfl) <| preserves_write fun _ => rfl

theorem connOpenAck_preserves (msg : MsgConnectionOpenAck) :
    Preserves Ctx.besideConnections (connOpenAckExecute msg : Handler CS Cons μ Unit) := by
  refine read_bind fun s => ofResult_bind fun connEnd => ?_
  refine write_bind (fun _ => rfl) <| write_bind (fun _ => rfl) <| write_bind (fun _ => rfl) ?_
  exact preserves_write fun _ => rfl

theorem connOpenConfirm_preserves (msg : MsgConnectionOpenConfirm) :
    Preserves Ctx.besideConnections (connOpenConfirmExecute msg : Handler CS Cons μ Unit) := by
  refine read_bind fun s => ofResult_bind fun connEnd => ofResult_bind fun connId => ?_
  refine write_bind (fun _ => rfl) <| write_bind (fun _ => rfl) <| write_bind (fun _ => rfl) ?_
  exact preserves_write fun _ => rfl

/-- A client message leaves all but the clients. -/
theorem dispatch_client_preserves (H : Host CS Cons μ) (msg : ClientMsg) :
    Preserves Ctx.besideClients (dispatch H (.client msg)) := by
  refine read_bind fun s => ofResult_bind fun _ => ?_
  cases msg with
  | createClient msg => exact createClient_preserves H msg
  | updateClient msg => exact updateClient_preserves H msg.toUpdate
  | misbehaviour msg => exact updateClient_preserves H msg.toUpdate
  | upgradeClient msg => exact upgradeClient_preserves H msg

/-- A connection message leaves all but the connections. -/
theorem dispatch_connection_preserves (H : Host CS Cons μ) (msg : ConnectionMsg) :
    Preserves Ctx.besideConnections (dispatch H (.connection msg)) := by
  refine read_bind fun s => ofResult_bind fun _ => ?_
  cases msg with
  | openInit msg => exact connOpenInit_preserves H msg
  | openTry msg => exact connOpenTry_preserves H msg
  | openAck msg => exact connOpenAck_preserves msg
  | openConfirm msg => exact connOpenConfirm_preserves msg

end Frames

end Ibc
