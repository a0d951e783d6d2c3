import Ibc.Protocol.Run

/-!
# What the handshake messages store

`ConnectionMsg.Stores` and `ChannelMsg.Stores` give, for each message of the two handshakes, the end
it stores and under which identifier, together with all that was validated before: the end it
replaces, the client it relied on, and what that client attested about the other chain.

They are complete. **`dispatch_connection_endsIn`** and **`dispatch_channel_endsIn`**: such a
message stores exactly that, or it fails and stores nothing. **`Step.connections`** and
**`Step.channels`**: no other input writes an end, except for the timeout of a packet on an ordered
channel.
-/

namespace Ibc

variable {CS Cons μ : Type}

/-! ### Clients a message relies on -/

/-- An active client accepts `value` under `path`, against a consensus state it stores. -/
def Attested (H : Host CS Cons μ) (st : Store CS Cons) (id : ClientId) (pfx : CommitmentPrefix)
    (path : Path) (value : Bytes) : Prop :=
  ∃ cs h cons, Active H st id cs ∧ st.client.clients.consensusState id h = some cons ∧
    H.lightClient.Accepts cs cons pfx path (some value)

/-! ### The ends that are stored -/

/-- The identifiers a connection message uses up. -/
def ConnectionMsg.opened : ConnectionMsg → ℕ
  | .openInit _ => 1
  | .openTry _ => 1
  | .openAck _ => 0
  | .openConfirm _ => 0

/-- The connection end a message stores. -/
inductive ConnectionMsg.Stores (H : Host CS Cons μ) (s : Ctx CS Cons μ) :
    ConnectionMsg → ConnectionId → ConnectionEnd → Prop where
  | openInit {msg : MsgConnectionOpenInit} {cs : CS} {versions : List ConnectionVersion}
      (hcs : Active H s.store msg.clientIdOnA cs)
      (hver : connOpenInitVersions H msg = .ok versions) :
      Stores H s (.openInit msg) (.new s.store.connection.connectionIdsCounter)
        ⟨.init, msg.clientIdOnA, ⟨msg.counterparty.clientId, none, msg.counterparty.pfx⟩, versions,
          msg.delayPeriod⟩
  | openTry {msg : MsgConnectionOpenTry} {version : ConnectionVersion} {connIdOnA : ConnectionId}
      (hid : msg.counterparty.connectionId = some connIdOnA)
      (hv : Attested H s.store msg.clientIdOnB msg.counterparty.pfx (.connection connIdOnA)
        (ConnectionEnd.mk .init msg.counterparty.clientId
          ⟨msg.clientIdOnB, none, H.commitmentPrefix⟩ msg.versionsOnA msg.delayPeriod).toRaw.encode)
      (hver : ConnectionVersion.pick H.getCompatibleVersions msg.versionsOnA = .ok version) :
      Stores H s (.openTry msg) (.new s.store.connection.connectionIdsCounter)
        ⟨.tryOpen, msg.clientIdOnB, msg.counterparty, [version], msg.delayPeriod⟩
  | openAck {msg : MsgConnectionOpenAck} {e : ConnectionEnd}
      (he : s.store.connection.connections msg.connIdOnA = some e) (hs : e.state = .init)
      (hv : Attested H s.store e.clientId e.counterparty.pfx (.connection msg.connIdOnB)
        (ConnectionEnd.mk .tryOpen e.counterparty.clientId
          ⟨e.clientId, some msg.connIdOnA, H.commitmentPrefix⟩ [msg.version]
          e.delayPeriod).toRaw.encode)
      (hver : msg.version.verifyIsSupported e.versions = .ok ()) :
      Stores H s (.openAck msg) msg.connIdOnA (e.opened msg.version msg.connIdOnB)
  | openConfirm {msg : MsgConnectionOpenConfirm} {e : ConnectionEnd} {connIdOnA : ConnectionId}
      (he : s.store.connection.connections msg.connIdOnB = some e) (hs : e.state = .tryOpen)
      (hid : e.counterparty.connectionId = some connIdOnA)
      (hv : Attested H s.store e.clientId e.counterparty.pfx (.connection connIdOnA)
        (ConnectionEnd.mk .open e.counterparty.clientId
          ⟨e.clientId, some msg.connIdOnB, H.commitmentPrefix⟩ e.versions
          e.delayPeriod).toRaw.encode) :
      Stores H s (.openConfirm msg) msg.connIdOnB { e with state := .open }

/-- The channel end a message stores. -/
inductive ChannelMsg.Stores (H : Host CS Cons μ) (s : Ctx CS Cons μ) :
    ChannelMsg → ChannelKey → ChannelEnd → Prop where
  | openInit {msg : MsgChannelOpenInit} {connId : ConnectionId} {conn : ConnectionEnd} {cs : CS}
      (hhops : msg.connectionHopsOnA = [connId])
      (hconn : s.store.connection.connections connId = some conn)
      (hcs : Active H s.store conn.clientId cs) (ho : msg.ordering ≠ .none) :
      Stores H s (.openInit msg) (msg.portIdOnA, .new s.store.channel.channelIdsCounter)
        ⟨.init, msg.ordering, ⟨msg.portIdOnB, none⟩, msg.connectionHopsOnA, msg.versionProposal⟩
  | openTry {msg : MsgChannelOpenTry} {connId connIdOnA : ConnectionId} {conn : ConnectionEnd}
      {version : ChannelVersion} (hhops : msg.connectionHopsOnB = [connId])
      (hroute : Route s.store msg.connectionHopsOnB conn connIdOnA) (ho : msg.ordering ≠ .none)
      (hv : Attested H s.store conn.clientId conn.counterparty.pfx
        (.channelEnd msg.portIdOnA msg.chanIdOnA)
        (ChannelEnd.mk .init msg.ordering ⟨msg.portIdOnB, none⟩ [connIdOnA]
          msg.versionSupportedOnA).toRaw.encode)
      (hfeature : ∃ v, conn.versions.head? = some v ∧ msg.ordering.asStr ∈ v.features) :
      Stores H s (.openTry msg) (msg.portIdOnB, .new s.store.channel.channelIdsCounter)
        ⟨.tryOpen, msg.ordering, ⟨msg.portIdOnA, some msg.chanIdOnA⟩, msg.connectionHopsOnB,
          version⟩
  | openAck {msg : MsgChannelOpenAck} {e : ChannelEnd} {conn : ConnectionEnd}
      {connIdOnB : ConnectionId}
      (he : s.store.channel.channels (msg.portIdOnA, msg.chanIdOnA) = some e)
      (hs : e.state = .init) (hroute : Route s.store e.connectionHops conn connIdOnB)
      (hv : Attested H s.store conn.clientId conn.counterparty.pfx
        (.channelEnd e.remote.portId msg.chanIdOnB)
        (ChannelEnd.mk .tryOpen e.ordering ⟨msg.portIdOnA, some msg.chanIdOnA⟩ [connIdOnB]
          msg.versionOnB).toRaw.encode) :
      Stores H s (.openAck msg) (msg.portIdOnA, msg.chanIdOnA)
        (e.opened msg.versionOnB msg.chanIdOnB)
  | openConfirm {msg : MsgChannelOpenConfirm} {e : ChannelEnd} {conn : ConnectionEnd}
      {connIdOnA : ConnectionId} {chanIdOnA : ChannelId}
      (he : s.store.channel.channels (msg.portIdOnB, msg.chanIdOnB) = some e)
      (hs : e.state = .tryOpen) (hid : e.remote.channelId = some chanIdOnA)
      (hroute : Route s.store e.connectionHops conn connIdOnA)
      (hv : Attested H s.store conn.clientId conn.counterparty.pfx
        (.channelEnd e.remote.portId chanIdOnA)
        (ChannelEnd.mk .open e.ordering ⟨msg.portIdOnB, some msg.chanIdOnB⟩ [connIdOnA]
          e.version).toRaw.encode) :
      Stores H s (.openConfirm msg) (msg.portIdOnB, msg.chanIdOnB) { e with state := .open }
  | closeInit {msg : MsgChannelCloseInit} {e : ChannelEnd} {conn : ConnectionEnd} {cs : CS}
      (he : s.store.channel.channels (msg.portIdOnA, msg.chanIdOnA) = some e)
      (hs : e.state ≠ .closed) (hconn : s.store.connectionUnder e.connectionHops = some conn)
      (hcs : Active H s.store conn.clientId cs) :
      Stores H s (.closeInit msg) (msg.portIdOnA, msg.chanIdOnA) { e with state := .closed }
  | closeConfirm {msg : MsgChannelCloseConfirm} {e : ChannelEnd} {conn : ConnectionEnd}
      {connIdOnA : ConnectionId} {chanIdOnA : ChannelId}
      (he : s.store.channel.channels (msg.portIdOnB, msg.chanIdOnB) = some e)
      (hs : e.state ≠ .closed) (hid : e.remote.channelId = some chanIdOnA)
      (hroute : Route s.store e.connectionHops conn connIdOnA)
      (hv : Attested H s.store conn.clientId conn.counterparty.pfx
        (.channelEnd e.remote.portId chanIdOnA)
        (ChannelEnd.mk .closed e.ordering ⟨msg.portIdOnB, some msg.chanIdOnB⟩ [connIdOnA]
          e.version).toRaw.encode) :
      Stores H s (.closeConfirm msg) (msg.portIdOnB, msg.chanIdOnB) { e with state := .closed }

/-- What a connection message leaves: a failure stores nothing. -/
def ConnectionMsg.EndsIn (H : Host CS Cons μ) (s : Ctx CS Cons μ) (msg : ConnectionMsg)
    (r : Result ContextError Unit) (s' : Ctx CS Cons μ) : Prop :=
  r.Returns →
    (r ≠ .ok () ∧ s'.store.connection = s.store.connection) ∨
      ∃ id e, msg.Stores H s id e ∧
        s'.store.connection.connections =
          Function.update s.store.connection.connections id (some e) ∧
        s'.store.connection.connectionIdsCounter =
          s.store.connection.connectionIdsCounter + msg.opened ∧
        ∀ client, client ≠ e.clientId → s'.store.connection.clientConnections client =
          s.store.connection.clientConnections client

/-- What a channel message leaves. A failure stores nothing, except for an end that is closed before
the failure. -/
def ChannelMsg.EndsIn (H : Host CS Cons μ) (s : Ctx CS Cons μ) (msg : ChannelMsg)
    (r : Result ContextError Unit) (s' : Ctx CS Cons μ) : Prop :=
  r.Returns → s'.store.connection = s.store.connection ∧
    ((r ≠ .ok () ∧ s'.store.channel.channels = s.store.channel.channels) ∨
      ∃ key e, msg.Stores H s key e ∧
        s'.store.channel.channels = Function.update s.store.channel.channels key (some e))

section Handlers

open Exec

variable {H : Host CS Cons μ} {s : Ctx CS Cons μ} {moduleId : ModuleId}

theorem ProofClient.attested {id : ClientId} {h : Height} {client : CS × Cons}
    {pfx : CommitmentPrefix} {proof : CommitmentProofBytes} {path : Path} {value : Bytes}
    (hc : ProofClient H s.store id h client) (hp : H.Proves client pfx proof path (some value)) :
    Attested H s.store id pfx path value :=
  ⟨client.1, h, client.2, hc.active, hc.consensus, proof, hp⟩

/-! ### Connections -/

theorem ConnectionMsg.EndsIn.refl {msg : ConnectionMsg} {f : Fault ContextError} :
    msg.EndsIn H s (.error f) s := fun _ => .inl ⟨nofun, rfl⟩

theorem connOpenInit_endsIn {msg : MsgConnectionOpenInit}
    (hv : connOpenInitValidate H s msg = .ok ()) :
    Ensures (connOpenInitExecute H msg) s ((ConnectionMsg.openInit msg).EndsIn H s) := by
  simp only [connOpenInitValidate, Result.bind_eq_ok, lift_client_eq_ok, lift_result_client_eq_ok,
    Ctx.clientState, Result.okOr_eq_ok] at hv
  obtain ⟨_, _, cs, hcs, _, hfrozen, _⟩ := hv
  unfold connOpenInitExecute
  refine ensures_read_bind (Ensures.ofExcept_bind (fun _ _ => .refl) fun versions hver => ?_)
  refine Ensures.ofExcept_bind (fun _ _ => .refl) fun e he => ?_
  obtain ⟨rfl, -⟩ := ConnectionEnd.new_eq_ok.mp he
  refine ensures_write_bind (ensures_write_bind (ensures_write_bind ?_))
  refine increaseConnectionCounter_ensures (fun _ h => absurd h Result.not_returns_panic) fun _ =>
    .inr ?_
  exact ⟨_, _, .openInit ⟨hcs, hfrozen⟩ hver, rfl, rfl, fun _ hne => Function.update_of_ne hne _ _⟩

theorem connOpenTry_endsIn {msg : MsgConnectionOpenTry}
    (hv : connOpenTryValidate H s msg = .ok ()) :
    Ensures (connOpenTryExecute H msg) s ((ConnectionMsg.openTry msg).EndsIn H s) := by
  obtain ⟨connIdOnA, client, hv⟩ := connOpenTryValidate_eq_ok.mp hv
  obtain ⟨version, hpick, hvars⟩ := hv.vars
  unfold connOpenTryExecute
  refine ensures_read_bind (Ensures.ofExcept_ok_bind hvars ?_)
  refine Ensures.ofExcept_ok_bind (Result.okOr_eq_ok.mpr hv.counterparty) ?_
  refine ensures_write_bind (ensures_write_bind (ensures_write_bind ?_))
  refine increaseConnectionCounter_ensures (fun _ h => absurd h Result.not_returns_panic) fun _ =>
    .inr ?_
  exact ⟨_, _, .openTry hv.counterparty (hv.usable.attested hv.connEnd) hpick, rfl, rfl,
    fun _ hne => Function.update_of_ne hne _ _⟩

theorem connOpenAck_endsIn {msg : MsgConnectionOpenAck}
    (hv : connOpenAckValidate H s msg = .ok ()) :
    Ensures (connOpenAckExecute msg) s ((ConnectionMsg.openAck msg).EndsIn H s) := by
  obtain ⟨e, client, hv⟩ := connOpenAckValidate_eq_ok.mp hv
  unfold connOpenAckExecute
  refine ensures_read_bind (Ensures.ofExcept_ok_bind (connectionEnd_eq_ok.mpr hv.connection) ?_)
  intro _
  exact .inr ⟨_, _, .openAck hv.connection hv.state (hv.usable.attested hv.connEnd) hv.version,
    rfl, rfl, fun _ _ => rfl⟩

theorem connOpenConfirm_endsIn {msg : MsgConnectionOpenConfirm}
    (hv : connOpenConfirmValidate H s msg = .ok ()) :
    Ensures (connOpenConfirmExecute msg) s ((ConnectionMsg.openConfirm msg).EndsIn H s) := by
  obtain ⟨e, connIdOnA, client, hv⟩ := connOpenConfirmValidate_eq_ok.mp hv
  unfold connOpenConfirmExecute
  refine ensures_read_bind (Ensures.ofExcept_ok_bind (connectionEnd_eq_ok.mpr hv.connection) ?_)
  refine Ensures.ofExcept_bind (fun _ _ => .refl) fun connId _ => ?_
  intro _
  exact .inr ⟨_, _, .openConfirm hv.connection hv.state hv.counterparty
    (hv.usable.attested hv.connEnd), rfl, rfl, fun _ _ => rfl⟩

/-- **A connection message stores its end, or fails and stores nothing.** -/
theorem dispatch_connection_endsIn (msg : ConnectionMsg) :
    Ensures (dispatch H (.connection msg)) s (msg.EndsIn H s) := by
  unfold dispatch
  refine ensures_read_bind (Ensures.ofResult_bind (fun _ _ => .refl) fun _ hv => ?_)
  cases msg with
  | openInit msg => exact connOpenInit_endsIn hv
  | openTry msg => exact connOpenTry_endsIn hv
  | openAck msg => exact connOpenAck_endsIn hv
  | openConfirm msg => exact connOpenConfirm_endsIn hv

/-! ### Channels -/

theorem ChannelMsg.EndsIn.refl {msg : ChannelMsg} {f : Fault ContextError} :
    msg.EndsIn H s (.error f) s := fun _ => ⟨rfl, .inl ⟨nofun, rfl⟩⟩

/-- A failure after a callback that only wrote the modules' state. -/
theorem ChannelMsg.EndsIn.callback {msg : ChannelMsg} {app : μ} {f : Fault ContextError} :
    msg.EndsIn H s (.error f) { s with app := app } := fun _ => ⟨rfl, .inl ⟨nofun, rfl⟩⟩

theorem ChannelMsg.EndsIn.panic {msg : ChannelMsg} {s' : Ctx CS Cons μ} {c : Panic} :
    msg.EndsIn H s (.error (.panic c)) s' := fun h => absurd h Result.not_returns_panic

theorem singleton_of_hopsLength {hops : List ConnectionId} {conn : ConnectionEnd}
    (hlen : hops.length = 1) (hconn : s.store.connectionUnder hops = some conn) :
    ∃ connId, hops = [connId] ∧ s.store.connection.connections connId = some conn := by
  obtain ⟨connId, rfl⟩ := List.length_eq_one_iff.mp hlen
  exact ⟨connId, rfl, hconn⟩

theorem chanOpenInit_endsIn (iso : H.Isolated) {msg : MsgChannelOpenInit}
    (hl : H.lookupModuleByPort msg.portIdOnA = some moduleId)
    (hv : chanOpenInitValidate H s moduleId msg = .ok ()) :
    Ensures (chanOpenInitExecute H moduleId msg) s ((ChannelMsg.openInit msg).EndsIn H s) := by
  obtain ⟨m, hm, conn, cs, hv⟩ := (ChannelMsg.openInit msg).valid_of_validate hv
  obtain ⟨connId, hhops, hconn⟩ := singleton_of_hopsLength hv.hops hv.connection
  refine Ensures.ofExcept_ok_bind hm ?_
  refine ensures_runCallback ((iso _ _ (moduleOf_eq hl hm)).openInit _ _ _ _ _ _) fun _ app _ => ?_
  refine Ensures.ofExcept_bind (fun _ _ => .callback) fun agreed _ => ?_
  obtain ⟨extras, version⟩ := agreed
  refine Ensures.index_zero_bind .panic fun _ => ?_
  refine Ensures.ofExcept_bind (fun _ _ => .callback) fun e he => ?_
  obtain ⟨rfl, -, ho⟩ := ChannelEnd.new_eq_ok.mp he
  refine openChannel_ensures (fun _ => .panic) fun _ => ⟨rfl, .inr ?_⟩
  exact ⟨_, _, .openInit hhops hconn hv.active ho, rfl⟩

theorem chanOpenTry_endsIn (iso : H.Isolated) {msg : MsgChannelOpenTry}
    (hl : H.lookupModuleByPort msg.portIdOnB = some moduleId)
    (hv : chanOpenTryValidate H s moduleId msg = .ok ()) :
    Ensures (chanOpenTryExecute H moduleId msg) s ((ChannelMsg.openTry msg).EndsIn H s) := by
  obtain ⟨m, hm, conn, connIdOnA, client, hv⟩ := (ChannelMsg.openTry msg).valid_of_validate hv
  obtain ⟨connId, hhops, -⟩ := singleton_of_hopsLength hv.hops hv.route.under
  refine Ensures.ofExcept_ok_bind hm ?_
  refine ensures_runCallback ((iso _ _ (moduleOf_eq hl hm)).openTry _ _ _ _ _ _) fun _ app _ => ?_
  refine Ensures.ofExcept_bind (fun _ _ => .callback) fun agreed _ => ?_
  obtain ⟨extras, version⟩ := agreed
  refine Ensures.index_zero_bind .panic fun _ => ?_
  refine Ensures.ofExcept_bind (fun _ _ => .callback) fun e he => ?_
  obtain ⟨rfl, -, -⟩ := ChannelEnd.new_eq_ok.mp he
  refine openChannel_ensures (fun _ => .panic) fun _ => ⟨rfl, .inr ?_⟩
  exact ⟨_, _, .openTry hhops hv.route hv.ordering (hv.usable.attested hv.chanEnd) hv.feature, rfl⟩

theorem chanOpenAck_endsIn (iso : H.Isolated) {msg : MsgChannelOpenAck}
    (hl : H.lookupModuleByPort msg.portIdOnA = some moduleId)
    (hv : chanOpenAckValidate H s moduleId msg = .ok ()) :
    Ensures (chanOpenAckExecute H moduleId msg) s ((ChannelMsg.openAck msg).EndsIn H s) := by
  obtain ⟨m, hm, e, conn, connIdOnB, client, hv⟩ := (ChannelMsg.openAck msg).valid_of_validate hv
  refine Ensures.ofExcept_ok_bind hm ?_
  refine ensures_runCallback ((iso _ _ (moduleOf_eq hl hm)).openAck _ _ _) fun _ app _ => ?_
  refine Ensures.ofExcept_bind (fun _ _ => .callback) fun extras _ => ?_
  refine Ensures.ofExcept_ok_bind (channelEnd_eq_ok.mpr hv.channel) ?_
  refine Ensures.index_zero_bind .panic fun connId _ => ⟨rfl, .inr ?_⟩
  exact ⟨_, _, .openAck hv.channel hv.state hv.route (hv.usable.attested hv.chanEnd), rfl⟩

theorem chanOpenConfirm_endsIn (iso : H.Isolated) {msg : MsgChannelOpenConfirm}
    (hl : H.lookupModuleByPort msg.portIdOnB = some moduleId)
    (hv : chanOpenConfirmValidate H s moduleId msg = .ok ()) :
    Ensures (chanOpenConfirmExecute H moduleId msg) s
      ((ChannelMsg.openConfirm msg).EndsIn H s) := by
  obtain ⟨m, hm, e, conn, connIdOnA, chanIdOnA, client, hv⟩ :=
    (ChannelMsg.openConfirm msg).valid_of_validate hv
  have hstores : (ChannelMsg.openConfirm msg).Stores H s _ _ :=
    .openConfirm hv.channel hv.state hv.counterparty hv.route (hv.usable.attested hv.chanEnd)
  refine Ensures.ofExcept_ok_bind hm ?_
  refine ensures_runCallback ((iso _ _ (moduleOf_eq hl hm)).openConfirm _ _) fun _ app _ => ?_
  refine Ensures.ofExcept_bind (fun _ _ => .callback) fun extras _ => ?_
  refine Ensures.ofExcept_ok_bind (channelEnd_eq_ok.mpr hv.channel) ?_
  refine Ensures.index_zero_bind .panic fun connId => ?_
  refine Ensures.ofExcept_bind (fun _ _ _ => ?_) fun chanId _ _ => ?_
  all_goals exact ⟨rfl, .inr ⟨_, _, hstores, rfl⟩⟩

/-- Both close handlers. Without a counterparty channel id they fail, with the end closed. -/
theorem chanClose_endsIn {msg : ChannelMsg} {key : ChannelKey} {log : String} {e : ChannelEnd}
    {callback : Module (Store CS Cons) μ →
      Callback (Store CS Cons) μ (Except ChannelError ModuleExtras)}
    {event : PortId → ChannelId → ConnectionId → IbcEvent}
    (hl : H.lookupModuleByPort key.1 = some moduleId)
    (hkeep : ∀ m, H.moduleOf key.1 = some m → (callback m).KeepsStore)
    (he : s.store.channel.channels key = some e)
    (hstores : msg.Stores H s key { e with state := .closed }) :
    Ensures (chanCloseExecute H moduleId key callback log event) s (msg.EndsIn H s) := by
  refine Ensures.ofExcept_bind (fun _ _ => .refl) fun m hm => ?_
  refine ensures_runCallback (hkeep m (moduleOf_eq hl hm)) fun _ app _ => ?_
  refine Ensures.ofExcept_bind (fun _ _ => .callback) fun extras _ => ?_
  refine Ensures.ofExcept_ok_bind (channelEnd_eq_ok.mpr he) ?_
  refine Ensures.ofExcept_bind (fun _ _ _ => ?_) fun chanId _ => ?_
  · exact ⟨rfl, .inr ⟨key, _, hstores, rfl⟩⟩
  · refine Ensures.index_zero_bind .panic fun connId _ => ?_
    exact ⟨rfl, .inr ⟨key, _, hstores, rfl⟩⟩

theorem chanCloseInit_endsIn (iso : H.Isolated) {msg : MsgChannelCloseInit}
    (hl : H.lookupModuleByPort msg.portIdOnA = some moduleId)
    (hv : chanCloseInitValidate H s moduleId msg = .ok ()) :
    Ensures (chanCloseInitExecute H moduleId msg) s ((ChannelMsg.closeInit msg).EndsIn H s) := by
  obtain ⟨_, -, e, conn, cs, hv⟩ := (ChannelMsg.closeInit msg).valid_of_validate hv
  exact chanClose_endsIn hl (fun m hm => (iso _ _ hm).closeInit _ _) hv.channel
    (.closeInit hv.channel hv.notClosed hv.connection hv.active)

theorem chanCloseConfirm_endsIn (iso : H.Isolated) {msg : MsgChannelCloseConfirm}
    (hl : H.lookupModuleByPort msg.portIdOnB = some moduleId)
    (hv : chanCloseConfirmValidate H s moduleId msg = .ok ()) :
    Ensures (chanCloseConfirmExecute H moduleId msg) s
      ((ChannelMsg.closeConfirm msg).EndsIn H s) := by
  obtain ⟨_, -, e, conn, connIdOnA, chanIdOnA, client, hv⟩ :=
    (ChannelMsg.closeConfirm msg).valid_of_validate hv
  exact chanClose_endsIn hl (fun m hm => (iso _ _ hm).closeConfirm _ _) hv.channel
    (.closeConfirm hv.channel hv.notClosed hv.counterparty hv.route
      (hv.usable.attested hv.chanEnd))

/-- **A channel message stores its end, or fails and stores nothing.** -/
theorem dispatch_channel_endsIn (iso : H.Isolated) (msg : ChannelMsg) :
    Ensures (dispatch H (.channel msg)) s (msg.EndsIn H s) := by
  unfold dispatch
  refine ensures_read_bind (Ensures.ofResult_bind (fun _ _ => .refl) fun _ hv => ?_)
  refine lookupModule_ensures hv fun _ hl hv => ?_
  cases msg with
  | openInit msg => exact chanOpenInit_endsIn iso hl hv
  | openTry msg => exact chanOpenTry_endsIn iso hl hv
  | openAck msg => exact chanOpenAck_endsIn iso hl hv
  | openConfirm msg => exact chanOpenConfirm_endsIn iso hl hv
  | closeInit msg => exact chanCloseInit_endsIn iso hl hv
  | closeConfirm msg => exact chanCloseConfirm_endsIn iso hl hv

/-! ### Packets -/

/-- All ends a store keeps. -/
def Store.ends (st : Store CS Cons) : ConnectionStore × (ChannelKey → Option ChannelEnd) :=
  (st.connection, st.channel.channels)

/-- Whether the message times a packet out. -/
def PacketMsg.isTimeout : PacketMsg → Bool
  | .recv _ => false
  | .ack _ => false
  | .timeout _ => true
  | .timeoutOnClose _ => true

theorem runCallback_preserves {α τ : Type} {part : Store CS Cons → τ}
    {f : Callback (Store CS Cons) μ α} (hf : f.KeepsStore) :
    Preserves (fun s => part s.store) (runCallback f : Handler CS Cons μ α) :=
  fun s => congrArg part (hf s.store s.app)

theorem markReceived_preserves (ordering : Order) (p : Packet) :
    Preserves (fun s => s.store.ends) (markReceived ordering p : Handler CS Cons μ Unit) := by
  cases ordering with
  | none => exact preserves_pure ()
  | unordered => exact preserves_write fun _ => rfl
  | ordered =>
    refine Preserves.read_bind fun _ => Preserves.ofResult_bind fun _ => ?_
    exact Preserves.ofResult_bind fun _ => preserves_write fun _ => rfl

theorem recvPacket_preserves (iso : H.Isolated) {msg : MsgRecvPacket}
    (hl : H.lookupModuleByPort msg.packet.portIdOnB = some moduleId) :
    Preserves (fun s => s.store.ends) (recvPacketExecute H moduleId msg) := by
  refine Preserves.read_bind fun _ => Preserves.ofResult_bind fun e => ?_
  refine Preserves.ofResult_bind fun already => Preserves.ite (preserves_pure ()) ?_
  refine Preserves.ofExcept_bind fun m hm => ?_
  refine (runCallback_preserves ((iso _ _ (moduleOf_eq hl hm)).recvPacket _ _)).bind fun _ => ?_
  refine Preserves.write_bind (fun _ => rfl) ?_
  refine (markReceived_preserves _ _).bind fun _ => ?_
  refine Preserves.write_bind (fun _ => rfl) <| Preserves.write_bind (fun _ => rfl) <|
    Preserves.write_bind (fun _ => rfl) <| Preserves.ofResult_bind fun _ => ?_
  exact Preserves.write_bind (fun _ => rfl) <| Preserves.write_bind (fun _ => rfl) <|
    Preserves.write_bind (fun _ => rfl) <| Preserves.write_bind (fun _ => rfl) <|
    preserves_write fun _ => rfl

theorem advanceNextSequenceAck_preserves (ordering : Order) (p : Packet) :
    Preserves (fun s => s.store.ends)
      (advanceNextSequenceAck ordering p : Handler CS Cons μ Unit) :=
  Preserves.ite (Preserves.ofResult_bind fun _ => preserves_write fun _ => rfl) (preserves_pure ())

theorem acknowledgementPacket_preserves (iso : H.Isolated) {msg : MsgAcknowledgement}
    (hl : H.lookupModuleByPort msg.packet.portIdOnA = some moduleId) :
    Preserves (fun s => s.store.ends) (acknowledgementPacketExecute H moduleId msg) := by
  refine Preserves.read_bind fun s => Preserves.ofResult_bind fun e => ?_
  refine Preserves.ofResult_bind fun _ => Preserves.write_bind (fun _ => rfl) <|
    Preserves.write_bind (fun _ => rfl) ?_
  cases s.getPacketCommitment msg.packet.keyOnA with
  | error _ => exact preserves_pure ()
  | ok _ =>
    refine Preserves.ofExcept_bind fun m hm => ?_
    refine (runCallback_preserves
      ((iso _ _ (moduleOf_eq hl hm)).acknowledgePacket _ _ _)).bind fun answer => ?_
    refine Preserves.write_bind (fun _ => rfl) <| Preserves.ofResult_bind fun _ => ?_
    refine Preserves.write_bind (fun _ => rfl) ?_
    refine (advanceNextSequenceAck_preserves _ _).bind fun _ => ?_
    exact Preserves.write_bind (fun _ => rfl) <| preserves_write fun _ => rfl

theorem sendPacket_preserves (p : Packet) :
    Preserves (fun s => s.store.ends) (sendPacket H p) := by
  refine Preserves.read_bind fun _ => Preserves.ofResult_bind fun _ => ?_
  refine Preserves.read_bind fun _ => Preserves.ofResult_bind fun _ => ?_
  refine Preserves.ofResult_bind fun _ => Preserves.write_bind (fun _ => rfl) <|
    Preserves.ofResult_bind fun _ => Preserves.write_bind (fun _ => rfl) <|
    Preserves.write_bind (fun _ => rfl) ?_
  refine Preserves.read_bind fun _ => Preserves.ofResult_bind fun _ => ?_
  exact Preserves.ofResult_bind fun _ => Preserves.write_bind (fun _ => rfl) <|
    Preserves.write_bind (fun _ => rfl) <| preserves_write fun _ => rfl

/-- The end of an ordered channel that a timeout closes. -/
def ClosesOrdered (s s' : Ctx CS Cons μ) (key : ChannelKey) : Prop :=
  ∃ e, s.store.channel.channels key = some e ∧ e.ordering = .ordered ∧
    s'.store.channel.channels =
      Function.update s.store.channel.channels key (some { e with state := .closed })

/-- No end is written; only a timeout may close the ordered channel under `key`. -/
def EndsKept (s : Ctx CS Cons μ) (key : ChannelKey) (isTimeout : Bool)
    (r : Result ContextError Unit) (s' : Ctx CS Cons μ) : Prop :=
  r.Returns → s'.store.connection = s.store.connection ∧
    (s'.store.channel.channels = s.store.channel.channels ∨
      (isTimeout = true ∧ ClosesOrdered s s' key))

theorem EndsKept.of_eq {key : ChannelKey} {b : Bool} {r : Result ContextError Unit}
    {s' : Ctx CS Cons μ} (h : s'.store.ends = s.store.ends) : EndsKept s key b r s' :=
  fun _ => ⟨congrArg Prod.fst h, .inl (congrArg Prod.snd h)⟩

theorem timeoutPacket_ends (iso : H.Isolated) (msg : TimeoutMsgType)
    (hl : H.lookupModuleByPort msg.packet.portIdOnA = some moduleId) :
    Ensures (timeoutPacketExecute H moduleId msg) s (EndsKept s msg.packet.chanOnA true) := by
  refine Ensures.ofExcept_bind (fun _ _ => .of_eq rfl) fun e he => ?_
  refine Exec.ensures_write_bind (Exec.ensures_write_bind ?_)
  cases s.getPacketCommitment msg.packet.keyOnA with
  | error _ => exact .of_eq rfl
  | ok cm =>
    refine Ensures.ofExcept_bind (fun _ _ => .of_eq rfl) fun m hm => ?_
    refine ensures_runCallback ((iso _ _ (moduleOf_eq hl hm)).timeoutPacket _ _)
      fun answer app _ => ?_
    obtain ⟨extras, r⟩ := answer
    refine Ensures.ofExcept_bind (fun _ _ => .of_eq rfl) fun _ _ => ?_
    by_cases ho : e.ordering = .ordered
    · simp only [closeIfOrdered, emitChannelClosed, if_pos ho, Exec.bind_assoc]
      refine Ensures.index_zero_bind (fun h => absurd h Result.not_returns_panic) fun connId _ => ?_
      exact ⟨rfl, .inr ⟨rfl, e, channelEnd_eq_ok.mp he, ho, rfl⟩⟩
    · simp only [closeIfOrdered, emitChannelClosed, if_neg ho]
      exact .of_eq rfl

/-- **A packet message writes no end, except that a timeout closes an ordered channel.** -/
theorem dispatch_packet_ends (iso : H.Isolated) (msg : PacketMsg) :
    Ensures (dispatch H (.packet msg)) s (EndsKept s msg.packet.chanOnA msg.isTimeout) := by
  unfold dispatch
  refine ensures_read_bind (Ensures.ofResult_bind (fun _ _ => .of_eq rfl) fun _ _ => ?_)
  refine Ensures.ofExcept_bind (fun _ _ => .of_eq rfl) fun id hl => ?_
  have hl := lookupModule_eq_ok.mp hl
  cases msg with
  | recv msg => exact .of_eq (recvPacket_preserves iso hl s)
  | ack msg => exact .of_eq (acknowledgementPacket_preserves iso hl s)
  | timeout msg => exact timeoutPacket_ends iso (.timeout msg) hl
  | timeoutOnClose msg => exact timeoutPacket_ends iso (.timeoutOnClose msg) hl

/-! ### Every step -/

variable {i : Input Cons μ} {s' : Ctx CS Cons μ}

/-- Which ends a step writes: none, one of a connection, or one of a channel. -/
theorem Step.ends_cases (iso : H.Isolated) (h : Step H i s s') :
    (s'.store.connection = s.store.connection ∧
        s'.store.channel.channels = s.store.channel.channels) ∨
      (s'.store.channel.channels = s.store.channel.channels ∧
        ∃ msg id e, i = .dispatch (.connection msg) ∧ msg.Stores H s id e ∧
          s'.store.connection.connections =
            Function.update s.store.connection.connections id (some e) ∧
          s'.store.connection.connectionIdsCounter =
            s.store.connection.connectionIdsCounter + msg.opened ∧
          ∀ client, client ≠ e.clientId → s'.store.connection.clientConnections client =
            s.store.connection.clientConnections client) ∨
      (s'.store.connection = s.store.connection ∧
        ((∃ msg key e, i = .dispatch (.channel msg) ∧ msg.Stores H s key e ∧
            s'.store.channel.channels = Function.update s.store.channel.channels key (some e)) ∨
          ∃ msg, i = .dispatch (.packet msg) ∧ msg.isTimeout = true ∧
            ClosesOrdered s s' msg.packet.chanOnA)) := by
  obtain ⟨r, hrun, hr⟩ := h
  cases i with
  | newBlock env =>
    cases hrun
    exact .inl ⟨rfl, rfl⟩
  | application app =>
    cases hrun
    exact .inl ⟨rfl, rfl⟩
  | sendPacket p =>
    have hp := sendPacket_preserves (H := H) p s
    rw [show sendPacket H p s = (r, s') from hrun] at hp
    exact .inl ⟨congrArg Prod.fst hp, congrArg Prod.snd hp⟩
  | dispatch msg =>
    have hrun : dispatch H msg s = (r, s') := hrun
    cases msg with
    | client msg =>
      have hp := dispatch_client_preserves (H := H) msg s
      rw [hrun] at hp
      exact .inl ⟨congrArg Prod.fst hp, congrArg (·.2.1.channels) hp⟩
    | connection msg =>
      have hp := dispatch_connection_preserves (H := H) msg s
      have he := dispatch_connection_endsIn (H := H) (s := s) msg
      rw [hrun] at hp
      rw [Ensures, hrun] at he
      have hchannels := congrArg (·.2.1.channels) hp
      obtain ⟨-, he⟩ | ⟨id, e, hst, hc, hn⟩ := he hr
      · exact .inl ⟨he, hchannels⟩
      · exact .inr (.inl ⟨hchannels, msg, id, e, rfl, hst, hc, hn⟩)
    | channel msg =>
      have he := dispatch_channel_endsIn iso (s := s) msg
      rw [Ensures, hrun] at he
      obtain ⟨hconn, ⟨-, hc⟩ | ⟨key, e, hst, hc⟩⟩ := he hr
      · exact .inl ⟨hconn, hc⟩
      · exact .inr (.inr ⟨hconn, .inl ⟨msg, key, e, rfl, hst, hc⟩⟩)
    | packet msg =>
      have he := dispatch_packet_ends iso (s := s) msg
      rw [Ensures, hrun] at he
      obtain ⟨hconn, hc | ⟨ht, hc⟩⟩ := he hr
      · exact .inl ⟨hconn, hc⟩
      · exact .inr (.inr ⟨hconn, .inr ⟨msg, rfl, ht, hc⟩⟩)

/-- **Only a connection message writes the connection store.** -/
theorem Step.connections (iso : H.Isolated) (h : Step H i s s') :
    s'.store.connection = s.store.connection ∨
      ∃ msg id e, i = .dispatch (.connection msg) ∧ msg.Stores H s id e ∧
        s'.store.connection.connections =
          Function.update s.store.connection.connections id (some e) ∧
        s'.store.connection.connectionIdsCounter =
          s.store.connection.connectionIdsCounter + msg.opened ∧
        ∀ client, client ≠ e.clientId → s'.store.connection.clientConnections client =
          s.store.connection.clientConnections client := by
  obtain ⟨hconn, -⟩ | ⟨-, hstores⟩ | ⟨hconn, -⟩ := h.ends_cases iso
  · exact .inl hconn
  · exact .inr hstores
  · exact .inl hconn

/-- **Only a channel message, or a timeout on an ordered channel, writes a channel end.** -/
theorem Step.channels (iso : H.Isolated) (h : Step H i s s') :
    s'.store.channel.channels = s.store.channel.channels ∨
      (∃ msg key e, i = .dispatch (.channel msg) ∧ msg.Stores H s key e ∧
        s'.store.channel.channels = Function.update s.store.channel.channels key (some e)) ∨
      ∃ msg, i = .dispatch (.packet msg) ∧ msg.isTimeout = true ∧
        ClosesOrdered s s' msg.packet.chanOnA := by
  obtain ⟨-, hchannels⟩ | ⟨hchannels, -⟩ | ⟨-, hwrites⟩ := h.ends_cases iso
  · exact .inl hchannels
  · exact .inl hchannels
  · exact .inr hwrites

/-! ### Properties of all ends -/

/-- A property of connection ends is kept when the messages store only ends that have it. -/
theorem Step.connection_ends {P : ConnectionId → ConnectionEnd → Prop} (iso : H.Isolated)
    (h : Step H i s s') (hP : ∀ id e, s.store.connection.connections id = some e → P id e)
    (hnew : ∀ msg id e, i = .dispatch (.connection msg) → msg.Stores H s id e → P id e) :
    ∀ id e, s'.store.connection.connections id = some e → P id e := by
  intro id e he
  obtain heq | ⟨msg, id', e', hi, hst, hc, -⟩ := h.connections iso
  · exact hP id e (heq ▸ he)
  · rw [hc, Function.update_apply] at he
    split_ifs at he with hid
    · cases he
      exact hid ▸ hnew msg id' e hi hst
    · exact hP id e he

/-- So is one of channel ends, if an end that is closed keeps it too. -/
theorem Step.channel_ends {P : ChannelKey → ChannelEnd → Prop} (iso : H.Isolated)
    (h : Step H i s s') (hP : ∀ key e, s.store.channel.channels key = some e → P key e)
    (hnew : ∀ msg key e, i = .dispatch (.channel msg) → msg.Stores H s key e → P key e)
    (hclose : ∀ key e, P key e → P key { e with state := .closed }) :
    ∀ key e, s'.store.channel.channels key = some e → P key e := by
  intro key e he
  obtain heq | ⟨msg, key', e', hi, hst, hc⟩ | ⟨msg, -, -, e', he', -, hc⟩ := h.channels iso
  · exact hP key e (heq ▸ he)
  all_goals rw [hc, Function.update_apply] at he
  all_goals split_ifs at he with hkey
  · cases he
    exact hkey ▸ hnew msg key' e hi hst
  · exact hP key e he
  · cases he
    exact hclose key e' (hkey ▸ hP _ e' he')
  · exact hP key e he

/-- Past `init` a connection end has settled on one version. -/
theorem Reachable.connection_version (iso : H.Isolated) (h : Reachable H s) :
    ∀ id e, s.store.connection.connections id = some e → e.state ≠ .init →
      e.versions.length = 1 := by
  induction h with
  | init s hst =>
    rw [hst]
    exact nofun
  | step i _ hs ih =>
    refine hs.connection_ends (P := fun _ e => e.state ≠ .init → e.versions.length = 1) iso ih ?_
    intro msg id e _ hst hne
    cases hst with
    | openInit => exact absurd rfl hne
    | openTry | openAck => rfl
    | openConfirm he hs =>
      have hsingle := ih _ _ he (by simp [hs])
      exact hsingle

/-- A step keeps the connections, up to what they hold. -/
theorem Step.connection_stays (iso : H.Isolated) (h : Step H i s s') {connId : ConnectionId}
    {conn : ConnectionEnd} (hconn : s.store.connection.connections connId = some conn) :
    ∃ conn', s'.store.connection.connections connId = some conn' := by
  obtain heq | ⟨_, id, e, -, -, hc, -⟩ := h.connections iso
  · exact ⟨conn, by rw [heq, hconn]⟩
  · rw [hc, Function.update_apply]
    split_ifs
    · exact ⟨e, rfl⟩
    · exact ⟨conn, hconn⟩

/-- A channel end has one hop, to a connection that exists. -/
theorem Reachable.channel_hop (iso : H.Isolated) (h : Reachable H s) :
    ∀ key e, s.store.channel.channels key = some e →
      ∃ connId conn, e.connectionHops = [connId] ∧
        s.store.connection.connections connId = some conn := by
  induction h with
  | init s hst =>
    rw [hst]
    exact nofun
  | @step s s' i _ hs ih =>
    intro key e he
    obtain ⟨connId, conn, hhops, hconn⟩ := hs.channel_ends (P := fun _ e =>
      ∃ connId conn, e.connectionHops = [connId] ∧
        s.store.connection.connections connId = some conn) iso ih (by
      intro msg key e _ hst
      cases hst with
      | openInit hhops hconn => exact ⟨_, _, hhops, hconn⟩
      | openTry hhops hroute =>
        have hunder := hroute.under
        rw [hhops] at hunder
        exact ⟨_, _, hhops, hunder⟩
      | openAck he | openConfirm he | closeInit he | closeConfirm he =>
        have hhop := ih _ _ he
        exact hhop) (fun _ _ hhop => hhop) key e he
    obtain ⟨conn', hconn'⟩ := hs.connection_stays iso hconn
    exact ⟨connId, conn', hhops, hconn'⟩

end Handlers

end Ibc
