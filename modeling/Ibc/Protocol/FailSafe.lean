import Ibc.Protocol.Delay
import Ibc.Protocol.Handshake
import Ibc.Protocol.ProofSystem

/-!
# What a failed message leaves behind

A handler that fails before its first write leaves the store as it was. Some fail later: after the
callback of the module succeeded, a channel handler still needs a channel end, its counterparty's
channel id or an ordering, and a receiving handler the next sequence. `Strands` says, message by
message, that what is needed is not there: it speaks of the message, of the state before it and of
what the callback did.

* **`dispatch_error_keeps_store_iff`**: a message that fails leaves the store as it was exactly when
  it does not strand. If no callback writes the store, the one message that strands is
  `MsgChannelCloseInit` on an end that does not know its counterparty's channel id.
* **`closeInit_strands`**: the mock host reaches such an end.
-/

namespace Ibc

variable {CS Cons μ : Type}

/-! ### Modules and light clients that fail safely -/

/-- A callback with a failed answer leaves the store as it was. -/
def Callback.FailSafe {St α : Type} (f : Callback St μ α) (failed : α → Prop) : Prop :=
  ∀ st a, failed (f st a).1 → (f st a).2.1 = st

/-- A callback of the handshake that fails leaves the store as it was. -/
abbrev Callback.HandshakeFailSafe {St α : Type} (f : Callback St μ (Except ChannelError α)) :
    Prop :=
  f.FailSafe fun r => r.isOk = false

/-- A packet callback that fails leaves the store as it was. -/
abbrev Callback.PacketFailSafe {St : Type}
    (f : Callback St μ (ModuleExtras × Except PacketError Unit)) : Prop :=
  f.FailSafe fun r => r.2.isOk = false

/-- A module's callbacks leave the store as it was when they fail. Receiving a packet cannot. -/
structure Module.FailSafe {St : Type} (m : Module St μ) : Prop where
  openInit : ∀ o hops p c cp v, (m.onChanOpenInitExecute o hops p c cp v).HandshakeFailSafe
  openTry : ∀ o hops p c cp v, (m.onChanOpenTryExecute o hops p c cp v).HandshakeFailSafe
  openAck : ∀ p c v, (m.onChanOpenAckExecute p c v).HandshakeFailSafe
  openConfirm : ∀ p c, (m.onChanOpenConfirmExecute p c).HandshakeFailSafe
  closeInit : ∀ p c, (m.onChanCloseInitExecute p c).HandshakeFailSafe
  closeConfirm : ∀ p c, (m.onChanCloseConfirmExecute p c).HandshakeFailSafe
  acknowledgePacket : ∀ p a r, (m.onAcknowledgementPacketExecute p a r).PacketFailSafe
  timeoutPacket : ∀ p r, (m.onTimeoutPacketExecute p r).PacketFailSafe

/-- The client's operations check before they write, and an update names a height. -/
structure LightClient.FailSafe (L : LightClient CS Cons) : Prop where
  initialise : ∀ cs id cons, (L.initialise cs id cons).Atomic
  updateState : ∀ cs id msg, (L.updateState cs id msg).Atomic
  updateStateOnMisbehaviour : ∀ cs id msg k, (L.updateStateOnMisbehaviour cs id msg k).Atomic
  updateStateOnUpgrade : ∀ cs id ucs ucons, (L.updateStateOnUpgrade cs id ucs ucons).Atomic
  names_height : ∀ cs id msg c, (L.updateState cs id msg c).1 ≠ .ok []

/-- Every module of the host, and its light client, fail safely. -/
structure Host.FailSafe (H : Host CS Cons μ) : Prop where
  modules : ∀ port m, H.moduleOf port = some m → m.FailSafe
  lightClient : H.lightClient.FailSafe

/-! ### Failures after the callback -/

/-- The callback succeeds, and `P` holds of the store that it leaves. -/
def Callback.Leaves {St ε α : Type} (f : Callback St μ (Except ε α)) (st : St) (a : μ)
    (P : St → Prop) : Prop :=
  (f st a).1.isOk = true ∧ P (f st a).2.1

/-- No end under the key knows its counterparty's channel id. -/
def Store.Unanswered (st : Store CS Cons) (key : ChannelKey) : Prop :=
  ∀ e, st.channel.channels key = some e → e.remote.channelId = none

/-- The callback of a handshake message succeeds, and then something is missing: an ordering, after
the callback wrote the store; the channel end; or its counterparty's channel id. -/
def ChannelMsg.FailsLate (s : Ctx CS Cons μ) (m : Module (Store CS Cons) μ) : ChannelMsg → Prop
  | .openInit msg => (m.onChanOpenInitExecute msg.ordering msg.connectionHopsOnA msg.portIdOnA
      (.new s.store.channel.channelIdsCounter) ⟨msg.portIdOnB, none⟩ msg.versionProposal).Leaves
      s.store s.app fun st => msg.ordering = .none ∧ st ≠ s.store
  | .openTry msg => (m.onChanOpenTryExecute msg.ordering msg.connectionHopsOnB msg.portIdOnB
      (.new s.store.channel.channelIdsCounter) ⟨msg.portIdOnA, some msg.chanIdOnA⟩
      msg.versionSupportedOnA).Leaves s.store s.app fun st => msg.ordering = .none ∧ st ≠ s.store
  | .openAck msg => (m.onChanOpenAckExecute msg.portIdOnA msg.chanIdOnA msg.versionOnB).Leaves
      s.store s.app fun st => st.channel.channels (msg.portIdOnA, msg.chanIdOnA) = none
  | .openConfirm msg => (m.onChanOpenConfirmExecute msg.portIdOnB msg.chanIdOnB).Leaves
      s.store s.app (·.Unanswered (msg.portIdOnB, msg.chanIdOnB))
  | .closeInit msg => (m.onChanCloseInitExecute msg.portIdOnA msg.chanIdOnA).Leaves
      s.store s.app (·.Unanswered (msg.portIdOnA, msg.chanIdOnA))
  | .closeConfirm msg => (m.onChanCloseConfirmExecute msg.portIdOnB msg.chanIdOnB).Leaves
      s.store s.app (·.Unanswered (msg.portIdOnB, msg.chanIdOnB))

/-- The callback of a receiving handler removes the next sequence of an ordered channel. -/
def MsgRecvPacket.FailsLate (s : Ctx CS Cons μ) (m : Module (Store CS Cons) μ)
    (msg : MsgRecvPacket) (e : ChannelEnd) : Prop :=
  e.ordering = .ordered ∧ (m.onRecvPacketExecute msg.packet msg.signer s.store
    s.app).2.1.channel.nextSequenceRecv msg.packet.chanOnB = none

/-- The message is valid, its callback succeeds, and then something is missing. -/
def Strands (H : Host CS Cons μ) (s : Ctx CS Cons μ) : MsgEnvelope → Prop
  | .channel msg => ∃ m, H.moduleOf msg.localPort = some m ∧ msg.Valid H s m ∧ msg.FailsLate s m
  | .packet (.recv msg) => ∃ m e conn client, H.moduleOf msg.packet.portIdOnB = some m ∧
      msg.Valid H s e conn client ∧ msg.FailsLate s m e
  | _ => False

/-- An error leaves the store `st`. -/
def FailsLeaving (st : Store CS Cons) (r : Result ContextError Unit) (s' : Ctx CS Cons μ) : Prop :=
  ∀ e, r = .error (.err e) → s'.store = st

/-- An error leaves the store `st` exactly when `c` does not hold. -/
def FailsKeeping (st : Store CS Cons) (c : Prop) (r : Result ContextError Unit)
    (s' : Ctx CS Cons μ) : Prop :=
  ∀ e, r = .error (.err e) → (s'.store = st ↔ ¬ c)

section Handlers

open Exec

variable {H : Host CS Cons μ} {s : Ctx CS Cons μ} {moduleId : ModuleId} {st : Store CS Cons}

theorem FailsLeaving.ok {s' : Ctx CS Cons μ} : FailsLeaving st (.ok ()) s' := fun _ h => nomatch h

theorem FailsLeaving.panic {s' : Ctx CS Cons μ} {c : Panic} :
    FailsLeaving st (.error (.panic c)) s' :=
  fun _ h => nomatch h

theorem FailsLeaving.of_store {r : Result ContextError Unit} {s' : Ctx CS Cons μ}
    (h : s'.store = st) : FailsLeaving st r s' := fun _ _ => h

theorem FailsKeeping.ok {c : Prop} {s' : Ctx CS Cons μ} : FailsKeeping st c (.ok ()) s' :=
  fun _ h => nomatch h

theorem FailsKeeping.panic {c : Prop} {s' : Ctx CS Cons μ} {cause : Panic} :
    FailsKeeping st c (.error (.panic cause)) s' :=
  fun _ h => nomatch h

theorem FailsKeeping.keeps {c : Prop} {r : Result ContextError Unit} {s' : Ctx CS Cons μ}
    (h : s'.store = st) (hc : ¬ c) : FailsKeeping st c r s' := fun _ _ => iff_of_true h hc

theorem FailsKeeping.changes {c : Prop} {r : Result ContextError Unit} {s' : Ctx CS Cons μ}
    (h : s'.store ≠ st) (hc : c) : FailsKeeping st c r s' :=
  fun _ _ => iff_of_false h (not_not.mpr hc)

/-! ### Client and connection messages -/

theorem runClient_ensures {α : Type} {x : Exec (Clients CS Cons) ClientError α} (hx : x.Atomic)
    {f : α → Handler CS Cons μ Unit}
    (hf : ∀ a c, x s.store.client.clients = (.ok a, c) →
      Ensures (f a) (s.onClient fun cl => { cl with clients := c }) (FailsLeaving s.store)) :
    Ensures (runClient x >>= f) s (FailsLeaving s.store) := by
  refine ensures_runClient (fun e c hr => ?_) (fun _ _ => .panic) hf
  have hatomic := hx s.store.client.clients
  rw [Ensures, hr] at hatomic
  obtain rfl : c = s.store.client.clients := hatomic e rfl
  exact .of_store rfl

theorem createClient_failsLeaving (hL : H.lightClient.FailSafe) (msg : MsgCreateClient) :
    Ensures (createClientExecute H msg) s (FailsLeaving s.store) := by
  unfold createClientExecute
  refine ensures_read_bind (Ensures.ofResult_bind (fun _ _ => .of_store rfl) fun cs _ => ?_)
  refine Ensures.ofExcept_bind (fun _ _ => .of_store rfl) fun id _ => ?_
  refine runClient_ensures (hL.initialise _ _ _) fun _ c _ => ?_
  refine ensures_write_bind (ensures_write_bind ?_)
  simp only [increaseClientCounter, Exec.bind_assoc]
  exact ensures_read_bind (Ensures.addU64_bind .panic fun _ => FailsLeaving.ok)

theorem updateClient_failsLeaving (hL : H.lightClient.FailSafe) (msg : MsgUpdateOrMisbehaviour) :
    Ensures (updateClientExecute H msg) s (FailsLeaving s.store) := by
  unfold updateClientExecute
  refine ensures_read_bind (Ensures.ofExcept_bind (fun _ _ => .of_store rfl) fun cs _ => ?_)
  refine Ensures.ofResult_bind (fun _ _ => .of_store rfl) fun found _ => ?_
  refine Ensures.ite (fun _ => ?_) fun _ => ?_
  · exact runClient_ensures (hL.updateStateOnMisbehaviour _ _ _ _) fun _ _ _ => FailsLeaving.ok
  · refine Ensures.ofExcept_bind (fun _ _ => .of_store rfl) fun _ _ => ?_
    refine runClient_ensures (hL.updateState _ _ _) fun heights c hc => ?_
    -- The update times are written before the first height is looked at.
    cases heights with
    | nil => exact absurd (by rw [hc]) (hL.names_height cs msg.clientId msg.clientMessage _)
    | cons height _ => exact FailsLeaving.ok

theorem upgradeClient_failsLeaving (hL : H.lightClient.FailSafe) (msg : MsgUpgradeClient) :
    Ensures (upgradeClientExecute H msg) s (FailsLeaving s.store) := by
  unfold upgradeClientExecute
  refine ensures_read_bind (Ensures.ofExcept_bind (fun _ _ => .of_store rfl) fun cs _ => ?_)
  exact runClient_ensures (hL.updateStateOnUpgrade _ _ _ _) fun _ _ _ => FailsLeaving.ok

theorem clientMsg_failsLeaving (hL : H.lightClient.FailSafe) (msg : ClientMsg) :
    Ensures (msg.execute H) s (FailsLeaving s.store) := by
  cases msg with
  | createClient msg => exact createClient_failsLeaving hL msg
  | updateClient msg => exact updateClient_failsLeaving hL msg.toUpdate
  | misbehaviour msg => exact updateClient_failsLeaving hL msg.toUpdate
  | upgradeClient msg => exact upgradeClient_failsLeaving hL msg

theorem connOpenInit_failsLeaving (msg : MsgConnectionOpenInit) :
    Ensures (connOpenInitExecute H msg) s (FailsLeaving s.store) := by
  unfold connOpenInitExecute
  refine ensures_read_bind (Ensures.ofExcept_bind (fun _ _ => .of_store rfl) fun versions _ => ?_)
  refine Ensures.ofExcept_bind (fun _ _ => .of_store rfl) fun connEnd _ => ?_
  refine ensures_write_bind (ensures_write_bind (ensures_write_bind ?_))
  exact increaseConnectionCounter_ensures (fun _ => .panic) FailsLeaving.ok

theorem connOpenTry_failsLeaving (msg : MsgConnectionOpenTry) :
    Ensures (connOpenTryExecute H msg) s (FailsLeaving s.store) := by
  unfold connOpenTryExecute
  refine ensures_read_bind (Ensures.ofExcept_bind (fun _ _ => .of_store rfl) fun vars _ => ?_)
  refine Ensures.ofExcept_bind (fun _ _ => .of_store rfl) fun connId _ => ?_
  refine ensures_write_bind (ensures_write_bind (ensures_write_bind ?_))
  exact increaseConnectionCounter_ensures (fun _ => .panic) FailsLeaving.ok

theorem connOpenAck_failsLeaving (msg : MsgConnectionOpenAck) :
    Ensures (connOpenAckExecute msg) s (FailsLeaving s.store) := by
  unfold connOpenAckExecute
  refine ensures_read_bind (Ensures.ofExcept_bind (fun _ _ => .of_store rfl) fun connEnd _ => ?_)
  exact FailsLeaving.ok

theorem connOpenConfirm_failsLeaving (msg : MsgConnectionOpenConfirm) :
    Ensures (connOpenConfirmExecute msg) s (FailsLeaving s.store) := by
  unfold connOpenConfirmExecute
  refine ensures_read_bind (Ensures.ofExcept_bind (fun _ _ => .of_store rfl) fun connEnd _ => ?_)
  exact Ensures.ofExcept_bind (fun _ _ => .of_store rfl) fun _ _ => FailsLeaving.ok

theorem connectionMsg_failsLeaving (msg : ConnectionMsg) :
    Ensures (msg.execute H) s (FailsLeaving s.store) := by
  cases msg with
  | openInit msg => exact connOpenInit_failsLeaving msg
  | openTry msg => exact connOpenTry_failsLeaving msg
  | openAck msg => exact connOpenAck_failsLeaving msg
  | openConfirm msg => exact connOpenConfirm_failsLeaving msg

/-! ### The channel handshake -/

/-- The rule for a callback that may write the store. -/
theorem callback_ensures {α : Type} {f : Callback (Store CS Cons) μ α}
    {g : α → Handler CS Cons μ Unit} {Q : Result ContextError Unit → Ctx CS Cons μ → Prop}
    (hg : Ensures (g (f s.store s.app).1)
      { s with store := (f s.store s.app).2.1, app := (f s.store s.app).2.2 } Q) :
    Ensures (runCallback f >>= g) s Q := hg

/-- The rule for a callback that may write the store, but not when it fails. -/
theorem handshakeCallback_ensures {α : Type}
    {f : Callback (Store CS Cons) μ (Except ChannelError α)} (hf : f.HandshakeFailSafe)
    {P : Store CS Cons → Prop} {g : α → Handler CS Cons μ Unit}
    (hg : ∀ a st app, Ensures (g a) { s with store := st, app := app }
      (FailsKeeping s.store (P st))) :
    Ensures (runCallback f >>= fun answer =>
      ofResult (Result.ofExcept (.channelError ·) answer) >>= g) s
      (FailsKeeping s.store (f.Leaves s.store s.app P)) := by
  have hsafe := hf s.store s.app
  refine callback_ensures ?_
  unfold Callback.Leaves
  rcases hr : f s.store s.app with ⟨e | a, st, app⟩
  · rw [hr] at hsafe
    exact .keeps (hsafe rfl) fun h => Bool.noConfusion h.1
  · refine (hg a st app).mono fun r s' h e he => (h e he).trans (not_congr ?_)
    exact (and_iff_right rfl).symm

/-- The rule for the route to a module that is known. -/
theorem route_ensures {m : Module (Store CS Cons) μ} (hm : channelRoute H moduleId = .ok m)
    {Q : Result ContextError Unit → Ctx CS Cons μ → Prop}
    {g : Module (Store CS Cons) μ → Handler CS Cons μ Unit} (hg : Ensures (g m) s Q) :
    Ensures (ofResult (Result.ofExcept (.channelError ·) (channelRoute H moduleId)) >>= g) s Q := by
  rw [hm]
  exact hg

/-- A new channel end is refused only for its ordering. -/
theorem ordering_eq_none {state : ChannelState} {ordering : Order} {remote : Counterparty}
    {hops : List ConnectionId} {version : ChannelVersion} {e : ChannelError}
    (hs : state ≠ .uninitialized)
    (h : ChannelEnd.new state ordering remote hops version = .error e) : ordering = .none := by
  by_contra ho
  have hok : ChannelEnd.new state ordering remote hops version = .ok _ :=
    ChannelEnd.new_eq_ok.mpr ⟨rfl, hs, ho⟩
  rw [h] at hok
  cases hok

/-- A store with another entry for a channel end is another store. -/
theorem store_ne_of_channels {st st' : Store CS Cons} {key : ChannelKey}
    (h : st.channel.channels key ≠ st'.channel.channels key) : st ≠ st' :=
  fun heq => h (congrArg (·.channel.channels key) heq)

/-- Storing an end in another state changes the store. -/
theorem store_ne_of_state {st : Store CS Cons} {key : ChannelKey} {e e' : ChannelEnd}
    {state : ChannelState} (he : s.store.channel.channels key = some e) (hs : e.state ≠ state) :
    { st with channel := st.channel.storeChannel key { e' with state := state } } ≠ s.store := by
  intro heq
  have hend := congrArg (·.channel.channels key) heq
  simp only [ChannelStore.storeChannel_channels, Function.update_self, he] at hend
  exact hs (congrArg ChannelEnd.state (Option.some.inj hend)).symm

section Module

variable {m : Module (Store CS Cons) μ} (hm : channelRoute H moduleId = .ok m) (hM : m.FailSafe)

include hm hM

theorem chanOpenInit_failsKeeping {msg : MsgChannelOpenInit} :
    Ensures (chanOpenInitExecute H moduleId msg) s
      (FailsKeeping s.store ((ChannelMsg.openInit msg).FailsLate s m)) := by
  unfold chanOpenInitExecute ChannelMsg.FailsLate
  refine ensures_read_bind (route_ensures hm ?_)
  refine handshakeCallback_ensures (hM.openInit _ _ _ _ _ _) fun agreed st app => ?_
  refine Ensures.index_zero_bind .panic fun connId => ?_
  refine Ensures.ofExcept_bind (fun _ he => ?_) fun e _ => ?_
  · have ho := ordering_eq_none (by simp) he
    by_cases hst : st = s.store
    · exact .keeps hst fun h => h.2 hst
    · exact .changes hst ⟨ho, hst⟩
  · exact openChannel_ensures (fun _ => .panic) FailsKeeping.ok

theorem chanOpenTry_failsKeeping {msg : MsgChannelOpenTry} :
    Ensures (chanOpenTryExecute H moduleId msg) s
      (FailsKeeping s.store ((ChannelMsg.openTry msg).FailsLate s m)) := by
  unfold chanOpenTryExecute ChannelMsg.FailsLate
  refine ensures_read_bind (route_ensures hm ?_)
  refine handshakeCallback_ensures (hM.openTry _ _ _ _ _ _) fun agreed st app => ?_
  refine Ensures.index_zero_bind .panic fun connId => ?_
  refine Ensures.ofExcept_bind (fun _ he => ?_) fun e _ => ?_
  · have ho := ordering_eq_none (by simp) he
    by_cases hst : st = s.store
    · exact .keeps hst fun h => h.2 hst
    · exact .changes hst ⟨ho, hst⟩
  · exact openChannel_ensures (fun _ => .panic) FailsKeeping.ok

theorem chanOpenAck_failsKeeping {msg : MsgChannelOpenAck} {e : ChannelEnd}
    (he : s.store.channel.channels (msg.portIdOnA, msg.chanIdOnA) = some e) :
    Ensures (chanOpenAckExecute H moduleId msg) s
      (FailsKeeping s.store ((ChannelMsg.openAck msg).FailsLate s m)) := by
  unfold chanOpenAckExecute ChannelMsg.FailsLate
  refine route_ensures hm ?_
  refine handshakeCallback_ensures (hM.openAck _ _ _) fun extras st app => ?_
  refine ensures_read_bind (Ensures.ofExcept_bind (fun _ hnone => ?_) fun e' _ => ?_)
  · have hnone := (Result.okOr_eq_error.mp hnone).1
    exact .changes (store_ne_of_channels (by rw [hnone, he]; nofun)) hnone
  · refine ensures_write_bind (ensures_write_bind ?_)
    exact Ensures.index_zero_bind .panic fun _ => FailsKeeping.ok

theorem chanOpenConfirm_failsKeeping {msg : MsgChannelOpenConfirm} {e : ChannelEnd}
    (he : s.store.channel.channels (msg.portIdOnB, msg.chanIdOnB) = some e)
    (hs : e.state ≠ .open) :
    Ensures (chanOpenConfirmExecute H moduleId msg) s
      (FailsKeeping s.store ((ChannelMsg.openConfirm msg).FailsLate s m)) := by
  unfold chanOpenConfirmExecute ChannelMsg.FailsLate
  refine route_ensures hm ?_
  refine handshakeCallback_ensures (hM.openConfirm _ _) fun extras st app => ?_
  refine ensures_read_bind (Ensures.ofExcept_bind (fun _ hnone => ?_) fun e' he' => ?_)
  · have hnone := (Result.okOr_eq_error.mp hnone).1
    exact .changes (store_ne_of_channels (by rw [hnone, he]; nofun))
      fun _ h => nomatch hnone.symm.trans h
  · refine ensures_write_bind (ensures_write_bind (Ensures.index_zero_bind .panic fun _ => ?_))
    refine Ensures.ofExcept_bind (fun _ hid => ?_) fun _ _ => FailsKeeping.ok
    refine .changes (store_ne_of_state he hs) fun e'' he'' => ?_
    obtain rfl : e' = e'' := Option.some.inj ((channelEnd_eq_ok.mp he').symm.trans he'')
    exact (Result.okOr_eq_error.mp hid).1

/-- Both close handlers: they close the end before they look for the counterparty's channel id. -/
theorem chanClose_failsKeeping {key : ChannelKey} {log : String} {e : ChannelEnd}
    {callback : Module (Store CS Cons) μ →
      Callback (Store CS Cons) μ (Except ChannelError ModuleExtras)}
    {event : PortId → ChannelId → ConnectionId → IbcEvent}
    (hsafe : m.FailSafe → (callback m).HandshakeFailSafe)
    (he : s.store.channel.channels key = some e) (hs : e.state ≠ .closed) :
    Ensures (chanCloseExecute H moduleId key callback log event) s
      (FailsKeeping s.store ((callback m).Leaves s.store s.app (·.Unanswered key))) := by
  unfold chanCloseExecute
  refine route_ensures hm ?_
  refine handshakeCallback_ensures (hsafe hM) fun extras st app => ?_
  refine ensures_read_bind (Ensures.ofExcept_bind (fun _ hnone => ?_) fun e' he' => ?_)
  · have hnone := (Result.okOr_eq_error.mp hnone).1
    exact .changes (store_ne_of_channels (by rw [hnone, he]; nofun))
      fun _ h => nomatch hnone.symm.trans h
  · refine ensures_write_bind (ensures_write_bind ?_)
    refine Ensures.ofExcept_bind (fun _ hid => ?_) fun _ _ => ?_
    · refine .changes (store_ne_of_state he hs) fun e'' he'' => ?_
      obtain rfl : e' = e'' := Option.some.inj ((channelEnd_eq_ok.mp he').symm.trans he'')
      exact (Result.okOr_eq_error.mp hid).1
    · exact Ensures.index_zero_bind .panic fun _ => FailsKeeping.ok

theorem channelMsg_failsKeeping {msg : ChannelMsg} (hv : msg.Valid H s m) :
    Ensures (msg.execute H moduleId) s (FailsKeeping s.store (msg.FailsLate s m)) := by
  cases msg with
  | openInit msg => exact chanOpenInit_failsKeeping hm hM
  | openTry msg => exact chanOpenTry_failsKeeping hm hM
  | openAck msg =>
    obtain ⟨e, _, _, _, hv⟩ := hv
    exact chanOpenAck_failsKeeping hm hM hv.channel
  | openConfirm msg =>
    obtain ⟨e, _, _, _, _, hv⟩ := hv
    exact chanOpenConfirm_failsKeeping hm hM hv.channel (by simp [hv.state])
  | closeInit msg =>
    obtain ⟨e, _, _, hv⟩ := hv
    exact chanClose_failsKeeping hm hM (fun h => h.closeInit _ _) hv.channel hv.notClosed
  | closeConfirm msg =>
    obtain ⟨e, _, _, _, _, hv⟩ := hv
    exact chanClose_failsKeeping hm hM (fun h => h.closeConfirm _ _) hv.channel hv.notClosed

end Module

/-! ### The packet life cycle -/

/-- After the callback, receiving fails only for want of the next sequence. -/
theorem recvPacket_failsKeeping {msg : MsgRecvPacket} {e : ChannelEnd} {conn : ConnectionEnd}
    {client : CS × Cons} (hl : H.lookupModuleByPort msg.packet.portIdOnB = some moduleId)
    (hv : msg.Valid H s e conn client) :
    Ensures (recvPacketExecute H moduleId msg) s
      (FailsKeeping s.store (Strands H s (.packet (.recv msg)))) := by
  have hstrands {m : Module (Store CS Cons) μ} (hm : channelRoute H moduleId = .ok m) :
      Strands H s (.packet (.recv msg)) ↔ msg.FailsLate s m e := by
    have hmod := moduleOf_eq hl hm
    constructor
    · rintro ⟨m', e', conn', client', hm', hv', hlate⟩
      obtain rfl : m' = m := Option.some.inj (hm'.symm.trans hmod)
      obtain rfl : e' = e := Option.some.inj (hv'.channel.symm.trans hv.channel)
      exact hlate
    · intro hlate
      exact ⟨m, e, conn, client, hmod, hv, hlate⟩
  have hunrouted (hnone : H.getRoute moduleId = none) : ¬ Strands H s (.packet (.recv msg)) := by
    rintro ⟨m, _, _, _, hm, -⟩
    rw [Host.moduleOf, hl, Option.bind_some, hnone] at hm
    cases hm
  unfold recvPacketExecute
  refine ensures_read_bind (Ensures.ofExcept_ok_bind (channelEnd_eq_ok.mpr hv.channel) ?_)
  obtain ⟨already, hal, -⟩ := hv.recvValid.alreadyReceived
  refine Ensures.ofExcept_ok_bind hal (Ensures.ite (fun _ => FailsKeeping.ok) fun _ => ?_)
  refine Ensures.ofExcept_bind (fun _ hm => ?_) fun m hm => ?_
  · exact .keeps rfl (hunrouted (Result.okOr_eq_error.mp hm).1)
  simp only [hstrands hm]
  refine callback_ensures ?_
  unfold MsgRecvPacket.FailsLate
  rcases m.onRecvPacketExecute msg.packet msg.signer s.store s.app with ⟨⟨extras, ack⟩, st, app⟩
  refine ensures_write_bind ?_
  cases ho : e.ordering with
  | none =>
    refine ensures_write_bind (ensures_write_bind (ensures_write_bind ?_))
    exact Ensures.index_zero_bind .panic fun _ => FailsKeeping.ok
  | unordered =>
    refine ensures_write_bind (ensures_write_bind (ensures_write_bind (ensures_write_bind ?_)))
    exact Ensures.index_zero_bind .panic fun _ => FailsKeeping.ok
  | ordered =>
    simp only [markReceived, Exec.bind_assoc]
    refine ensures_read_bind (Ensures.ofExcept_bind (fun _ hn => ?_) fun n _ => ?_)
    · have hnone := (Result.okOr_eq_error.mp hn).1
      -- The sequence was there before the callback.
      have hexp := hv.expected
      rw [ho, ChannelStore.Expects, if_pos rfl] at hexp
      obtain ⟨n, hnext, -⟩ := hexp
      refine .changes (fun heq => ?_) ⟨trivial, hnone⟩
      rw [← heq] at hnext
      cases hnone.symm.trans hnext
    · refine Ensures.addU64_bind .panic fun _ => ?_
      exact Ensures.index_zero_bind .panic fun _ => FailsKeeping.ok

/-- The rule for a packet callback: when it fails, the store is as it was. -/
theorem packetCallback_ensures
    {f : Callback (Store CS Cons) μ (ModuleExtras × Except PacketError Unit)}
    (hf : f.PacketFailSafe) {g : ModuleExtras × Except PacketError Unit → Handler CS Cons μ Unit}
    {Q : Result ContextError Unit → Ctx CS Cons μ → Prop}
    (hg : ∀ extras r st app, (r.isOk = false → st = s.store) →
      Ensures (g (extras, r)) { s with store := st, app := app } Q) :
    Ensures (runCallback f >>= g) s Q := by
  have hsafe := hf s.store s.app
  refine callback_ensures ?_
  rcases hr : f s.store s.app with ⟨⟨extras, r⟩, st, app⟩
  rw [hr] at hsafe
  exact hg extras r st app hsafe

section Modules

variable (hM : ∀ port m, H.moduleOf port = some m → m.FailSafe)

include hM

theorem acknowledgementPacket_failsLeaving {msg : MsgAcknowledgement}
    (hl : H.lookupModuleByPort msg.packet.portIdOnA = some moduleId) :
    Ensures (acknowledgementPacketExecute H moduleId msg) s (FailsLeaving s.store) := by
  unfold acknowledgementPacketExecute
  refine ensures_read_bind (Ensures.ofExcept_bind (fun _ _ => .of_store rfl) fun e _ => ?_)
  refine Ensures.index_zero_bind .panic fun connId => ?_
  refine ensures_write_bind (ensures_write_bind ?_)
  cases s.getPacketCommitment msg.packet.keyOnA with
  | error _ => exact FailsLeaving.ok
  | ok cm =>
    refine Ensures.ofExcept_bind (fun _ _ => .of_store rfl) fun m hm => ?_
    refine packetCallback_ensures ((hM _ m (moduleOf_eq hl hm)).acknowledgePacket _ _ _)
      fun extras r st app hsafe => ensures_write_bind ?_
    refine Ensures.ofExcept_bind (fun _ herr => ?_) fun _ _ => ensures_write_bind ?_
    · obtain rfl : r = .error _ := herr
      exact .of_store (hsafe rfl)
    by_cases ho : e.ordering = .ordered
    · simp only [advanceNextSequenceAck, ho, if_true, Exec.bind_assoc]
      exact Ensures.addU64_bind .panic fun _ => FailsLeaving.ok
    · simp only [advanceNextSequenceAck, ho, if_false]
      exact FailsLeaving.ok

theorem timeoutPacket_failsLeaving {msg : TimeoutMsgType}
    (hl : H.lookupModuleByPort msg.packet.portIdOnA = some moduleId) :
    Ensures (timeoutPacketExecute H moduleId msg) s (FailsLeaving s.store) := by
  unfold timeoutPacketExecute
  refine ensures_read_bind (Ensures.ofExcept_bind (fun _ _ => .of_store rfl) fun e _ => ?_)
  refine ensures_write_bind (ensures_write_bind ?_)
  cases s.getPacketCommitment msg.packet.keyOnA with
  | error _ => exact FailsLeaving.ok
  | ok cm =>
    refine Ensures.ofExcept_bind (fun _ _ => .of_store rfl) fun m hm => ?_
    refine packetCallback_ensures ((hM _ m (moduleOf_eq hl hm)).timeoutPacket _ _)
      fun extras r st app hsafe => ensures_write_bind ?_
    refine Ensures.ofExcept_bind (fun _ herr => ?_) fun _ _ => ensures_write_bind ?_
    · obtain rfl : r = .error _ := herr
      exact .of_store (hsafe rfl)
    by_cases ho : e.ordering = .ordered
    · simp only [closeIfOrdered, emitChannelClosed, ho, if_true, Exec.bind_assoc]
      refine ensures_write_bind (ensures_write_bind ?_)
      exact Ensures.index_zero_bind .panic fun _ => FailsLeaving.ok
    · simp only [closeIfOrdered, emitChannelClosed, ho, if_false]
      exact FailsLeaving.ok

end Modules

end Handlers

/-! ### Every message -/

section Dispatch

open Exec

variable {H : Host CS Cons μ} {s s' : Ctx CS Cons μ} {msg : MsgEnvelope}

/-- A message that cannot strand. -/
theorem FailsLeaving.keeping {r : Result ContextError Unit} (hnot : ¬ Strands H s msg)
    (h : FailsLeaving s.store r s') : FailsKeeping s.store (Strands H s msg) r s' :=
  fun e he => iff_of_true (h e he) hnot

/-- A valid channel message that fails, with the module of its port. -/
theorem dispatch_channel_failsKeeping (hM : ∀ port m, H.moduleOf port = some m → m.FailSafe)
    {msg : ChannelMsg} {id : ModuleId} (hl : H.lookupModuleByPort msg.localPort = some id)
    (hv : msg.validate H s id = .ok ()) :
    Ensures (msg.execute H id) s (FailsKeeping s.store (Strands H s (.channel msg))) := by
  obtain ⟨m, hm, hvalid⟩ := msg.valid_of_validate hv
  have hmod := moduleOf_eq hl hm
  have hstrands : Strands H s (.channel msg) ↔ msg.FailsLate s m := by
    constructor
    · rintro ⟨m', hm', -, hlate⟩
      obtain rfl : m' = m := Option.some.inj (hm'.symm.trans hmod)
      exact hlate
    · intro hlate
      exact ⟨m, hmod, hvalid, hlate⟩
  simp only [hstrands]
  exact channelMsg_failsKeeping hm (hM _ m hmod) hvalid

/-- A validated message that fails keeps the store exactly when it does not strand. -/
theorem execute_failsKeeping (hH : H.FailSafe) (hv : validate H s msg = .ok ()) :
    Ensures (execute H msg) s (FailsKeeping s.store (Strands H s msg)) := by
  cases msg with
  | client msg => exact (clientMsg_failsLeaving hH.lightClient msg).keeping id
  | connection msg => exact (connectionMsg_failsLeaving msg).keeping id
  | channel msg =>
    exact lookupModule_ensures hv fun _ hl hv => dispatch_channel_failsKeeping hH.modules hl hv
  | packet msg =>
    refine lookupModule_ensures hv fun _ hl hv => ?_
    cases msg with
    | recv msg =>
      obtain ⟨e, conn, client, hv⟩ := recvPacketValidate_eq_ok.mp hv
      exact recvPacket_failsKeeping hl hv
    | ack msg => exact (acknowledgementPacket_failsLeaving hH.modules hl).keeping id
    | timeout msg =>
      have hleaves : Ensures (timeoutPacketExecute H _ (.timeout msg)) s (FailsLeaving s.store) :=
        timeoutPacket_failsLeaving hH.modules hl
      exact hleaves.keeping id
    | timeoutOnClose msg =>
      have hleaves : Ensures (timeoutPacketExecute H _ (.timeoutOnClose msg)) s
          (FailsLeaving s.store) := timeoutPacket_failsLeaving hH.modules hl
      exact hleaves.keeping id

/-- A message that strands is valid. -/
theorem Strands.valid (h : Strands H s msg) : validate H s msg = .ok () := by
  cases msg with
  | client msg => exact h.elim
  | connection msg => exact h.elim
  | channel msg =>
    obtain ⟨m, hm, hv, -⟩ := h
    exact validate_channel_eq_ok.mpr ⟨m, hm, hv⟩
  | packet msg =>
    cases msg with
    | recv msg =>
      obtain ⟨m, e, conn, client, hm, hv, -⟩ := h
      obtain ⟨id, hl, -⟩ := Option.bind_eq_some_iff.mp hm
      simp only [validate, lookupModulePacket, Result.bind_eq_ok, lift_channel_eq_ok,
        lookupModule_eq_ok]
      exact ⟨id, hl, recvPacketValidate_eq_ok.mpr ⟨e, conn, client, hv⟩⟩
    | ack msg => exact h.elim
    | timeout msg => exact h.elim
    | timeoutOnClose msg => exact h.elim

theorem dispatch_failsKeeping (hH : H.FailSafe) :
    Ensures (dispatch H msg) s (FailsKeeping s.store (Strands H s msg)) := by
  refine ensures_read_bind (Ensures.ofResult_bind (fun _ hv => ?_) fun _ hv => ?_)
  · refine .keeps rfl fun hs => ?_
    cases hs.valid.symm.trans hv
  · exact execute_failsKeeping hH hv

/-! ### Modules that leave the store alone -/

/-- `MsgChannelCloseInit` is valid, its callback succeeds, and the end does not know its
counterparty's channel id. -/
structure ClosesUnanswered (H : Host CS Cons μ) (s : Ctx CS Cons μ) (msg : MsgChannelCloseInit)
    (m : Module (Store CS Cons) μ) (e : ChannelEnd) (conn : ConnectionEnd) (cs : CS) : Prop where
  module : H.moduleOf msg.portIdOnA = some m
  valid : msg.Valid H s m e conn cs
  callback : (m.onChanCloseInitExecute msg.portIdOnA msg.chanIdOnA s.store s.app).1.isOk = true
  unanswered : e.remote.channelId = none

theorem Callback.KeepsStore.leaves {St ε α : Type} {f : Callback St μ (Except ε α)}
    (hf : f.KeepsStore) {st : St} {a : μ} {P : St → Prop} :
    f.Leaves st a P ↔ (f st a).1.isOk = true ∧ P st := by
  rw [Callback.Leaves, hf st a]

/-- An end with a counterparty channel id is answered. -/
theorem not_unanswered {st : Store CS Cons} {key : ChannelKey} {e : ChannelEnd}
    {chanId : ChannelId} (he : st.channel.channels key = some e)
    (hr : e.remote.channelId = some chanId) : ¬ st.Unanswered key := fun h => by
  cases (h e he).symm.trans hr

/-- If no callback writes the store, what is missing after it was missing before, and only
`MsgChannelCloseInit` does not look for it. -/
theorem closeInit_of_failsLate {m : Module (Store CS Cons) μ} (hm : m.Isolated) {msg : ChannelMsg}
    (hv : msg.Valid H s m) (hlate : msg.FailsLate s m) :
    ∃ close e conn cs, msg = .closeInit close ∧ close.Valid H s m e conn cs ∧
      (m.onChanCloseInitExecute close.portIdOnA close.chanIdOnA s.store s.app).1.isOk = true ∧
      e.remote.channelId = none := by
  cases msg with
  | openInit msg =>
    unfold ChannelMsg.FailsLate at hlate
    exact absurd rfl ((hm.openInit _ _ _ _ _ _).leaves.mp hlate).2.2
  | openTry msg =>
    unfold ChannelMsg.FailsLate at hlate
    exact absurd rfl ((hm.openTry _ _ _ _ _ _).leaves.mp hlate).2.2
  | openAck msg =>
    unfold ChannelMsg.FailsLate at hlate
    obtain ⟨e, _, _, _, hv⟩ := hv
    cases hv.channel.symm.trans ((hm.openAck _ _ _).leaves.mp hlate).2
  | openConfirm msg =>
    unfold ChannelMsg.FailsLate at hlate
    obtain ⟨e, _, _, _, _, hv⟩ := hv
    exact absurd ((hm.openConfirm _ _).leaves.mp hlate).2
      (not_unanswered hv.channel hv.counterparty)
  | closeInit msg =>
    unfold ChannelMsg.FailsLate at hlate
    obtain ⟨e, conn, cs, hv⟩ := hv
    obtain ⟨hok, hun⟩ := (hm.closeInit _ _).leaves.mp hlate
    exact ⟨msg, e, conn, cs, rfl, hv, hok, hun e hv.channel⟩
  | closeConfirm msg =>
    unfold ChannelMsg.FailsLate at hlate
    obtain ⟨e, _, _, _, _, hv⟩ := hv
    exact absurd ((hm.closeConfirm _ _).leaves.mp hlate).2
      (not_unanswered hv.channel hv.counterparty)

/-- If no callback writes the store, only the closing of an end without a counterparty channel id
strands. -/
theorem strands_iff_of_isolated (iso : H.Isolated) : Strands H s msg ↔
    ∃ close m e conn cs, msg = .channel (.closeInit close) ∧
      ClosesUnanswered H s close m e conn cs := by
  constructor
  · intro h
    cases msg with
    | client msg => exact h.elim
    | connection msg => exact h.elim
    | channel msg =>
      obtain ⟨m, hm, hv, hlate⟩ := h
      obtain ⟨close, e, conn, cs, rfl, hv, hok, hr⟩ :=
        closeInit_of_failsLate (iso _ m hm) hv hlate
      exact ⟨close, m, e, conn, cs, rfl, hm, hv, hok, hr⟩
    | packet msg =>
      cases msg with
      | recv msg =>
        obtain ⟨m, e, conn, client, hm, hv, ho, hnone⟩ := h
        have hexp := hv.expected
        rw [ho, ChannelStore.Expects, if_pos rfl] at hexp
        obtain ⟨n, hn, -⟩ := hexp
        rw [(iso _ m hm).recvPacket] at hnone
        cases hnone.symm.trans hn
      | ack msg => exact h.elim
      | timeout msg => exact h.elim
      | timeoutOnClose msg => exact h.elim
  · rintro ⟨close, m, e, conn, cs, rfl, h⟩
    refine ⟨m, h.module, ⟨e, conn, cs, h.valid⟩, ?_⟩
    unfold ChannelMsg.FailsLate
    refine ((iso _ m h.module).closeInit _ _).leaves.mpr ⟨h.callback, fun e' he' => ?_⟩
    obtain rfl : e = e' := Option.some.inj (h.valid.channel.symm.trans he')
    exact h.unanswered

/-- **A message that fails leaves the store as it was, exactly when it does not strand.** If no
callback writes the store, exactly when it does not close an end that was never answered. -/
theorem dispatch_error_keeps_store_iff (hH : H.FailSafe) {e : ContextError}
    (h : dispatch H msg s = (.error (.err e), s')) :
    (s'.store = s.store ↔ ¬ Strands H s msg) ∧
    (H.Isolated → (s'.store = s.store ↔ ¬ ∃ close m e conn cs,
      msg = .channel (.closeInit close) ∧ ClosesUnanswered H s close m e conn cs)) := by
  have hkeeps : Ensures (dispatch H msg) s _ := dispatch_failsKeeping hH
  rw [Ensures, h] at hkeeps
  refine ⟨hkeeps e rfl, fun iso => ?_⟩
  rw [← strands_iff_of_isolated iso]
  exact hkeeps e rfl

end Dispatch

/-! ### The mock host strands -/

theorem Module.Isolated.failSafe {St : Type} {m : Module St μ} (h : m.Isolated) : m.FailSafe where
  openInit o hops p c cp v st a _ := h.openInit o hops p c cp v st a
  openTry o hops p c cp v st a _ := h.openTry o hops p c cp v st a
  openAck p c v st a _ := h.openAck p c v st a
  openConfirm p c st a _ := h.openConfirm p c st a
  closeInit p c st a _ := h.closeInit p c st a
  closeConfirm p c st a _ := h.closeConfirm p c st a
  acknowledgePacket p ack r st a _ := h.acknowledgePacket p ack r st a
  timeoutPacket p r st a _ := h.timeoutPacket p r st a

theorem mockClient_failSafe (codec : MockCodec) : (mockClient codec).FailSafe where
  initialise _ _ _ _ :=
    Exec.Ensures.ofExcept_bind (fun _ _ _ _ => rfl) fun _ _ => fun _ h => nomatch h
  updateState _ _ _ _ :=
    Exec.Ensures.ofExcept_bind (fun _ _ _ _ => rfl) fun _ _ => fun _ h => nomatch h
  updateStateOnMisbehaviour _ _ _ _ _ := fun _ h => nomatch h
  updateStateOnUpgrade _ _ _ _ _ :=
    Exec.Ensures.ofResult_bind (fun _ _ _ _ => rfl) fun _ _ =>
      Exec.Ensures.ofExcept_bind (fun _ _ _ _ => rfl) fun _ _ => fun _ h => nomatch h
  names_height _ _ msg _ := by
    simp only [mockClient, MockClientState.updateState, Exec.ofExcept]
    cases codec.headerOf msg <;> simp [Result.ofExcept]

theorem mockHost_failSafe (codec : MockCodec) (library : Library) (blockTime : Duration) :
    (mockHost codec library blockTime).FailSafe where
  modules port m hm := (mockHost_isolated codec library blockTime port m hm).failSafe
  lightClient := mockClient_failSafe codec

namespace MockRun

/-- Closing the channel of the sample run. -/
def chanCloseInit : MsgEnvelope := .channel (.closeInit ⟨.transfer, channelId, signer⟩)

/-- The dummy module, but it does not let its channels be closed. -/
def keepingModule : Module (Store MockClientState MockConsensusState) Unit :=
  { dummyTransferModule with
    onChanCloseInitExecute := fun _ _ st a => (.error (.other "the channel is in use"), st, a) }

/-- The mock host with this module. -/
def keepingHost : Host MockClientState MockConsensusState Unit :=
  { host with getRoute := fun id => if id = ⟨"transfer"⟩ then some keepingModule else none }

theorem keepingModule_isolated : keepingModule.Isolated := by
  constructor <;> intros <;> exact fun _ _ => rfl

/-- The one module of the host. -/
theorem keepingHost_moduleOf {port : PortId} {m : Module _ Unit}
    (hm : keepingHost.moduleOf port = some m) : m = keepingModule := by
  obtain ⟨id, -, hroute⟩ := Option.bind_eq_some_iff.mp hm
  simp only [keepingHost] at hroute
  split_ifs at hroute
  exact (Option.some.inj hroute).symm

theorem keepingHost_failSafe : keepingHost.FailSafe where
  modules _ _ hm := keepingHost_moduleOf hm ▸ keepingModule_isolated.failSafe
  lightClient := mockClient_failSafe codec

end MockRun

/-- An open channel of a module that does not let it be closed: closing it is valid, the callback
fails, and the store is as before. -/
theorem refused_close_keeps_store : ∃ s s' e, Reachable MockRun.keepingHost s ∧
    validate MockRun.keepingHost s MockRun.chanCloseInit = .ok () ∧
    dispatch MockRun.keepingHost MockRun.chanCloseInit s = (.error (.err e), s') ∧
    (s.store.channel.channels (.transfer, MockRun.channelId)).map (·.state) = some .open ∧
    s'.store = s.store := by
  obtain ⟨s, hs, hst⟩ := Reachable.exists_of_runAll (H := MockRun.keepingHost) (s := MockRun.start)
    (MockRun.opening .unordered)
    (fun s => (validate MockRun.keepingHost s MockRun.chanCloseInit,
      (dispatch MockRun.keepingHost MockRun.chanCloseInit s).1,
      (s.store.channel.channels (.transfer, MockRun.channelId)).map (·.state)))
    rfl rfl (by decide +kernel : _ = some (.ok (),
      .error (.err (.channelError (.other "the channel is in use"))), some .open))
  simp only [Prod.mk.injEq] at hst
  obtain ⟨hvalid, herr, hopen⟩ := hst
  have hfails : dispatch MockRun.keepingHost MockRun.chanCloseInit s =
      (.error (.err (.channelError (.other "the channel is in use"))), _) := Prod.ext herr rfl
  refine ⟨s, _, _, hs, hvalid, hfails, hopen, ?_⟩
  refine (dispatch_error_keeps_store_iff MockRun.keepingHost_failSafe hfails).1.mpr ?_
  rintro ⟨m, hm, -, hok, -⟩
  obtain rfl := MockRun.keepingHost_moduleOf hm
  cases hok

/-- The initiating end of a handshake, closed before it is acknowledged: the message fails and the
end is closed. -/
theorem closeInit_strands : MockRun.host.FailSafe ∧ ∃ s s' e,
    Reachable MockRun.host s ∧
    dispatch MockRun.host MockRun.chanCloseInit s = (.error (.err e), s') ∧
    (s.store.channel.channels (.transfer, MockRun.channelId)).map (·.state) = some .init ∧
    (s'.store.channel.channels (.transfer, MockRun.channelId)).map (·.state) = some .closed := by
  refine ⟨mockHost_failSafe _ _ _, ?_⟩
  obtain ⟨s, hs, hst⟩ := Reachable.exists_of_runAll
    [MockRun.createClient, MockRun.connOpenInit, MockRun.connOpenAck, MockRun.chanOpenInit .ordered]
    (fun s => ((s.store.channel.channels (.transfer, MockRun.channelId)).map (·.state),
      (dispatch MockRun.host MockRun.chanCloseInit s).1,
      ((dispatch MockRun.host MockRun.chanCloseInit s).2.store.channel.channels
        (.transfer, MockRun.channelId)).map (·.state)))
    (s := MockRun.start) (H := MockRun.host)
    (a := (some .init, .error (.err (.channelError (.other
      "internal error: ChannelEnd doesn't have a counterparty channel id in CloseInit"))),
      some .closed)) rfl rfl (by decide +kernel)
  simp only [Prod.mk.injEq] at hst
  exact ⟨s, _, _, hs, Prod.ext hst.2.1 rfl, hst.1, hst.2.2⟩

end Ibc
