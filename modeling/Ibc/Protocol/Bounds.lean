import Ibc.Protocol.Clients
import Ibc.Protocol.Handshake
import Ibc.Protocol.MockRun

/-!
# No index is out of bounds

The handlers take the first hop of a channel and the first version of a connection by index, many of
them without a look at the length. What keeps these indices in bounds is an invariant of the store
(`Store.Routed`): a channel end has exactly one hop, which leads to a connection and on to its
client, and a connection end has a version. Neither `ChannelEnd.new` nor `ConnectionEnd.new` asks
for it; it is established by the length checks of some handlers and kept by all others.

* `Reachable.routed`: the invariant, in every reachable state.
* `dispatch_inBounds`, `sendPacket_inBounds`: under the invariant no handler indexes out of bounds,
  whether or not the message passes validation.
* **`no_index_out_of_bounds`**: both together.

The light client is arbitrary. It is assumed that its operations remove no client, and that asking
it whether a client is frozen, or whether a height is known, does not index out of bounds.
-/

namespace Ibc

open Exec

variable {CS Cons μ : Type}

/-! ### Clients are never removed -/

/-- The clients of `c` are also clients of `c'`. -/
def Clients.Kept (c c' : Clients CS Cons) : Prop :=
  ∀ id, c.clientState id ≠ none → c'.clientState id ≠ none

/-- No operation of the light client removes a client. -/
structure LightClient.KeepsClients (L : LightClient CS Cons) : Prop where
  initialise : ∀ cs id cons c, Ensures (L.initialise cs id cons) c fun _ c' => c.Kept c'
  updateState : ∀ cs id msg c, Ensures (L.updateState cs id msg) c fun _ c' => c.Kept c'
  updateStateOnMisbehaviour : ∀ cs id msg kind c,
    Ensures (L.updateStateOnMisbehaviour cs id msg kind) c fun _ c' => c.Kept c'
  updateStateOnUpgrade : ∀ cs id upgraded cons c,
    Ensures (L.updateStateOnUpgrade cs id upgraded cons) c fun _ c' => c.Kept c'

theorem Clients.Kept.refl {c : Clients CS Cons} : c.Kept c := fun _ h => h

/-- Storing a client state removes none. -/
theorem Clients.Kept.storeClientState {c c' : Clients CS Cons} (h : c.Kept c') (id : ClientId)
    (cs : CS) : c.Kept (c'.storeClientState id cs) := by
  intro id' hid'
  rw [clientState_storeClientState]
  split_ifs
  · exact Option.some_ne_none cs
  · exact h id' hid'

/-- Storing a consensus state removes none. -/
theorem Clients.Kept.storeConsensusState {c c' : Clients CS Cons} (h : c.Kept c') (id : ClientId)
    (height : Height) (cons : Cons) : c.Kept (c'.storeConsensusState id height cons) := by
  intro id' hid'
  rw [clientState_storeConsensusState]
  exact h id' hid'

section Clients

variable {H : Host CS Cons μ} {s s' : Ctx CS Cons μ} {i : Input Cons μ}

/-- So no message for a client removes one. -/
theorem LightClient.KeepsClients.leaves (h : H.lightClient.KeepsClients) (msg : ClientMsg)
    (c : Clients CS Cons) : msg.Leaves H c.Kept c := by
  cases msg with
  | createClient msg => exact fun _ _ _ => h.initialise _ _ _ _
  | updateClient msg =>
    exact fun _ => ⟨h.updateState _ _ _ _, h.updateStateOnMisbehaviour _ _ _ _ _⟩
  | misbehaviour msg => exact fun _ => h.updateStateOnMisbehaviour _ _ _ _ _
  | upgradeClient msg => exact fun _ => h.updateStateOnUpgrade _ _ _ _ _

/-- A step removes no client. -/
theorem Step.clients_kept (iso : H.Isolated) (hL : H.lightClient.KeepsClients)
    (h : Step H i s s') : s.store.client.clients.Kept s'.store.client.clients :=
  h.clients_leave iso .refl fun msg _ => hL.leaves msg _

end Clients

/-! ### The invariant -/

/-- A channel has one hop, to a connection that exists; a connection has a client that exists, and a
version, the only one once it is past `init`. -/
structure Store.Routed (st : Store CS Cons) : Prop where
  hop : ∀ key e, st.channel.channels key = some e →
    ∃ connId conn, e.connectionHops = [connId] ∧ st.connection.connections connId = some conn
  client : ∀ id conn, st.connection.connections id = some conn →
    st.client.clients.clientState conn.clientId ≠ none
  version : ∀ id conn, st.connection.connections id = some conn → conn.versions ≠ []
  single : ∀ id conn, st.connection.connections id = some conn → conn.state ≠ .init →
    conn.versions.length = 1

section Invariant

variable {H : Host CS Cons μ} {s s' : Ctx CS Cons μ} {i : Input Cons μ}

/-- The versions an end starts with. -/
theorem connOpenInitVersions_ne_nil (hver : H.getCompatibleVersions ≠ [])
    {msg : MsgConnectionOpenInit} {versions : List ConnectionVersion}
    (h : connOpenInitVersions H msg = .ok versions) : versions ≠ [] := by
  unfold connOpenInitVersions at h
  split at h
  · obtain ⟨_, _, h⟩ := Result.bind_eq_ok.mp h
    cases h
    exact List.cons_ne_nil _ _
  · cases h
    exact hver

/-- What a connection message stores is an end as the invariant asks for. -/
theorem ConnectionMsg.Stores.routed (hver : H.getCompatibleVersions ≠ [])
    (hr : ∀ id conn, s.store.connection.connections id = some conn →
      s.store.client.clients.clientState conn.clientId ≠ none ∧ conn.versions ≠ [])
    {msg : ConnectionMsg} {id : ConnectionId} {e : ConnectionEnd} (h : msg.Stores H s id e) :
    s.store.client.clients.clientState e.clientId ≠ none ∧ e.versions ≠ [] := by
  cases h with
  | openInit hcs hversions =>
    refine ⟨?_, connOpenInitVersions_ne_nil hver hversions⟩
    rw [hcs.client]
    exact Option.some_ne_none _
  | openTry _ hv =>
    obtain ⟨cs, _, _, hactive, -⟩ := hv
    refine ⟨?_, List.cons_ne_nil _ _⟩
    rw [hactive.client]
    exact Option.some_ne_none _
  | openAck he _ _ =>
    have hclient := (hr _ _ he).1
    exact ⟨hclient, List.cons_ne_nil _ _⟩
  | openConfirm he _ _ _ =>
    have hrouted := hr _ _ he
    exact hrouted

/-- A stored connection has a client that exists, and a version. -/
theorem Reachable.connection_routed (iso : H.Isolated) (hL : H.lightClient.KeepsClients)
    (hver : H.getCompatibleVersions ≠ []) (h : Reachable H s) :
    ∀ id conn, s.store.connection.connections id = some conn →
      s.store.client.clients.clientState conn.clientId ≠ none ∧ conn.versions ≠ [] := by
  induction h with
  | init s hst _ =>
    rw [hst]
    exact nofun
  | @step s s' i _ hs ih =>
    intro id conn hconn
    obtain ⟨hclient, hversions⟩ := hs.connection_ends (P := fun _ e =>
      s.store.client.clients.clientState e.clientId ≠ none ∧ e.versions ≠ []) iso ih
      (fun _ _ _ _ hst => hst.routed hver ih) id conn hconn
    exact ⟨hs.clients_kept iso hL _ hclient, hversions⟩

/-- **In every reachable state channels and connections lead to a client.** -/
theorem Reachable.routed (iso : H.Isolated) (hL : H.lightClient.KeepsClients)
    (hver : H.getCompatibleVersions ≠ []) (h : Reachable H s) : s.store.Routed :=
  ⟨h.channel_hop iso, fun id conn hconn => (h.connection_routed iso hL hver id conn hconn).1,
    fun id conn hconn => (h.connection_routed iso hL hver id conn hconn).2,
    h.connection_version iso⟩

end Invariant

/-! ### Indices during validation -/

/-- Asking the light client about a stored client does not index out of bounds. -/
structure LightClient.ReadsInBounds (L : LightClient CS Cons) : Prop where
  confirmNotFrozen : ∀ cs, Result.Avoids .outOfBounds (L.confirmNotFrozen cs)
  validateProofHeight : ∀ cs h, Result.Avoids .outOfBounds (L.validateProofHeight cs h)

open Result (Avoids avoids_ok avoids_err avoids_ofExcept avoids_mapErr avoids_index_zero
  avoids_addU64 avoids_pure)

section Validate

variable {H : Host CS Cons μ} {s : Ctx CS Cons μ} {moduleId : ModuleId} {hops : List ConnectionId}

/-- The length check gives a first hop. -/
theorem ne_nil_of_hopsLength {u : Unit}
    (h : (liftM (verifyConnectionHopsLength hops 1) : Result ContextError Unit) = .ok u) :
    hops ≠ [] := by
  rw [lift_channel_eq_ok, verifyConnectionHopsLength, Result.ensure_eq_ok] at h
  exact List.ne_nil_of_length_pos (h ▸ Nat.one_pos)

/-- With a hop, its connection is looked up in bounds. -/
theorem connectionOfHops_inBounds (h : hops ≠ []) :
    Avoids .outOfBounds (connectionOfHops s hops) :=
  (avoids_index_zero h).bind fun _ _ => avoids_ofExcept

/-- So is the connection on its other side. -/
theorem counterpartyConnection_inBounds (h : hops ≠ []) {conn : ConnectionEnd} :
    Avoids .outOfBounds (counterpartyConnection hops conn) :=
  (avoids_index_zero h).bind fun _ _ => avoids_ofExcept

/-- Fetching the client of a proof indexes nothing. -/
theorem clientForProof_inBounds (hL : H.lightClient.ReadsInBounds) {id : ClientId} {h : Height} :
    Avoids .outOfBounds (clientForProof H s id h) := by
  refine avoids_ofExcept.bind fun cs _ => ?_
  refine (avoids_mapErr.mpr (hL.confirmNotFrozen cs)).bind fun _ _ => ?_
  refine (avoids_mapErr.mpr (hL.validateProofHeight cs h)).bind fun _ _ => ?_
  exact avoids_ofExcept.bind fun _ _ => avoids_pure

/-- A stored channel end has a hop. -/
theorem Store.Routed.hops_ne_nil (hr : s.store.Routed) {key : ChannelKey} {e : ChannelEnd}
    (he : s.channelEnd key = .ok e) : e.connectionHops ≠ [] := by
  obtain ⟨connId, -, hhops, -⟩ := hr.hop key e (Result.okOr_eq_ok.mp he)
  rw [hhops]
  exact List.cons_ne_nil _ _

/-- The connection under a hop has a version. -/
theorem Store.Routed.versions_ne_nil (hr : s.store.Routed) {conn : ConnectionEnd}
    (hconn : connectionOfHops s hops = .ok conn) : conn.versions ≠ [] := by
  obtain ⟨connId, -, hconn⟩ := Option.bind_eq_some_iff.mp (connectionOfHops_eq_ok.mp hconn)
  exact hr.version connId conn hconn

/-- A commitment can only overflow. -/
theorem commitment_inBounds {p : Packet} :
    Avoids .outOfBounds (p.commitment H.library : Result ContextError PacketCommitment) := by
  intro h
  cases Packet.commitment_eq_error h

theorem verifyCommitment_inBounds {p : Packet} {cm : PacketCommitment} :
    Avoids .outOfBounds (verifyCommitment H p cm) :=
  commitment_inBounds.bind fun _ _ => avoids_ofExcept

theorem verifyConnDelayPassed_inBounds {h : Height} {conn : ConnectionEnd} :
    Avoids .outOfBounds (verifyConnDelayPassed H s h conn) := by
  refine avoids_ofExcept.bind fun _ _ => avoids_ofExcept.bind fun height _ => ?_
  refine avoids_ofExcept.bind fun _ _ => avoids_ofExcept.bind fun _ _ => ?_
  refine Avoids.bind ?_ fun _ _ => avoids_ofExcept
  exact Avoids.bind (avoids_addU64 nofun) fun _ _ => avoids_pure

/-- The connection handshake indexes nothing. -/
theorem ConnectionMsg.validate_inBounds (hL : H.lightClient.ReadsInBounds) (msg : ConnectionMsg) :
    Avoids .outOfBounds (msg.validate H s) := by
  cases msg with
  | openInit msg =>
    refine avoids_ofExcept.bind fun _ _ => avoids_ofExcept.bind fun cs _ => ?_
    refine (avoids_mapErr.mpr (hL.confirmNotFrozen cs)).bind fun _ _ => ?_
    cases msg.version with
    | some version => exact avoids_ofExcept
    | none => exact avoids_pure
  | openTry msg =>
    refine avoids_ofExcept.bind fun _ _ => avoids_ofExcept.bind fun _ _ => ?_
    refine avoids_ofExcept.bind fun _ _ => avoids_ofExcept.bind fun _ _ => ?_
    refine (clientForProof_inBounds hL).bind fun client _ => avoids_ofExcept.bind fun _ _ => ?_
    refine avoids_ofExcept.bind fun _ _ => avoids_ofExcept.bind fun _ _ => ?_
    exact avoids_ofExcept.bind fun _ _ => avoids_ofExcept
  | openAck msg =>
    refine avoids_ofExcept.bind fun e _ => avoids_ofExcept.bind fun _ _ => ?_
    refine avoids_ofExcept.bind fun _ _ => avoids_ofExcept.bind fun _ _ => ?_
    refine avoids_ofExcept.bind fun _ _ => avoids_ofExcept.bind fun _ _ => ?_
    refine (clientForProof_inBounds hL).bind fun client _ => avoids_ofExcept.bind fun _ _ => ?_
    refine avoids_ofExcept.bind fun _ _ => avoids_ofExcept.bind fun _ _ => ?_
    exact avoids_ofExcept.bind fun _ _ => avoids_ofExcept
  | openConfirm msg =>
    refine avoids_ofExcept.bind fun e _ => avoids_ofExcept.bind fun _ _ => ?_
    refine avoids_ofExcept.bind fun _ _ => avoids_ofExcept.bind fun _ _ => ?_
    refine (clientForProof_inBounds hL).bind fun client _ => ?_
    exact avoids_ofExcept.bind fun _ _ => avoids_ofExcept

variable (hL : H.lightClient.ReadsInBounds) (hr : s.store.Routed)

include hL hr

/-- The hops of the message are counted before they are used. -/
theorem chanOpenInitValidate_inBounds (msg : MsgChannelOpenInit) :
    Avoids .outOfBounds (chanOpenInitValidate H s moduleId msg) := by
  refine Avoids.bind ?_ fun _ _ => avoids_ofExcept.bind fun m _ =>
    avoids_ofExcept.bind fun _ _ => avoids_pure
  refine avoids_ofExcept.bind fun _ _ => avoids_ofExcept.bind fun _ hlen => ?_
  refine (connectionOfHops_inBounds (ne_nil_of_hopsLength hlen)).bind fun conn hconn => ?_
  refine avoids_ofExcept.bind fun cs _ => ?_
  refine (avoids_mapErr.mpr (hL.confirmNotFrozen cs)).bind fun _ _ => ?_
  exact (avoids_index_zero (hr.versions_ne_nil hconn)).bind fun _ _ => avoids_ofExcept

/-- Here too. -/
theorem chanOpenTryValidate_inBounds (msg : MsgChannelOpenTry) :
    Avoids .outOfBounds (chanOpenTryValidate H s moduleId msg) := by
  refine Avoids.bind ?_ fun _ _ => avoids_ofExcept.bind fun m _ =>
    avoids_ofExcept.bind fun _ _ => avoids_pure
  refine avoids_ofExcept.bind fun _ _ => avoids_ofExcept.bind fun _ hlen => ?_
  have hhops := ne_nil_of_hopsLength hlen
  refine (connectionOfHops_inBounds hhops).bind fun conn hconn => avoids_ofExcept.bind fun _ _ => ?_
  refine (avoids_index_zero (hr.versions_ne_nil hconn)).bind fun _ _ => ?_
  refine avoids_ofExcept.bind fun _ _ => (clientForProof_inBounds hL).bind fun client _ => ?_
  refine (counterpartyConnection_inBounds hhops).bind fun connId _ => ?_
  exact avoids_ofExcept.bind fun _ _ => avoids_ofExcept

/-- From here on the hops are those of a stored end. -/
theorem chanOpenAckValidate_inBounds (msg : MsgChannelOpenAck) :
    Avoids .outOfBounds (chanOpenAckValidate H s moduleId msg) := by
  refine Avoids.bind ?_ fun _ _ => avoids_ofExcept.bind fun m _ => avoids_ofExcept
  refine avoids_ofExcept.bind fun _ _ => avoids_ofExcept.bind fun e he => ?_
  have hhops := hr.hops_ne_nil (lift_channel_eq_ok.mp he)
  refine avoids_ofExcept.bind fun _ _ => avoids_ofExcept.bind fun _ _ => ?_
  refine (connectionOfHops_inBounds hhops).bind fun conn _ => avoids_ofExcept.bind fun _ _ => ?_
  refine (clientForProof_inBounds hL).bind fun client _ => ?_
  refine (counterpartyConnection_inBounds hhops).bind fun connId _ => ?_
  exact avoids_ofExcept.bind fun _ _ => avoids_ofExcept

theorem chanOpenConfirmValidate_inBounds (msg : MsgChannelOpenConfirm) :
    Avoids .outOfBounds (chanOpenConfirmValidate H s moduleId msg) := by
  refine Avoids.bind ?_ fun _ _ => avoids_ofExcept.bind fun m _ => avoids_ofExcept
  refine avoids_ofExcept.bind fun _ _ => avoids_ofExcept.bind fun e he => ?_
  have hhops := hr.hops_ne_nil (lift_channel_eq_ok.mp he)
  refine avoids_ofExcept.bind fun _ _ => avoids_ofExcept.bind fun _ _ => ?_
  refine (connectionOfHops_inBounds hhops).bind fun conn _ => avoids_ofExcept.bind fun _ _ => ?_
  refine (clientForProof_inBounds hL).bind fun client _ => avoids_ofExcept.bind fun _ _ => ?_
  refine (counterpartyConnection_inBounds hhops).bind fun connId _ => ?_
  exact avoids_ofExcept.bind fun _ _ => avoids_ofExcept

theorem chanCloseInitValidate_inBounds (msg : MsgChannelCloseInit) :
    Avoids .outOfBounds (chanCloseInitValidate H s moduleId msg) := by
  refine Avoids.bind ?_ fun _ _ => avoids_ofExcept.bind fun m _ => avoids_ofExcept
  refine avoids_ofExcept.bind fun _ _ => avoids_ofExcept.bind fun e he => ?_
  have hhops := hr.hops_ne_nil (lift_channel_eq_ok.mp he)
  refine avoids_ofExcept.bind fun _ _ => avoids_ofExcept.bind fun _ _ => ?_
  refine (connectionOfHops_inBounds hhops).bind fun conn _ => avoids_ofExcept.bind fun _ _ => ?_
  exact avoids_ofExcept.bind fun cs _ => avoids_mapErr.mpr (hL.confirmNotFrozen cs)

/-- The hops are not counted; the invariant is what helps. -/
theorem chanCloseConfirmValidate_inBounds (msg : MsgChannelCloseConfirm) :
    Avoids .outOfBounds (chanCloseConfirmValidate H s moduleId msg) := by
  refine Avoids.bind ?_ fun _ _ => avoids_ofExcept.bind fun m _ => avoids_ofExcept
  refine avoids_ofExcept.bind fun _ _ => avoids_ofExcept.bind fun e he => ?_
  have hhops := hr.hops_ne_nil (lift_channel_eq_ok.mp he)
  refine avoids_ofExcept.bind fun _ _ => ?_
  refine (connectionOfHops_inBounds hhops).bind fun conn _ => avoids_ofExcept.bind fun _ _ => ?_
  refine (clientForProof_inBounds hL).bind fun client _ => avoids_ofExcept.bind fun _ _ => ?_
  refine (counterpartyConnection_inBounds hhops).bind fun connId _ => ?_
  exact avoids_ofExcept.bind fun _ _ => avoids_ofExcept

/-- Nor are they counted for packets. -/
theorem sendPacketValidate_inBounds (p : Packet) :
    Avoids .outOfBounds (sendPacketValidate H s p) := by
  refine avoids_ofExcept.bind fun e he => ?_
  have hhops := hr.hops_ne_nil (lift_channel_eq_ok.mp he)
  refine avoids_ofExcept.bind fun _ _ => avoids_ofExcept.bind fun _ _ => ?_
  refine (connectionOfHops_inBounds hhops).bind fun conn _ => avoids_ofExcept.bind fun cs _ => ?_
  refine (avoids_mapErr.mpr (hL.confirmNotFrozen cs)).bind fun _ _ => ?_
  refine avoids_ofExcept.bind fun _ _ => avoids_ofExcept.bind fun _ _ => ?_
  exact avoids_ofExcept.bind fun _ _ => avoids_ofExcept.bind fun _ _ => avoids_ofExcept

theorem recvPacketValidate_inBounds (msg : MsgRecvPacket) :
    Avoids .outOfBounds (recvPacketValidate H s msg) := by
  refine avoids_ofExcept.bind fun _ _ => avoids_ofExcept.bind fun e he => ?_
  have hhops := hr.hops_ne_nil (lift_channel_eq_ok.mp he)
  refine avoids_ofExcept.bind fun _ _ => avoids_ofExcept.bind fun _ _ => ?_
  refine (connectionOfHops_inBounds hhops).bind fun conn _ => avoids_ofExcept.bind fun _ _ => ?_
  refine avoids_ofExcept.bind fun _ _ => avoids_ofExcept.bind fun _ _ => ?_
  refine (clientForProof_inBounds hL).bind fun client _ => commitment_inBounds.bind fun cm _ => ?_
  refine verifyConnDelayPassed_inBounds.bind fun _ _ => avoids_ofExcept.bind fun _ _ => ?_
  by_cases ho : e.ordering = .ordered
  · rw [if_pos ho]
    refine avoids_ofExcept.bind fun next _ => avoids_ofExcept.bind fun _ _ => ?_
    split_ifs
    · exact avoids_ofExcept
    · exact avoids_pure
  · rw [if_neg ho]
    exact avoids_ofExcept.bind fun _ _ => avoids_ofExcept

theorem acknowledgementPacketValidate_inBounds (msg : MsgAcknowledgement) :
    Avoids .outOfBounds (acknowledgementPacketValidate H s moduleId msg) := by
  refine Avoids.bind ?_ fun _ _ => avoids_ofExcept.bind fun m _ => avoids_ofExcept
  refine avoids_ofExcept.bind fun _ _ => avoids_ofExcept.bind fun e he => ?_
  have hhops := hr.hops_ne_nil (lift_channel_eq_ok.mp he)
  refine avoids_ofExcept.bind fun _ _ => avoids_ofExcept.bind fun _ _ => ?_
  refine (connectionOfHops_inBounds hhops).bind fun conn _ => avoids_ofExcept.bind fun _ _ => ?_
  cases s.getPacketCommitment msg.packet.keyOnA with
  | error _ => exact avoids_pure
  | ok cm =>
    refine verifyCommitment_inBounds.bind fun _ _ => avoids_ofExcept.bind fun _ _ => ?_
    refine (clientForProof_inBounds hL).bind fun client _ => ?_
    exact verifyConnDelayPassed_inBounds.bind fun _ _ => avoids_ofExcept

theorem timeoutValidate_inBounds (msg : MsgTimeout) :
    Avoids .outOfBounds (timeoutValidate H s msg) := by
  refine avoids_ofExcept.bind fun _ _ => avoids_ofExcept.bind fun e he => ?_
  have hhops := hr.hops_ne_nil (lift_channel_eq_ok.mp he)
  refine avoids_ofExcept.bind fun _ _ => avoids_ofExcept.bind fun _ _ => ?_
  refine (connectionOfHops_inBounds hhops).bind fun conn _ => ?_
  cases s.getPacketCommitment msg.packet.keyOnA with
  | error _ => exact avoids_pure
  | ok cm =>
    refine verifyCommitment_inBounds.bind fun _ _ => ?_
    refine (clientForProof_inBounds hL).bind fun client _ => avoids_ofExcept.bind fun _ _ => ?_
    exact verifyConnDelayPassed_inBounds.bind fun _ _ => avoids_ofExcept

theorem timeoutOnCloseValidate_inBounds (msg : MsgTimeoutOnClose) :
    Avoids .outOfBounds (timeoutOnCloseValidate H s msg) := by
  refine avoids_ofExcept.bind fun _ _ => avoids_ofExcept.bind fun e he => ?_
  have hhops := hr.hops_ne_nil (lift_channel_eq_ok.mp he)
  refine avoids_ofExcept.bind fun _ _ => ?_
  cases s.getPacketCommitment msg.packet.keyOnA with
  | error _ => exact avoids_pure
  | ok cm =>
    refine verifyCommitment_inBounds.bind fun _ _ => ?_
    refine (connectionOfHops_inBounds hhops).bind fun conn _ => ?_
    refine (clientForProof_inBounds hL).bind fun client _ => Avoids.bind ?_ fun ids _ => ?_
    · refine avoids_ofExcept.bind fun _ _ => (avoids_index_zero hhops).bind fun _ _ => ?_
      exact avoids_ofExcept.bind fun _ _ => avoids_pure
    · refine avoids_ofExcept.bind fun _ _ => avoids_ofExcept.bind fun _ _ => ?_
      exact verifyConnDelayPassed_inBounds.bind fun _ _ => avoids_ofExcept

/-- Validation of a channel message. -/
theorem ChannelMsg.validate_inBounds (msg : ChannelMsg) :
    Avoids .outOfBounds (msg.validate H s moduleId) := by
  cases msg with
  | openInit msg => exact chanOpenInitValidate_inBounds hL hr msg
  | openTry msg => exact chanOpenTryValidate_inBounds hL hr msg
  | openAck msg => exact chanOpenAckValidate_inBounds hL hr msg
  | openConfirm msg => exact chanOpenConfirmValidate_inBounds hL hr msg
  | closeInit msg => exact chanCloseInitValidate_inBounds hL hr msg
  | closeConfirm msg => exact chanCloseConfirmValidate_inBounds hL hr msg

/-- Validation of a packet message. -/
theorem PacketMsg.validate_inBounds (msg : PacketMsg) :
    Avoids .outOfBounds (msg.validate H s moduleId) := by
  cases msg with
  | recv msg => exact recvPacketValidate_inBounds hL hr msg
  | ack msg => exact acknowledgementPacketValidate_inBounds hL hr msg
  | timeout msg =>
    exact (timeoutValidate_inBounds hL hr msg).bind fun _ _ =>
      avoids_ofExcept.bind fun m _ => avoids_ofExcept
  | timeoutOnClose msg =>
    exact (timeoutOnCloseValidate_inBounds hL hr msg).bind fun _ _ =>
      avoids_ofExcept.bind fun m _ => avoids_ofExcept

end Validate

/-! ### Indices during execution -/

/-- The call did not index out of bounds. -/
def InBounds (r : Result ContextError Unit) (_ : Ctx CS Cons μ) : Prop := r.Avoids .outOfBounds

section Execute

variable {H : Host CS Cons μ} {s s' : Ctx CS Cons μ} {moduleId : ModuleId}

/-- An error is no index. -/
theorem InBounds.err {e : ContextError} : InBounds (.error (.err e)) s := avoids_err

/-- Success is in bounds. -/
theorem InBounds.ok : InBounds (.ok ()) s := avoids_ok

/-- An overflow is another panic. -/
theorem InBounds.overflow : InBounds (.error (.panic .overflow)) s := nofun

/-- The rule for a read-only call in bounds. -/
theorem InBounds.ofResult_bind {α : Type} {r : Result ContextError α}
    {f : α → Handler CS Cons μ Unit} (hr : Avoids .outOfBounds r)
    (hok : ∀ a, r = .ok a → Ensures (f a) s InBounds) :
    Ensures (ofResult r >>= f) s InBounds := by
  refine Ensures.ofResult_bind (fun e he => ?_) hok
  subst he
  rintro ⟨⟩
  exact hr rfl

/-- Validation has counted the hops of an OpenInit. -/
theorem hopsOnA_of_validate {msg : MsgChannelOpenInit}
    (hv : chanOpenInitValidate H s moduleId msg = .ok ()) : msg.connectionHopsOnA ≠ [] := by
  obtain ⟨_, hcore, -⟩ := Result.bind_eq_ok.mp hv
  obtain ⟨_, -, hcore⟩ := Result.bind_eq_ok.mp hcore
  obtain ⟨_, hlen, -⟩ := Result.bind_eq_ok.mp hcore
  exact ne_nil_of_hopsLength hlen

/-- Validation has counted the hops of an OpenTry. -/
theorem hopsOnB_of_validate {msg : MsgChannelOpenTry}
    (hv : chanOpenTryValidate H s moduleId msg = .ok ()) : msg.connectionHopsOnB ≠ [] := by
  obtain ⟨_, hcore, -⟩ := Result.bind_eq_ok.mp hv
  obtain ⟨_, -, hcore⟩ := Result.bind_eq_ok.mp hcore
  obtain ⟨_, hlen, -⟩ := Result.bind_eq_ok.mp hcore
  exact ne_nil_of_hopsLength hlen

/-- The hop is that of the message. -/
theorem chanOpenInitExecute_inBounds (iso : H.Isolated) {msg : MsgChannelOpenInit}
    (hl : H.lookupModuleByPort msg.portIdOnA = some moduleId)
    (hv : chanOpenInitValidate H s moduleId msg = .ok ()) :
    Ensures (chanOpenInitExecute H moduleId msg) s InBounds := by
  unfold chanOpenInitExecute
  refine ensures_read_bind (Ensures.ofExcept_bind (fun _ _ => .err) fun m hm => ?_)
  refine ensures_runCallback ((iso _ _ (moduleOf_eq hl hm)).openInit _ _ _ _ _ _) fun _ app _ => ?_
  refine Ensures.ofExcept_bind (fun _ _ => .err) fun agreed _ => ?_
  obtain ⟨extras, version⟩ := agreed
  refine Ensures.index_ne_nil_bind (hopsOnA_of_validate hv) fun _ => ?_
  refine Ensures.ofExcept_bind (fun _ _ => .err) fun e _ => ?_
  exact openChannel_ensures (fun _ => .overflow) InBounds.ok

theorem chanOpenTryExecute_inBounds (iso : H.Isolated) {msg : MsgChannelOpenTry}
    (hl : H.lookupModuleByPort msg.portIdOnB = some moduleId)
    (hv : chanOpenTryValidate H s moduleId msg = .ok ()) :
    Ensures (chanOpenTryExecute H moduleId msg) s InBounds := by
  unfold chanOpenTryExecute
  refine ensures_read_bind (Ensures.ofExcept_bind (fun _ _ => .err) fun m hm => ?_)
  refine ensures_runCallback ((iso _ _ (moduleOf_eq hl hm)).openTry _ _ _ _ _ _) fun _ app _ => ?_
  refine Ensures.ofExcept_bind (fun _ _ => .err) fun agreed _ => ?_
  obtain ⟨extras, version⟩ := agreed
  refine Ensures.index_ne_nil_bind (hopsOnB_of_validate hv) fun _ => ?_
  refine Ensures.ofExcept_bind (fun _ _ => .err) fun e _ => ?_
  exact openChannel_ensures (fun _ => .overflow) InBounds.ok

/-- Both close handlers. -/
theorem chanCloseExecute_inBounds (hr : s.store.Routed) {key : ChannelKey} {log : String}
    {callback : Module (Store CS Cons) μ →
      Callback (Store CS Cons) μ (Except ChannelError ModuleExtras)}
    {event : PortId → ChannelId → ConnectionId → IbcEvent}
    (hcb : ∀ m, channelRoute H moduleId = .ok m → (callback m).KeepsStore) :
    Ensures (chanCloseExecute H moduleId key callback log event) s InBounds := by
  unfold chanCloseExecute
  refine Ensures.ofExcept_bind (fun _ _ => .err) fun m hm => ?_
  refine ensures_runCallback (hcb m hm) fun _ app _ => ?_
  refine Ensures.ofExcept_bind (fun _ _ => .err) fun extras _ => ?_
  refine ensures_read_bind (Ensures.ofExcept_bind (fun _ _ => .err) fun e he => ?_)
  refine ensures_write_bind (ensures_write_bind ?_)
  refine Ensures.ofExcept_bind (fun _ _ => .err) fun _ _ => ?_
  have hhops : e.connectionHops ≠ [] := hr.hops_ne_nil he
  exact Ensures.index_ne_nil_bind hhops fun _ => InBounds.ok

/-- The end is looked up again after the writes. -/
theorem sendPacketExecute_inBounds (hr : s.store.Routed) (p : Packet) :
    Ensures (sendPacketExecute H p) s InBounds := by
  unfold sendPacketExecute
  refine ensures_read_bind (Ensures.ofExcept_bind (fun _ _ => .err) fun next _ => ?_)
  refine Ensures.addU64_bind .overflow fun _ => ensures_write_bind ?_
  refine InBounds.ofResult_bind commitment_inBounds fun cm _ => ?_
  refine ensures_write_bind (ensures_write_bind (ensures_read_bind ?_))
  refine Ensures.ofExcept_bind (fun _ _ => .err) fun e he => ?_
  have hhops : e.connectionHops ≠ [] := hr.hops_ne_nil he
  exact Ensures.index_ne_nil_bind hhops fun _ => InBounds.ok

theorem markReceived_inBounds {ordering : Order} {p : Packet} {f : Unit → Handler CS Cons μ Unit}
    (hf : ∀ s, Ensures (f ()) s InBounds) :
    Ensures (markReceived ordering p >>= f) s InBounds := by
  cases ordering with
  | none => exact hf _
  | unordered => exact hf _
  | ordered =>
    simp only [markReceived, Exec.bind_assoc]
    refine ensures_read_bind (Ensures.ofExcept_bind (fun _ _ => .err) fun n _ => ?_)
    exact Ensures.addU64_bind .overflow fun _ => hf _

/-- Executing the connection handshake indexes nothing. -/
theorem ConnectionMsg.execute_inBounds (msg : ConnectionMsg) :
    Ensures (msg.execute H) s InBounds := by
  cases msg with
  | openInit msg =>
    refine ensures_read_bind (Ensures.ofExcept_bind (fun _ _ => .err) fun versions _ => ?_)
    refine Ensures.ofExcept_bind (fun _ _ => .err) fun e _ => ?_
    refine ensures_write_bind (ensures_write_bind (ensures_write_bind ?_))
    exact increaseConnectionCounter_ensures (fun _ => .overflow) InBounds.ok
  | openTry msg =>
    refine ensures_read_bind (Ensures.ofExcept_bind (fun _ _ => .err) fun vars _ => ?_)
    refine Ensures.ofExcept_bind (fun _ _ => .err) fun connId _ => ?_
    refine ensures_write_bind (ensures_write_bind (ensures_write_bind ?_))
    exact increaseConnectionCounter_ensures (fun _ => .overflow) InBounds.ok
  | openAck msg =>
    exact ensures_read_bind (Ensures.ofExcept_bind (fun _ _ => .err) fun e _ => InBounds.ok)
  | openConfirm msg =>
    refine ensures_read_bind (Ensures.ofExcept_bind (fun _ _ => .err) fun e _ => ?_)
    exact Ensures.ofExcept_bind (fun _ _ => .err) fun _ _ => InBounds.ok

variable (iso : H.Isolated) (hr : s.store.Routed)

include iso hr

/-- The hop is that of the end, which a callback leaves as it is. -/
theorem chanOpenAckExecute_inBounds {msg : MsgChannelOpenAck}
    (hl : H.lookupModuleByPort msg.portIdOnA = some moduleId) :
    Ensures (chanOpenAckExecute H moduleId msg) s InBounds := by
  unfold chanOpenAckExecute
  refine Ensures.ofExcept_bind (fun _ _ => .err) fun m hm => ?_
  refine ensures_runCallback ((iso _ _ (moduleOf_eq hl hm)).openAck _ _ _) fun _ app _ => ?_
  refine Ensures.ofExcept_bind (fun _ _ => .err) fun extras _ => ?_
  refine ensures_read_bind (Ensures.ofExcept_bind (fun _ _ => .err) fun e he => ?_)
  refine ensures_write_bind (ensures_write_bind ?_)
  have hhops : e.connectionHops ≠ [] := hr.hops_ne_nil he
  exact Ensures.index_ne_nil_bind hhops fun _ => InBounds.ok

theorem chanOpenConfirmExecute_inBounds {msg : MsgChannelOpenConfirm}
    (hl : H.lookupModuleByPort msg.portIdOnB = some moduleId) :
    Ensures (chanOpenConfirmExecute H moduleId msg) s InBounds := by
  unfold chanOpenConfirmExecute
  refine Ensures.ofExcept_bind (fun _ _ => .err) fun m hm => ?_
  refine ensures_runCallback ((iso _ _ (moduleOf_eq hl hm)).openConfirm _ _) fun _ app _ => ?_
  refine Ensures.ofExcept_bind (fun _ _ => .err) fun extras _ => ?_
  refine ensures_read_bind (Ensures.ofExcept_bind (fun _ _ => .err) fun e he => ?_)
  refine ensures_write_bind (ensures_write_bind ?_)
  have hhops : e.connectionHops ≠ [] := hr.hops_ne_nil he
  refine Ensures.index_ne_nil_bind hhops fun _ => ?_
  exact Ensures.ofExcept_bind (fun _ _ => .err) fun _ _ => InBounds.ok

theorem recvPacketExecute_inBounds {msg : MsgRecvPacket}
    (hl : H.lookupModuleByPort msg.packet.portIdOnB = some moduleId) :
    Ensures (recvPacketExecute H moduleId msg) s InBounds := by
  unfold recvPacketExecute
  refine ensures_read_bind (Ensures.ofExcept_bind (fun _ _ => .err) fun e he => ?_)
  have hhops : e.connectionHops ≠ [] := hr.hops_ne_nil he
  refine Ensures.ofExcept_bind (fun _ _ => .err) fun already _ => ?_
  refine Ensures.ite (fun _ => InBounds.ok) fun _ => ?_
  refine Ensures.ofExcept_bind (fun _ _ => .err) fun m hm => ?_
  refine ensures_runCallback ((iso _ _ (moduleOf_eq hl hm)).recvPacket _ _) fun answer app _ => ?_
  obtain ⟨extras, ack⟩ := answer
  refine ensures_write_bind (markReceived_inBounds fun _ => ?_)
  refine ensures_write_bind (ensures_write_bind (ensures_write_bind ?_))
  exact Ensures.index_ne_nil_bind hhops fun _ => InBounds.ok

theorem acknowledgementPacketExecute_inBounds {msg : MsgAcknowledgement}
    (hl : H.lookupModuleByPort msg.packet.portIdOnA = some moduleId) :
    Ensures (acknowledgementPacketExecute H moduleId msg) s InBounds := by
  unfold acknowledgementPacketExecute
  refine ensures_read_bind (Ensures.ofExcept_bind (fun _ _ => .err) fun e he => ?_)
  have hhops : e.connectionHops ≠ [] := hr.hops_ne_nil he
  refine Ensures.index_ne_nil_bind hhops fun _ => ensures_write_bind (ensures_write_bind ?_)
  cases s.getPacketCommitment msg.packet.keyOnA with
  | error _ => exact InBounds.ok
  | ok _ =>
    refine Ensures.ofExcept_bind (fun _ _ => .err) fun m hm => ?_
    refine ensures_runCallback ((iso _ _ (moduleOf_eq hl hm)).acknowledgePacket _ _ _)
      fun answer app _ => ?_
    obtain ⟨extras, result⟩ := answer
    refine ensures_write_bind (Ensures.ofExcept_bind (fun _ _ => .err) fun _ _ => ?_)
    refine ensures_write_bind ?_
    by_cases ho : e.ordering = .ordered
    · simp only [advanceNextSequenceAck, if_pos ho, Exec.bind_assoc]
      exact Ensures.addU64_bind .overflow fun _ => InBounds.ok
    · simp only [advanceNextSequenceAck, if_neg ho]
      exact InBounds.ok

theorem timeoutPacketExecute_inBounds (msg : TimeoutMsgType)
    (hl : H.lookupModuleByPort msg.packet.portIdOnA = some moduleId) :
    Ensures (timeoutPacketExecute H moduleId msg) s InBounds := by
  unfold timeoutPacketExecute
  refine ensures_read_bind (Ensures.ofExcept_bind (fun _ _ => .err) fun e he => ?_)
  have hhops : e.connectionHops ≠ [] := hr.hops_ne_nil he
  refine ensures_write_bind (ensures_write_bind ?_)
  cases s.getPacketCommitment msg.packet.keyOnA with
  | error _ => exact InBounds.ok
  | ok _ =>
    refine Ensures.ofExcept_bind (fun _ _ => .err) fun m hm => ?_
    refine ensures_runCallback ((iso _ _ (moduleOf_eq hl hm)).timeoutPacket _ _)
      fun answer app _ => ?_
    obtain ⟨extras, result⟩ := answer
    refine ensures_write_bind (Ensures.ofExcept_bind (fun _ _ => .err) fun _ _ => ?_)
    refine ensures_write_bind ?_
    by_cases ho : e.ordering = .ordered
    · simp only [closeIfOrdered, emitChannelClosed, if_pos ho, Exec.bind_assoc]
      exact Ensures.index_ne_nil_bind hhops fun _ => InBounds.ok
    · simp only [closeIfOrdered, emitChannelClosed, if_neg ho]
      exact InBounds.ok

/-- Execution of a channel message. -/
theorem ChannelMsg.execute_inBounds {msg : ChannelMsg}
    (hl : H.lookupModuleByPort msg.localPort = some moduleId)
    (hv : msg.validate H s moduleId = .ok ()) : Ensures (msg.execute H moduleId) s InBounds := by
  cases msg with
  | openInit msg => exact chanOpenInitExecute_inBounds iso hl hv
  | openTry msg => exact chanOpenTryExecute_inBounds iso hl hv
  | openAck msg => exact chanOpenAckExecute_inBounds iso hr hl
  | openConfirm msg => exact chanOpenConfirmExecute_inBounds iso hr hl
  | closeInit msg =>
    exact chanCloseExecute_inBounds hr fun m hm => (iso _ m (moduleOf_eq hl hm)).closeInit _ _
  | closeConfirm msg =>
    exact chanCloseExecute_inBounds hr fun m hm => (iso _ m (moduleOf_eq hl hm)).closeConfirm _ _

/-- Execution of a packet message, valid or not. -/
theorem PacketMsg.execute_inBounds {msg : PacketMsg}
    (hl : H.lookupModuleByPort msg.localPort = some moduleId) :
    Ensures (msg.execute H moduleId) s InBounds := by
  cases msg with
  | recv msg => exact recvPacketExecute_inBounds iso hr hl
  | ack msg => exact acknowledgementPacketExecute_inBounds iso hr hl
  | timeout msg => exact timeoutPacketExecute_inBounds iso hr (.timeout msg) hl
  | timeoutOnClose msg => exact timeoutPacketExecute_inBounds iso hr (.timeoutOnClose msg) hl

end Execute

/-! ### Every input -/

section Inputs

variable {H : Host CS Cons μ} {s : Ctx CS Cons μ} {i : Input Cons μ}

/-- A validation in bounds, then an execution in bounds. -/
theorem ensures_validate_bind {msg : MsgEnvelope} (hv : Avoids .outOfBounds (validate H s msg))
    (hx : validate H s msg = .ok () → Ensures (execute H msg) s InBounds) :
    Ensures (dispatch H msg) s InBounds := by
  unfold dispatch
  exact ensures_read_bind (InBounds.ofResult_bind hv fun _ hok => hx hok)

/-- Any message but those for clients. -/
theorem dispatch_inBounds (iso : H.Isolated) (hL : H.lightClient.ReadsInBounds)
    (hr : s.store.Routed) {msg : MsgEnvelope} (hc : ∀ m, msg ≠ .client m) :
    Ensures (dispatch H msg) s InBounds := by
  cases msg with
  | client msg => exact absurd rfl (hc msg)
  | connection msg =>
    exact ensures_validate_bind (msg.validate_inBounds hL) fun _ => msg.execute_inBounds
  | channel msg =>
    refine ensures_validate_bind (avoids_ofExcept.bind fun _ _ => msg.validate_inBounds hL hr) ?_
    intro hv
    exact lookupModule_ensures hv fun _ hl hv => ChannelMsg.execute_inBounds iso hr hl hv
  | packet msg =>
    refine ensures_validate_bind (avoids_ofExcept.bind fun _ _ => msg.validate_inBounds hL hr) ?_
    intro _
    refine Ensures.ofExcept_bind (fun _ _ => .err) fun moduleId hl => ?_
    exact PacketMsg.execute_inBounds iso hr (lookupModule_eq_ok.mp hl)

/-- A packet of an application. -/
theorem sendPacket_inBounds (hL : H.lightClient.ReadsInBounds) (hr : s.store.Routed)
    (p : Packet) : Ensures (sendPacket H p) s InBounds := by
  unfold sendPacket
  exact ensures_read_bind (InBounds.ofResult_bind (sendPacketValidate_inBounds hL hr p)
    fun _ _ => sendPacketExecute_inBounds hr p)

/-- **No index is out of bounds.** In every reachable state the store leads from each channel to a
client, and no further message or packet makes a handler index past the end of a list. The handlers
of messages for clients index nothing. -/
theorem no_index_out_of_bounds (iso : H.Isolated) (hL : H.lightClient.KeepsClients)
    (hreads : H.lightClient.ReadsInBounds) (hver : H.getCompatibleVersions ≠ [])
    (h : Reachable H s) :
    (∀ key e, s.store.channel.channels key = some e → ∃ connId conn cs,
      e.connectionHops = [connId] ∧ s.store.connection.connections connId = some conn ∧
        s.store.client.clients.clientState conn.clientId = some cs) ∧
    (∀ id conn, s.store.connection.connections id = some conn →
      conn.versions ≠ [] ∧ (conn.state ≠ .init → conn.versions.length = 1)) ∧
    ∀ i : Input Cons μ, i.isClient = false →
      (i.run H s).1 ≠ .error (.panic .outOfBounds) := by
  have hr := h.routed iso hL hver
  refine ⟨fun key e he => ?_, fun id conn hconn => ?_, fun i hi => ?_⟩
  · obtain ⟨connId, conn, hhops, hconn⟩ := hr.hop key e he
    obtain ⟨cs, hcs⟩ := Option.ne_none_iff_exists'.mp (hr.client connId conn hconn)
    exact ⟨connId, conn, cs, hhops, hconn, hcs⟩
  · exact ⟨hr.version id conn hconn, hr.single id conn hconn⟩
  · cases i with
    | dispatch msg =>
      refine dispatch_inBounds iso hreads hr ?_
      rintro m rfl
      cases hi
    | sendPacket p => exact sendPacket_inBounds hreads hr p
    | newBlock env => nofun
    | application app => nofun

end Inputs

/-! ### The mock chain -/

/-- The mock client removes no client. -/
theorem mockClient_keepsClients (codec : MockCodec) : (mockClient codec).KeepsClients where
  initialise cs id _ _ :=
    Ensures.ofExcept_bind (fun _ _ => .refl) fun cons _ =>
      (Clients.Kept.refl.storeClientState id cs).storeConsensusState id cs.latestHeight cons
  updateState _ id _ _ :=
    Ensures.ofExcept_bind (fun _ _ => .refl) fun header _ =>
      (Clients.Kept.refl.storeConsensusState id header.height
        (MockConsensusState.new header)).storeClientState id (MockClientState.new header)
  updateStateOnMisbehaviour _ id _ _ _ := Clients.Kept.refl.storeClientState id _
  updateStateOnUpgrade _ id _ _ _ :=
    Ensures.ofResult_bind (fun _ _ => .refl) fun cs _ =>
      Ensures.ofExcept_bind (fun _ _ => .refl) fun cons _ =>
        (Clients.Kept.refl.storeConsensusState id cs.latestHeight cons).storeClientState id cs

/-- It indexes nothing. -/
theorem mockClient_readsInBounds (codec : MockCodec) : (mockClient codec).ReadsInBounds where
  confirmNotFrozen _ := avoids_ofExcept
  validateProofHeight _ _ := avoids_ofExcept

/-- On the mock chain with an open channel, opening one without a hop fails, but not by an index. -/
theorem empty_hops_in_bounds : ∃ s e, Reachable MockRun.host s ∧
    s.store.channel.channels (.transfer, MockRun.channelId) = some e ∧
    (∃ connId, e.connectionHops = [connId]) ∧
    (dispatch MockRun.host (.channel (.openInit
      ⟨.transfer, [], .transfer, .unordered, MockRun.signer, MockRun.version⟩)) s).1 ≠
      .error (.panic .outOfBounds) := by
  obtain ⟨s, hs, he⟩ := Reachable.exists_of_runAll (H := MockRun.host) (s := MockRun.start)
    (MockRun.opening .unordered) (·.store.channel.channels (.transfer, MockRun.channelId)) rfl rfl
    (by decide +kernel : _ = some (some ⟨.open, .unordered, ⟨.transfer, some MockRun.channelId⟩,
      [MockRun.connectionId], MockRun.version⟩))
  obtain ⟨hhop, -, hbounds⟩ := no_index_out_of_bounds MockRun.host_isolated
    (mockClient_keepsClients _) (mockClient_readsInBounds _) (List.cons_ne_nil _ _) hs
  obtain ⟨connId, -, -, hhops, -⟩ := hhop _ _ he
  exact ⟨s, _, hs, he, ⟨connId, hhops⟩, hbounds (.dispatch _) rfl⟩

end Ibc
