import Ibc.Protocol.Fresh
import Ibc.Tendermint.Update

/-!
# A frozen client is inert

A message relies on one client: the one it names, or the one behind the connection or the channel it
names (`MsgEnvelope.clientOf`). Each handler asks anew whether that client is frozen, on its own
route to it, and the packet handlers ask only after the paths on which there is nothing to do. This
module goes over all of them, for any light client that keeps to the record of the client it is
called for (`LightClient.Local`).

* `Run.about_frozen`: what is stored about a frozen client never changes again.
* `dispatch_frozen`, `dispatch_packet_frozen`, `sendPacket_frozen`: no message over a frozen client
  succeeds, except for packet messages that have nothing to do.
* **`frozen_client_inert`**: these, for Tendermint clients.
-/

namespace Ibc

open Exec

variable {CS Cons μ : Type}

/-! ### The client behind a message -/

/-- The client of the connection under the first hop. -/
def Store.clientUnder (st : Store CS Cons) (hops : List ConnectionId) : Option ClientId :=
  (st.connectionUnder hops).map (·.clientId)

/-- The client of the channel under a key. -/
def Store.clientOfChannel (st : Store CS Cons) (key : ChannelKey) : Option ClientId :=
  (st.channel.channels key).bind fun e => st.clientUnder e.connectionHops

/-- The client of a connection. -/
def Store.clientOfConnection (st : Store CS Cons) (id : ConnectionId) : Option ClientId :=
  (st.connection.connections id).map (·.clientId)

def ConnectionMsg.clientOf (st : Store CS Cons) : ConnectionMsg → Option ClientId
  | .openInit msg => some msg.clientIdOnA
  | .openTry msg => some msg.clientIdOnB
  | .openAck msg => st.clientOfConnection msg.connIdOnA
  | .openConfirm msg => st.clientOfConnection msg.connIdOnB

def ChannelMsg.clientOf (st : Store CS Cons) : ChannelMsg → Option ClientId
  | .openInit msg => st.clientUnder msg.connectionHopsOnA
  | .openTry msg => st.clientUnder msg.connectionHopsOnB
  | .openAck msg => st.clientOfChannel (msg.portIdOnA, msg.chanIdOnA)
  | .openConfirm msg => st.clientOfChannel (msg.portIdOnB, msg.chanIdOnB)
  | .closeInit msg => st.clientOfChannel (msg.portIdOnA, msg.chanIdOnA)
  | .closeConfirm msg => st.clientOfChannel (msg.portIdOnB, msg.chanIdOnB)

def PacketMsg.clientOf (st : Store CS Cons) : PacketMsg → Option ClientId
  | .recv msg => st.clientOfChannel msg.packet.chanOnB
  | .ack msg => st.clientOfChannel msg.packet.chanOnA
  | .timeout msg => st.clientOfChannel msg.packet.chanOnA
  | .timeoutOnClose msg => st.clientOfChannel msg.packet.chanOnA

/-- The client a message relies on. Creating a client relies on none. -/
def MsgEnvelope.clientOf (st : Store CS Cons) : MsgEnvelope → Option ClientId
  | .client msg => msg.clientOf
  | .connection msg => msg.clientOf st
  | .channel msg => msg.clientOf st
  | .packet msg => msg.clientOf st

def MsgEnvelope.isPacket : MsgEnvelope → Bool
  | .packet _ => true
  | _ => false

/-- The client is stored, and frozen. -/
def Frozen (H : Host CS Cons μ) (st : Store CS Cons) (id : ClientId) : Prop :=
  ∃ cs, st.client.clients.clientState id = some cs ∧ H.lightClient.confirmNotFrozen cs ≠ .ok ()

section Frozen

variable {H : Host CS Cons μ} {s s' : Ctx CS Cons μ} {id : ClientId} {moduleId : ModuleId}

theorem Frozen.not_active {cs : CS} (h : Frozen H s.store id) : ¬ Active H s.store id cs := by
  obtain ⟨cs', hcs', hfrozen⟩ := h
  intro hactive
  obtain rfl : cs' = cs := Option.some.inj (hcs'.symm.trans hactive.client)
  exact hfrozen hactive.notFrozen

theorem Frozen.of_about (h : Frozen H s.store id)
    (heq : s'.store.client.about id = s.store.client.about id) : Frozen H s'.store id := by
  obtain ⟨cs, hcs, hfrozen⟩ := h
  refine ⟨cs, ?_, hfrozen⟩
  rw [← hcs, Clients.clientState, Clients.clientState]
  exact congrArg (fun r => Option.bind (Prod.fst r) ClientRecord.clientState) heq

/-! ### Messages for clients -/

/-- A client message leaves what is stored about a frozen client. -/
theorem dispatch_client_frozen (hL : H.lightClient.Local) (hfrozen : Frozen H s.store id)
    (msg : ClientMsg) : Ensures (dispatch H (.client msg)) s fun _ s' =>
      s'.store.client.about id = s.store.client.about id := by
  by_cases hid : id ∈ msg.touches H s
  · -- It is refused: the client is neither active nor new.
    unfold dispatch
    refine ensures_read_bind (Ensures.ofResult_bind (fun _ _ => rfl) fun _ hv => ?_)
    obtain ⟨cs, hactive⟩ | hfresh := ClientMsg.validate_touches hid hv
    · exact absurd hactive hfrozen.not_active
    · obtain ⟨cs, hcs, -⟩ := hfrozen
      exact absurd (hcs.symm.trans hfresh) (Option.some_ne_none cs)
  · exact dispatch_client_about hL hid

theorem Step.about_frozen {i : Input Cons μ} (iso : H.Isolated) (hL : H.lightClient.Local)
    (h : Step H i s s') (hfrozen : Frozen H s.store id) :
    s'.store.client.about id = s.store.client.about id := by
  by_cases hi : i.isClient = true
  · obtain ⟨msg, rfl⟩ := Input.isClient_eq_true.mp hi
    obtain ⟨r, hrun, -⟩ := h
    have habout := dispatch_client_frozen hL hfrozen msg
    rwa [Ensures, show dispatch H (.client msg) s = (r, s') from hrun] at habout
  · rw [h.client_eq iso (by simpa using hi)]

/-- **What is stored about a frozen client never changes again.** -/
theorem Run.about_frozen (iso : H.Isolated) (hL : H.lightClient.Local) (h : Run H s s')
    (hfrozen : Frozen H s.store id) : s'.store.client.about id = s.store.client.about id := by
  induction h with
  | refl => rfl
  | step i _ hs ih => exact (hs.about_frozen iso hL (hfrozen.of_about ih)).trans ih

/-! ### Handshakes -/

theorem Store.clientUnder_eq {st : Store CS Cons} {hops : List ConnectionId} {conn : ConnectionEnd}
    (h : st.connectionUnder hops = some conn) : st.clientUnder hops = some conn.clientId := by
  rw [clientUnder, h, Option.map_some]

theorem Store.clientOfChannel_eq {st : Store CS Cons} {key : ChannelKey} {e : ChannelEnd}
    {conn : ConnectionEnd} (he : st.channel.channels key = some e)
    (h : st.connectionUnder e.connectionHops = some conn) :
    st.clientOfChannel key = some conn.clientId := by
  rw [clientOfChannel, he, Option.bind_some, clientUnder_eq h]

/-- A connection message that stores an end relies on an active client. -/
theorem ConnectionMsg.Stores.active {msg : ConnectionMsg} {connId : ConnectionId}
    {e : ConnectionEnd} (h : msg.Stores H s connId e) :
    ∃ client cs, msg.clientOf s.store = some client ∧ Active H s.store client cs := by
  cases h with
  | openInit hcs _ => exact ⟨_, _, rfl, hcs⟩
  | openTry _ hv =>
    obtain ⟨cs, _, _, hactive, -⟩ := hv
    exact ⟨_, cs, rfl, hactive⟩
  | openAck he _ hv | openConfirm he _ _ hv =>
    obtain ⟨cs, _, _, hactive, -⟩ := hv
    exact ⟨_, cs, congrArg (Option.map _) he, hactive⟩

/-- A channel message that stores an end relies on an active client. -/
theorem ChannelMsg.Stores.active {msg : ChannelMsg} {key : ChannelKey} {e : ChannelEnd}
    (h : msg.Stores H s key e) :
    ∃ client cs, msg.clientOf s.store = some client ∧ Active H s.store client cs := by
  cases h with
  | openInit hhops hconn hcs _ =>
    refine ⟨_, _, Store.clientUnder_eq ?_, hcs⟩
    rw [hhops]
    exact hconn
  | openTry _ hroute _ hv =>
    obtain ⟨cs, _, _, hactive, -⟩ := hv
    exact ⟨_, cs, Store.clientUnder_eq hroute.under, hactive⟩
  | openAck he _ hroute hv | openConfirm he _ _ hroute hv | closeConfirm he _ _ hroute hv =>
    obtain ⟨cs, _, _, hactive, -⟩ := hv
    exact ⟨_, cs, Store.clientOfChannel_eq he hroute.under, hactive⟩
  | closeInit he _ hconn hcs => exact ⟨_, _, Store.clientOfChannel_eq he hconn, hcs⟩

/-- What an active client excludes. -/
theorem Frozen.ne_active {client : ClientId} {cs : CS} {o : Option ClientId}
    (h : Frozen H s.store id) (ho : o = some client) (hactive : Active H s.store client cs) :
    o ≠ some id := by
  rintro rfl
  cases ho
  exact h.not_active hactive

/-! ### Packets -/

theorem sendPacketValidate_active {p : Packet} (hv : sendPacketValidate H s p = .ok ()) :
    ∃ client cs, s.store.clientOfChannel p.chanOnA = some client ∧ Active H s.store client cs := by
  obtain ⟨e, conn, client, hv⟩ := sendPacketValidate_eq_ok.mp hv
  exact ⟨_, _, Store.clientOfChannel_eq hv.channel hv.connection, hv.active⟩

theorem recvPacketValidate_active {msg : MsgRecvPacket} (hv : recvPacketValidate H s msg = .ok ()) :
    ∃ client cs, s.store.clientOfChannel msg.packet.chanOnB = some client ∧
      Active H s.store client cs := by
  obtain ⟨e, conn, client, hv⟩ := recvPacketValidate_eq_ok.mp hv
  exact ⟨_, _, Store.clientOfChannel_eq hv.channel hv.connection, hv.usable.active⟩

/-- An acknowledgement is checked against the client when the packet's commitment is stored. -/
theorem acknowledgementPacketValidate_active {msg : MsgAcknowledgement} {cm : PacketCommitment}
    (hv : acknowledgementPacketValidate H s moduleId msg = .ok ())
    (hcm : s.store.channel.packetCommitment msg.packet.keyOnA = some cm) :
    ∃ client cs, s.store.clientOfChannel msg.packet.chanOnA = some client ∧
      Active H s.store client cs := by
  obtain ⟨m, hm⟩ := acknowledgement_route hv
  obtain ⟨e, conn, client, hv⟩ := (acknowledgementPacketValidate_eq_ok hm hcm).mp hv
  exact ⟨_, _, Store.clientOfChannel_eq hv.channel hv.connection, hv.usable.active⟩

/-- So is a timeout, of either kind. -/
theorem timeoutPacketValidate_active {msg : TimeoutMsgType} {cm : PacketCommitment}
    (hv : timeoutPacketValidate H s moduleId msg = .ok ())
    (hcm : s.store.channel.packetCommitment msg.packet.keyOnA = some cm) :
    ∃ client cs, s.store.clientOfChannel msg.packet.chanOnA = some client ∧
      Active H s.store client cs := by
  obtain ⟨m, hm⟩ := timeout_route hv
  cases msg with
  | timeout msg =>
    obtain ⟨e, conn, client, hv⟩ := (timeoutPacketValidate_eq_ok hm hcm).mp hv
    exact ⟨_, _, Store.clientOfChannel_eq hv.channel hv.connection, hv.usable.active⟩
  | timeoutOnClose msg =>
    obtain ⟨e, conn, _, client, hv⟩ := (timeoutOnClosePacketValidate_eq_ok hm hcm).mp hv
    exact ⟨_, _, Store.clientOfChannel_eq hv.channel hv.connection, hv.usable.active⟩

/-- Without a commitment an acknowledgement only emits events. -/
theorem acknowledgementPacketExecute_store {msg : MsgAcknowledgement}
    (hcm : s.store.channel.packetCommitment msg.packet.keyOnA = none) :
    Ensures (acknowledgementPacketExecute H moduleId msg) s fun _ s' => s'.store = s.store := by
  unfold acknowledgementPacketExecute
  refine ensures_read_bind (Ensures.ofExcept_bind (fun _ _ => rfl) fun e _ => ?_)
  refine Ensures.index_zero_bind rfl fun _ => ensures_write_bind (ensures_write_bind ?_)
  simp only [Ctx.getPacketCommitment, hcm, Result.okOr_none]
  rfl

/-- And so does a timeout. -/
theorem timeoutPacketExecute_store {msg : TimeoutMsgType}
    (hcm : s.store.channel.packetCommitment msg.packet.keyOnA = none) :
    Ensures (timeoutPacketExecute H moduleId msg) s fun _ s' => s'.store = s.store := by
  unfold timeoutPacketExecute
  refine ensures_read_bind (Ensures.ofExcept_bind (fun _ _ => rfl) fun e _ => ?_)
  refine ensures_write_bind (ensures_write_bind ?_)
  simp only [Ctx.getPacketCommitment, hcm, Result.okOr_none]
  rfl

/-! ### All messages -/

/-- A message that is no packet message and succeeds relies on another client. -/
theorem dispatch_frozen (iso : H.Isolated) (hfrozen : Frozen H s.store id) {msg : MsgEnvelope}
    (hid : msg.clientOf s.store = some id) (hp : msg.isPacket = false) :
    (dispatch H msg s).1 ≠ .ok () := by
  intro hok
  have hrun : dispatch H msg s = (.ok (), (dispatch H msg s).2) := Prod.ext hok rfl
  cases msg with
  | client msg =>
    obtain ⟨cs, hactive⟩ := ClientMsg.validate_active hid (dispatch_eq_ok_iff.mp hrun).1
    exact hfrozen.not_active hactive
  | connection msg =>
    have hends := dispatch_connection_endsIn (H := H) (s := s) msg
    rw [Ensures, hrun] at hends
    obtain ⟨hne, -⟩ | ⟨_, _, hstores, -⟩ := hends Result.returns_ok
    · exact hne rfl
    · obtain ⟨client, cs, hclient, hactive⟩ := hstores.active
      exact hfrozen.ne_active hclient hactive hid
  | channel msg =>
    have hends := dispatch_channel_endsIn iso (s := s) msg
    rw [Ensures, hrun] at hends
    obtain ⟨-, ⟨hne, -⟩ | ⟨_, _, hstores, -⟩⟩ := hends Result.returns_ok
    · exact hne rfl
    · obtain ⟨client, cs, hclient, hactive⟩ := hstores.active
      exact hfrozen.ne_active hclient hactive hid
  | packet msg => cases hp

/-- A packet message that succeeds writes nothing. -/
theorem dispatch_packet_frozen (hfrozen : Frozen H s.store id) {msg : PacketMsg}
    (hid : msg.clientOf s.store = some id) :
    Ensures (dispatch H (.packet msg)) s fun r s' => r = .ok () → s'.store = s.store := by
  unfold dispatch
  refine ensures_read_bind (Ensures.ofResult_bind (fun _ _ _ => rfl) fun _ hv => ?_)
  refine lookupModule_ensures hv fun _ _ hv => ?_
  have hinactive : ¬ ∃ client cs,
      msg.clientOf s.store = some client ∧ Active H s.store client cs := by
    rintro ⟨client, cs, hclient, hactive⟩
    exact hfrozen.ne_active hclient hactive hid
  -- With a commitment the client is asked for; without one nothing is written.
  cases msg with
  | recv msg => exact absurd (recvPacketValidate_active hv) hinactive
  | ack msg =>
    cases hcm : s.store.channel.packetCommitment msg.packet.keyOnA with
    | none => exact (acknowledgementPacketExecute_store hcm).mono fun _ _ h _ => h
    | some cm => exact absurd (acknowledgementPacketValidate_active hv hcm) hinactive
  | timeout msg | timeoutOnClose msg =>
    cases hcm : s.store.channel.packetCommitment msg.packet.keyOnA with
    | none => exact Ensures.mono (timeoutPacketExecute_store hcm) fun _ _ h _ => h
    | some cm => exact absurd (timeoutPacketValidate_active hv hcm) hinactive

theorem sendPacket_frozen (hfrozen : Frozen H s.store id) {p : Packet}
    (hid : s.store.clientOfChannel p.chanOnA = some id) : (sendPacket H p s).1 ≠ .ok () := by
  intro hok
  have hrun : sendPacket H p s = (.ok (), (sendPacket H p s).2) := Prod.ext hok rfl
  obtain ⟨_, _, hread, hrun⟩ := Exec.bind_eq_ok.mp hrun
  cases hread
  obtain ⟨_, _, hv, -⟩ := Exec.bind_eq_ok.mp hrun
  obtain ⟨client, cs, hclient, hactive⟩ := sendPacketValidate_active (congrArg Prod.fst hv)
  exact hfrozen.ne_active hclient hactive hid

end Frozen

/-! ### Tendermint clients -/

section Tendermint

variable {lib : TmLibrary} {H : TmHost μ}
  {s s' : TmCtx μ} {id : ClientId} {cs : TmClientState}

theorem tmClient_local (lib : TmLibrary) : (tmClient lib).Local where
  initialise cs id cons other hne := by
    refine Preserves.ofExcept_bind fun cons _ => ?_
    exact Preserves.write_bind (fun _ => Function.update_of_ne hne _ _) <|
      preserves_write fun _ => Function.update_of_ne hne _ _
  updateState cs id msg other hne := by
    refine Preserves.ofExcept_bind fun header _ => Preserves.ofResult_bind fun height => ?_
    refine Preserves.read_bind fun c => Preserves.ite (preserves_pure _) ?_
    exact Preserves.write_bind (fun _ => Function.update_of_ne hne _ _) <|
      Preserves.write_bind (fun _ => Function.update_of_ne hne _ _) <| preserves_pure _
  updateStateOnMisbehaviour cs id msg kind other hne :=
    preserves_write fun _ => Function.update_of_ne hne _ _
  updateStateOnUpgrade cs id upgraded cons other hne := by
    refine Preserves.ofExcept_bind fun up _ => Preserves.ofExcept_bind fun cons _ => ?_
    refine Preserves.ofResult_bind fun new => ?_
    exact Preserves.write_bind (fun _ => Function.update_of_ne hne _ _) <|
      Preserves.write_bind (fun _ => Function.update_of_ne hne _ _) <| preserves_pure _

/-- The identifiers of a host with Tendermint clients are fresh. -/
theorem tmClient_contained (lib : TmLibrary) : (tmClient lib).Contained where
  toLocal := tmClient_local lib
  initialise_fails cs id cons c := by
    refine Ensures.ofExcept_bind (fun _ _ _ => rfl) fun cons _ => ?_
    exact fun h => absurd rfl h

theorem Host.Tendermint.frozen (tm : H.Tendermint lib)
    (hcs : s.store.client.clients.clientState id = some cs) (hfrozen : cs.frozenHeight ≠ none) :
    Frozen H s.store id := by
  refine ⟨cs, hcs, ?_⟩
  rw [tm.lightClient]
  intro hnot
  exact hfrozen (TmClientState.confirmNotFrozen_eq_ok.mp (Result.ofExcept_eq_ok.mp hnot))

/-- **A frozen client is inert forever.** Nothing stored about it changes, no handshake, close,
client message or send over it succeeds, and a packet message over it that succeeds writes
nothing. -/
theorem frozen_client_inert (iso : H.Isolated) (tm : H.Tendermint lib)
    (hcs : s.store.client.clients.clientState id = some cs) (hfrozen : cs.frozenHeight ≠ none)
    (hrun : Run H s s') :
    s'.store.client.about id = s.store.client.about id ∧
    (∀ msg, msg.clientOf s'.store = some id → msg.isPacket = false →
      (dispatch H msg s').1 ≠ .ok ()) ∧
    (∀ msg s'', msg.clientOf s'.store = some id → dispatch H (.packet msg) s' = (.ok (), s'') →
      s''.store = s'.store) ∧
    ∀ p : Packet, s'.store.clientOfChannel p.chanOnA = some id →
      (sendPacket H p s').1 ≠ .ok () := by
  have hfrozen := tm.frozen hcs hfrozen
  have hlocal : H.lightClient.Local := tm.lightClient ▸ tmClient_local lib
  have habout := hrun.about_frozen iso hlocal hfrozen
  have hfrozen' := hfrozen.of_about habout
  refine ⟨habout, fun msg hid hp => dispatch_frozen iso hfrozen' hid hp, ?_,
    fun p hid => sendPacket_frozen hfrozen' hid⟩
  intro msg s'' hid hok
  have hstore := dispatch_packet_frozen hfrozen' hid
  rw [Ensures, hok] at hstore
  exact hstore rfl

end Tendermint

namespace TmRun

/-- Another block at height 10. -/
def forked : TmHeader :=
  let h := block 10
  { h with signedHeader.header.appHash := List.replicate 32 7 }

def forkMsg : MsgUpdateClient :=
  ⟨clientId, ⟨"/ibc.lightclients.tendermint.v1.Header", forked.encode⟩, MockRun.signer⟩

def forkHost : TmHost Unit := host [block 10, forked]

/-- A client that has seen both blocks at height 10. -/
def fork : List (Input TmConsensusState Unit) :=
  [createClient, update 10, .dispatch (.client (.updateClient forkMsg))]

/-- The client state after the fork. -/
def frozenState : TmClientState :=
  (clientState.withHeader ⟨0, 10⟩).withFrozenHeight (Height.min 0)

end TmRun

/-- A client frozen by a fork refuses the next header, also a block later. -/
theorem forked_client_inert : ∃ s s', Reachable TmRun.forkHost s ∧
    s.store.client.clients.clientState TmRun.clientId = some TmRun.frozenState ∧
    Run TmRun.forkHost s s' ∧
    s'.store.client.about TmRun.clientId = s.store.client.about TmRun.clientId ∧
    (dispatch TmRun.forkHost (.client (.updateClient (TmRun.updateMsg 10))) s').1 ≠ .ok () := by
  obtain ⟨s, hs, hcs⟩ := Reachable.exists_of_runAll (H := TmRun.forkHost) (s := TmRun.start)
    TmRun.fork (·.store.client.clients.clientState TmRun.clientId) rfl rfl
    (by decide +kernel : _ = some (some TmRun.frozenState))
  let later : HostEnv TmConsensusState := { TmRun.env with hostHeight := ⟨0, 6⟩ }
  have hrun : Run TmRun.forkHost s { s with env := later } :=
    .step (.newBlock later) .refl ⟨.ok (), rfl, nofun⟩
  have hinert := frozen_client_inert (TmRun.host_isolated _) (TmRun.host_tendermint _) hcs
    (by decide) hrun
  have hrefused := hinert.2.1 (.client (.updateClient (TmRun.updateMsg 10))) rfl rfl
  exact ⟨s, _, hs, hcs, hrun, hinert.1, hrefused⟩

end Ibc
