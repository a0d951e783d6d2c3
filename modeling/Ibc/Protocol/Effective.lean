import Ibc.Protocol.Delay
import Ibc.Protocol.Handshake
import Ibc.Protocol.ProofSystem

/-!
# Messages that take effect

`MsgEnvelope.Effective` says, for each message that takes a proof, what it takes to be handled and
to change the store: that it is valid (`Ibc.Protocol.Valid`), that it is not one of the messages
that have nothing to do, that the module's callback succeeds, and that no counter overflows. It
speaks of the message and of the state before it, and of no handler.

* **`dispatch_changes_iff`**: if modules keep to their own state, these are exactly the messages
  with a proof that succeed and change the store.
* **`sendPacket_ok_iff`**: what it takes for a packet to be sent (`Packet.MaySend`).
-/

namespace Ibc

open Exec

variable {CS Cons μ : Type}

/-! ### What it takes -/

/-- Whether handling the message takes a proof of the other chain. -/
def MsgEnvelope.verifiesProof : MsgEnvelope → Bool
  | .client _ => false
  | .connection (.openInit _) => false
  | .connection _ => true
  | .channel (.openInit _) => false
  | .channel (.closeInit _) => false
  | .channel _ => true
  | .packet _ => true

/-- The packet was not received before, and its sequence can be counted on. -/
structure ChannelStore.FirstTime (c : ChannelStore) (ordering : Order) (p : Packet) : Prop where
  unordered : ordering = .unordered → c.packetReceipt p.keyOnB = none
  ordered : ordering = .ordered →
    c.nextSequenceRecv p.chanOnB = some p.seqOnA ∧ p.seqOnA + 1 < UInt64.size

/-- What it takes for a message of the connection handshake that takes a proof. -/
def ConnectionMsg.Effective (H : Host CS Cons μ) (s : Ctx CS Cons μ) : ConnectionMsg → Prop
  | .openInit _ => False
  | .openTry msg => (∃ connIdOnA client, msg.Valid H s connIdOnA client) ∧
      s.store.connection.connectionIdsCounter + 1 < UInt64.size
  | .openAck msg => ∃ e client, msg.Valid H s e client
  | .openConfirm msg => ∃ e connIdOnA client, msg.Valid H s e connIdOnA client

/-- The callback of the message succeeds, and the identifier of a new channel can be counted on. -/
def ChannelMsg.CallbackOk (s : Ctx CS Cons μ) (m : Module (Store CS Cons) μ) : ChannelMsg → Prop
  | .openInit _ => False
  | .openTry msg => (m.onChanOpenTryExecute msg.ordering msg.connectionHopsOnB msg.portIdOnB
      (.new s.store.channel.channelIdsCounter) ⟨msg.portIdOnA, some msg.chanIdOnA⟩
      msg.versionSupportedOnA s.store s.app).1.isOk = true ∧
        s.store.channel.channelIdsCounter + 1 < UInt64.size
  | .openAck msg => (m.onChanOpenAckExecute msg.portIdOnA msg.chanIdOnA msg.versionOnB s.store
      s.app).1.isOk = true
  | .openConfirm msg => (m.onChanOpenConfirmExecute msg.portIdOnB msg.chanIdOnB s.store
      s.app).1.isOk = true
  | .closeInit _ => False
  | .closeConfirm msg => (m.onChanCloseConfirmExecute msg.portIdOnB msg.chanIdOnB s.store
      s.app).1.isOk = true

/-- What it takes for a packet message that has something to do: the commitment of an acknowledged
or timed out packet is still stored. -/
def PacketMsg.Effective (H : Host CS Cons μ) (s : Ctx CS Cons μ) (m : Module (Store CS Cons) μ) :
    PacketMsg → Prop
  | .recv msg => ∃ e conn client, msg.Valid H s e conn client ∧
      s.store.channel.FirstTime e.ordering msg.packet
  | .ack msg => ∃ cm e conn client,
      s.store.channel.packetCommitment msg.packet.keyOnA = some cm ∧
      msg.Valid H s m cm e conn client ∧
      (m.onAcknowledgementPacketExecute msg.packet msg.acknowledgement msg.signer s.store
        s.app).1.2 = .ok () ∧
      (e.ordering = .ordered → msg.packet.seqOnA + 1 < UInt64.size)
  | .timeout msg => ∃ cm e conn client,
      s.store.channel.packetCommitment msg.packet.keyOnA = some cm ∧
      msg.Valid H s m cm e conn client ∧
      (m.onTimeoutPacketExecute msg.packet msg.signer s.store s.app).1.2 = .ok ()
  | .timeoutOnClose msg => ∃ cm e conn connIdOnB client,
      s.store.channel.packetCommitment msg.packet.keyOnA = some cm ∧
      msg.Valid H s m cm e conn connIdOnB client ∧
      (m.onTimeoutPacketExecute msg.packet msg.signer s.store s.app).1.2 = .ok ()

/-- What it takes for a message that takes a proof to be handled and to change the store. -/
def MsgEnvelope.Effective (H : Host CS Cons μ) (s : Ctx CS Cons μ) : MsgEnvelope → Prop
  | .client _ => False
  | .connection msg => msg.Effective H s
  | .channel msg => ∃ m, H.moduleOf msg.localPort = some m ∧ msg.Valid H s m ∧ msg.CallbackOk s m
  | .packet msg => ∃ m, H.moduleOf msg.localPort = some m ∧ msg.Effective H s m

/-- What it takes for a packet to be sent. -/
def Packet.MaySend (H : Host CS Cons μ) (s : Ctx CS Cons μ) (p : Packet) : Prop :=
  (∃ e conn client, p.Sendable H s e conn client) ∧ p.seqOnA + 1 < UInt64.size ∧
    ∃ cm, p.CommitsTo H.library cm

/-! ### What the handlers do -/

/-- The call succeeds and changes the store exactly when `c` holds. -/
def ChangesIff (st : Store CS Cons) (c : Prop) (r : Result ContextError Unit)
    (s' : Ctx CS Cons μ) : Prop :=
  (r = .ok () ∧ s'.store ≠ st) ↔ c

section Handlers

variable {H : Host CS Cons μ} {s s' : Ctx CS Cons μ} {moduleId : ModuleId} {st : Store CS Cons}
  {m : Module (Store CS Cons) μ} {c : Prop}

theorem ChangesIff.fails {f : Fault ContextError} (hc : ¬ c) : ChangesIff st c (.error f) s' :=
  iff_of_false (fun h => nomatch h.1) hc

theorem ChangesIff.changes (hne : s'.store ≠ st) (hc : c) : ChangesIff st c (.ok ()) s' :=
  iff_of_true ⟨rfl, hne⟩ hc

theorem ChangesIff.congr {c' : Prop} {r : Result ContextError Unit} (h : ChangesIff st c r s')
    (hc : c ↔ c') : ChangesIff st c' r s' := Iff.trans h hc

theorem ChangesIff.nothing (hst : s'.store = st) (hc : ¬ c) : ChangesIff st c (.ok ()) s' :=
  iff_of_false (fun h => h.2 hst) hc

/-! ### The connection handshake -/

theorem connOpenTry_changes {msg : MsgConnectionOpenTry} {connIdOnA : ConnectionId}
    {client : CS × Cons} (hv : msg.Valid H s connIdOnA client) :
    Ensures (connOpenTryExecute H msg) s
      (ChangesIff s.store (s.store.connection.connectionIdsCounter + 1 < UInt64.size)) := by
  obtain ⟨version, -, hvars⟩ := hv.vars
  refine ensures_read_bind (Ensures.ofExcept_ok_bind hvars ?_)
  refine Ensures.ofExcept_ok_bind (Result.okOr_eq_ok.mpr hv.counterparty) ?_
  refine ensures_write_bind (ensures_write_bind (ensures_write_bind ?_))
  simp only [increaseConnectionCounter, Exec.bind_assoc]
  refine ensures_read_bind (Ensures.addU64_cases (fun hover => .fails hover) fun hlt => ?_)
  refine .changes (fun heq => ?_) hlt
  have hcounter := congrArg (·.connection.connectionIdsCounter) heq
  exact absurd hcounter (Nat.succ_ne_self _)

/-- A message that stores an end in another state changes the store. -/
theorem store_ne_of_connection {st : Store CS Cons} {id : ConnectionId} {e e' : ConnectionEnd}
    (he : s.store.connection.connections id = some e) (hs : e'.state ≠ e.state) :
    { st with connection := st.connection.storeConnection id e' } ≠ s.store := by
  intro heq
  have hend := congrArg (·.connection.connections id) heq
  simp only [ConnectionStore.storeConnection, Function.update_self, he] at hend
  exact hs (congrArg ConnectionEnd.state (Option.some.inj hend))

theorem connOpenAck_changes {msg : MsgConnectionOpenAck} {e : ConnectionEnd} {client : CS × Cons}
    (hv : msg.Valid H s e client) :
    Ensures (connOpenAckExecute msg) s (ChangesIff s.store True) := by
  refine ensures_read_bind (Ensures.ofExcept_ok_bind (Result.okOr_eq_ok.mpr hv.connection) ?_)
  refine ensures_write_bind (ensures_write_bind (ensures_write_bind ?_))
  exact .changes (store_ne_of_connection hv.connection (by simp [ConnectionEnd.opened, hv.state]))
    trivial

theorem connOpenConfirm_changes {msg : MsgConnectionOpenConfirm} {e : ConnectionEnd}
    {connIdOnA : ConnectionId} {client : CS × Cons} (hv : msg.Valid H s e connIdOnA client) :
    Ensures (connOpenConfirmExecute msg) s (ChangesIff s.store True) := by
  refine ensures_read_bind (Ensures.ofExcept_ok_bind (Result.okOr_eq_ok.mpr hv.connection) ?_)
  refine Ensures.ofExcept_ok_bind (Result.okOr_eq_ok.mpr hv.counterparty) ?_
  refine ensures_write_bind (ensures_write_bind (ensures_write_bind ?_))
  exact .changes (store_ne_of_connection hv.connection (by simp [hv.state])) trivial

/-! ### The channel handshake -/

/-- The rule for a callback of the handshake that keeps the store. -/
theorem handshake_changes {α : Type} {f : Callback (Store CS Cons) μ (Except ChannelError α)}
    (hf : f.KeepsStore) {g : α → Handler CS Cons μ Unit}
    (hc : c → (f s.store s.app).1.isOk = true)
    (hg : ∀ a app, (f s.store s.app).1.isOk = true →
      Ensures (g a) { s with app := app } (ChangesIff s.store c)) :
    Ensures (runCallback f >>= fun answer =>
      ofResult (Result.ofExcept (.channelError ·) answer) >>= g) s (ChangesIff s.store c) := by
  refine ensures_runCallback hf fun answer app hcall => ?_
  rw [hcall] at hc hg
  cases answer with
  | error e => exact ChangesIff.fails fun h => Bool.noConfusion (hc h)
  | ok a => exact hg a app rfl

/-- A message that stores an end in another state changes the store. -/
theorem store_ne_of_channel {st : Store CS Cons} {key : ChannelKey} {e e' : ChannelEnd}
    (he : s.store.channel.channels key = some e) (hs : e'.state ≠ e.state) :
    { st with channel := st.channel.storeChannel key e' } ≠ s.store := by
  intro heq
  have hend := congrArg (·.channel.channels key) heq
  simp only [ChannelStore.storeChannel_channels, Function.update_self, he] at hend
  exact hs (congrArg ChannelEnd.state (Option.some.inj hend))

theorem hops_ne_nil {hops : List ConnectionId} {conn : ConnectionEnd}
    (h : s.store.connectionUnder hops = some conn) : hops ≠ [] := by
  rintro rfl
  cases h

section Module

variable (hm : channelRoute H moduleId = .ok m) (iso : m.Isolated)

include hm iso

theorem chanOpenTry_changes {msg : MsgChannelOpenTry} {conn : ConnectionEnd}
    {connIdOnA : ConnectionId} {client : CS × Cons} (hv : msg.Valid H s m conn connIdOnA client) :
    Ensures (chanOpenTryExecute H moduleId msg) s
      (ChangesIff s.store ((ChannelMsg.openTry msg).CallbackOk s m)) := by
  refine ensures_read_bind (Ensures.ofExcept_ok_bind hm ?_)
  refine handshake_changes (iso.openTry _ _ _ _ _ _) And.left fun agreed app hok => ?_
  refine Ensures.index_ne_nil_bind (hops_ne_nil hv.route.under) fun connId => ?_
  refine Ensures.ofExcept_ok_bind (ChannelEnd.new_eq_ok.mpr ⟨rfl, by simp, hv.ordering⟩) ?_
  simp only [openChannel, increaseChannelCounter, Exec.bind_assoc]
  refine ensures_write_bind (ensures_read_bind ?_)
  refine Ensures.addU64_cases (fun hover => ?_) fun hlt => ?_
  · exact .fails fun h => hover h.2
  · refine .changes (fun heq => ?_) ⟨hok, hlt⟩
    have hcounter := congrArg (·.channel.channelIdsCounter) heq
    exact absurd hcounter (Nat.succ_ne_self _)

theorem chanOpenAck_changes {msg : MsgChannelOpenAck} {e : ChannelEnd} {conn : ConnectionEnd}
    {connIdOnB : ConnectionId} {client : CS × Cons} (hv : msg.Valid H s m e conn connIdOnB client) :
    Ensures (chanOpenAckExecute H moduleId msg) s
      (ChangesIff s.store ((ChannelMsg.openAck msg).CallbackOk s m)) := by
  refine Ensures.ofExcept_ok_bind hm ?_
  refine handshake_changes (iso.openAck _ _ _) id fun extras app hok => ?_
  refine ensures_read_bind (Ensures.ofExcept_ok_bind (channelEnd_eq_ok.mpr hv.channel) ?_)
  refine ensures_write_bind (ensures_write_bind ?_)
  refine Ensures.index_ne_nil_bind (hops_ne_nil hv.route.under) fun connId => ?_
  exact .changes (store_ne_of_channel hv.channel (by simp [ChannelEnd.opened, hv.state])) hok

theorem chanOpenConfirm_changes {msg : MsgChannelOpenConfirm} {e : ChannelEnd}
    {conn : ConnectionEnd} {connIdOnA : ConnectionId} {chanIdOnA : ChannelId} {client : CS × Cons}
    (hv : msg.Valid H s m e conn connIdOnA chanIdOnA client) :
    Ensures (chanOpenConfirmExecute H moduleId msg) s
      (ChangesIff s.store ((ChannelMsg.openConfirm msg).CallbackOk s m)) := by
  refine Ensures.ofExcept_ok_bind hm ?_
  refine handshake_changes (iso.openConfirm _ _) id fun extras app hok => ?_
  refine ensures_read_bind (Ensures.ofExcept_ok_bind (channelEnd_eq_ok.mpr hv.channel) ?_)
  refine ensures_write_bind (ensures_write_bind ?_)
  refine Ensures.index_ne_nil_bind (hops_ne_nil hv.route.under) fun connId => ?_
  refine Ensures.ofExcept_ok_bind (Result.okOr_eq_ok.mpr hv.counterparty) ?_
  exact .changes (store_ne_of_channel hv.channel (by simp [hv.state])) hok

theorem chanCloseConfirm_changes {msg : MsgChannelCloseConfirm} {e : ChannelEnd}
    {conn : ConnectionEnd} {connIdOnA : ConnectionId} {chanIdOnA : ChannelId} {client : CS × Cons}
    (hv : msg.Valid H s m e conn connIdOnA chanIdOnA client) :
    Ensures (chanCloseConfirmExecute H moduleId msg) s
      (ChangesIff s.store ((ChannelMsg.closeConfirm msg).CallbackOk s m)) := by
  refine Ensures.ofExcept_ok_bind hm ?_
  refine handshake_changes (iso.closeConfirm _ _) id fun extras app hok => ?_
  refine ensures_read_bind (Ensures.ofExcept_ok_bind (channelEnd_eq_ok.mpr hv.channel) ?_)
  refine ensures_write_bind (ensures_write_bind ?_)
  refine Ensures.ofExcept_ok_bind (Result.okOr_eq_ok.mpr hv.counterparty) ?_
  refine Ensures.index_ne_nil_bind (hops_ne_nil hv.route.under) fun connId => ?_
  exact .changes (store_ne_of_channel hv.channel (Ne.symm hv.notClosed)) hok

end Module

/-! ### Packets -/

/-- Storing an acknowledgement where there was none changes the store. -/
theorem acknowledgement_ne {st : Store CS Cons} {key : PacketKey} {ack : AcknowledgementCommitment}
    (hnone : s.store.channel.packetAcknowledgement key = none)
    (hst : st.channel.packetAcknowledgement key = some ack) : st ≠ s.store := by
  rintro rfl
  cases hst.symm.trans hnone

theorem recvPacket_changes (iso : H.Isolated) {msg : MsgRecvPacket} {e : ChannelEnd}
    {conn : ConnectionEnd} {client : CS × Cons}
    (hl : H.lookupModuleByPort msg.packet.portIdOnB = some moduleId)
    (hv : msg.Valid H s e conn client) :
    Ensures (recvPacketExecute H moduleId msg) s (ChangesIff s.store
      ((∃ m, H.moduleOf msg.packet.portIdOnB = some m) ∧
        s.store.channel.FirstTime e.ordering msg.packet)) := by
  obtain ⟨already, hal, hfresh⟩ := hv.recvValid.alreadyReceived
  refine ensures_read_bind (Ensures.ofExcept_ok_bind (channelEnd_eq_ok.mpr hv.channel) ?_)
  refine Ensures.ofExcept_ok_bind hal (Ensures.ite (fun hyes => ?_) fun hnot => ?_)
  · -- The packet was relayed before, so there is nothing to do.
    refine .nothing rfl fun h => ?_
    cases hyes.symm.trans (hfresh.mpr ⟨fun ho => (h.2.ordered ho).1, h.2.unordered⟩)
  obtain ⟨hord, hunord⟩ := hfresh.mp (Bool.eq_false_of_not_eq_true hnot)
  refine Ensures.ofExcept_bind (fun _ hf => .fails ?_) fun m hm => ?_
  · rintro ⟨⟨m, hmod⟩, -⟩
    rw [Host.moduleOf, hl, Option.bind_some, (Result.okOr_eq_error.mp hf).1] at hmod
    cases hmod
  have hmod := moduleOf_eq hl hm
  refine ensures_runCallback ((iso _ m hmod).recvPacket _ _) fun answer app _ => ?_
  refine markReceived_ensures hord (fun _ ho hover => ?_) fun hlt => ?_
  · exact .fails fun h => hover (h.2.ordered ho).2
  refine Ensures.index_ne_nil_bind (hops_ne_nil hv.connection) fun connId => ?_
  have hnone := hv.recvValid.unacknowledged hord
  exact .changes (acknowledgement_ne hnone (Function.update_self _ _ _))
    ⟨⟨m, hmod⟩, hunord, fun ho => ⟨hord ho, hlt ho⟩⟩

/-- Deleting a commitment changes the store. -/
theorem commitment_ne {st : Store CS Cons} {key : PacketKey} {cm : PacketCommitment}
    (hcm : s.store.channel.packetCommitment key = some cm)
    (hst : st.channel.packetCommitment key = none) : st ≠ s.store := by
  rintro rfl
  cases hst.symm.trans hcm

/-- The rule for a packet callback that keeps the store. -/
theorem packetCallback_changes
    {f : Callback (Store CS Cons) μ (ModuleExtras × Except PacketError Unit)} (hf : f.KeepsStore)
    {record : ModuleExtras × Except PacketError Unit → Action}
    {g : ModuleExtras × Except PacketError Unit → Handler CS Cons μ Unit}
    (hc : c → (f s.store s.app).1.2 = .ok ())
    (hg : ∀ extras app, (f s.store s.app).1.2 = .ok () →
      Ensures (g (extras, .ok ())) ({ s with app := app }.record (record (extras, .ok ())))
        (ChangesIff st c)) :
    Ensures (do
      let answer ← runCallback f
      Exec.write (·.record (record answer))
      answer.2
      g answer) s (ChangesIff st c) := by
  refine ensures_runCallback hf fun answer app hcall => ?_
  obtain ⟨extras, r⟩ := answer
  rw [hcall] at hc hg
  refine ensures_write_bind ?_
  cases r with
  | error e => exact ChangesIff.fails fun h => nomatch hc h
  | ok u => exact hg extras app rfl

theorem acknowledgementPacket_changes (hm : channelRoute H moduleId = .ok m) (iso : m.Isolated)
    {msg : MsgAcknowledgement} {cm : PacketCommitment} {e : ChannelEnd} {conn : ConnectionEnd}
    {client : CS × Cons} (hcm : s.store.channel.packetCommitment msg.packet.keyOnA = some cm)
    (hv : msg.Valid H s m cm e conn client) :
    Ensures (acknowledgementPacketExecute H moduleId msg) s (ChangesIff s.store
      ((m.onAcknowledgementPacketExecute msg.packet msg.acknowledgement msg.signer s.store
          s.app).1.2 = .ok () ∧
        (e.ordering = .ordered → msg.packet.seqOnA + 1 < UInt64.size))) := by
  refine ensures_read_bind (Ensures.ofExcept_ok_bind (channelEnd_eq_ok.mpr hv.channel) ?_)
  refine Ensures.index_ne_nil_bind (hops_ne_nil hv.connection) fun connId => ?_
  refine ensures_write_bind (ensures_write_bind ?_)
  simp only [Ctx.getPacketCommitment, hcm, Result.okOr_some]
  refine Ensures.ofExcept_ok_bind hm ?_
  refine packetCallback_changes (iso.acknowledgePacket _ _ _) And.left fun extras app hok => ?_
  refine ensures_write_bind ?_
  rw [advanceNextSequenceAck]
  by_cases ho : e.ordering = .ordered
  · rw [if_pos ho, Exec.bind_assoc]
    refine Ensures.addU64_cases (fun hover => .fails fun h => hover (h.2 ho)) fun hlt => ?_
    exact .changes (commitment_ne hcm (Function.update_self _ _ _)) ⟨hok, fun _ => hlt⟩
  · rw [if_neg ho]
    exact .changes (commitment_ne hcm (Function.update_self _ _ _)) ⟨hok, fun h => absurd h ho⟩

theorem timeoutPacket_changes (hm : channelRoute H moduleId = .ok m) (iso : m.Isolated)
    {msg : TimeoutMsgType} {cm : PacketCommitment} {e : ChannelEnd} {conn : ConnectionEnd}
    (hcm : s.store.channel.packetCommitment msg.packet.keyOnA = some cm)
    (he : s.store.channel.channels msg.packet.chanOnA = some e)
    (hconn : s.store.connectionUnder e.connectionHops = some conn) :
    Ensures (timeoutPacketExecute H moduleId msg) s (ChangesIff s.store
      ((m.onTimeoutPacketExecute msg.packet msg.signer s.store s.app).1.2 = .ok ())) := by
  refine ensures_read_bind (Ensures.ofExcept_ok_bind (channelEnd_eq_ok.mpr he) ?_)
  refine ensures_write_bind (ensures_write_bind ?_)
  simp only [Ctx.getPacketCommitment, hcm, Result.okOr_some]
  refine Ensures.ofExcept_ok_bind hm ?_
  refine packetCallback_changes (iso.timeoutPacket _ _) id fun extras app hok => ?_
  refine ensures_write_bind ?_
  by_cases ho : e.ordering = .ordered
  · simp only [closeIfOrdered, emitChannelClosed, ho, if_true, Exec.bind_assoc]
    refine ensures_write_bind (ensures_write_bind ?_)
    refine Ensures.index_ne_nil_bind (hops_ne_nil hconn) fun connId => ?_
    exact .changes (commitment_ne hcm (Function.update_self _ _ _)) hok
  · simp only [closeIfOrdered, emitChannelClosed, ho, if_false]
    exact .changes (commitment_ne hcm (Function.update_self _ _ _)) hok

/-- An acknowledgement of a packet without commitment has nothing to do. -/
theorem acknowledgementPacket_stale {msg : MsgAcknowledgement}
    (hcm : s.store.channel.packetCommitment msg.packet.keyOnA = none) :
    Ensures (acknowledgementPacketExecute H moduleId msg) s (ChangesIff s.store False) := by
  refine ensures_read_bind (Ensures.ofExcept_bind (fun _ _ => .fails id) fun e _ => ?_)
  refine Ensures.index_zero_bind (.fails id) fun connId => ?_
  refine ensures_write_bind (ensures_write_bind ?_)
  simp only [Ctx.getPacketCommitment, hcm, Result.okOr_none]
  exact .nothing rfl id

/-- A timeout of a packet without commitment has nothing to do. -/
theorem timeoutPacket_stale {msg : TimeoutMsgType}
    (hcm : s.store.channel.packetCommitment msg.packet.keyOnA = none) :
    Ensures (timeoutPacketExecute H moduleId msg) s (ChangesIff s.store False) := by
  refine ensures_read_bind (Ensures.ofExcept_bind (fun _ _ => .fails id) fun e _ => ?_)
  refine ensures_write_bind (ensures_write_bind ?_)
  simp only [Ctx.getPacketCommitment, hcm, Result.okOr_none]
  exact .nothing rfl id

/-! ### Sending -/

/-- **The packets that are sent.** -/
theorem sendPacket_ok_iff {p : Packet} :
    (∃ s', sendPacket H p s = (.ok (), s')) ↔ p.MaySend H s := by
  have hsend : Ensures (sendPacket H p) s fun r _ => r = .ok () ↔ p.MaySend H s := by
    refine ensures_read_bind (Ensures.ofResult_bind (fun f hf => ?_) fun _ hv => ?_)
    · refine iff_of_false (fun h => nomatch h) fun h => ?_
      cases hf.symm.trans (sendPacketValidate_eq_ok.mpr h.1)
    obtain ⟨e, conn, client, hv⟩ := sendPacketValidate_eq_ok.mp hv
    refine ensures_read_bind (Ensures.ofExcept_ok_bind (Result.okOr_eq_ok.mpr hv.next) ?_)
    refine Ensures.addU64_cases (fun hover => ?_) fun hlt => ?_
    · exact iff_of_false (fun h => nomatch h) fun h => hover h.2.1
    refine ensures_write_bind (Ensures.ofResult_bind (fun f hf => ?_) fun cm hcm => ?_)
    · refine iff_of_false (fun h => nomatch h) fun ⟨_, _, cm, hcm⟩ => ?_
      cases hf.symm.trans hcm
    refine ensures_write_bind (ensures_write_bind (ensures_read_bind ?_))
    refine Ensures.ofExcept_ok_bind (channelEnd_eq_ok.mpr hv.channel) ?_
    refine Ensures.index_ne_nil_bind (hops_ne_nil hv.connection) fun connId => ?_
    exact iff_of_true rfl ⟨⟨e, conn, client, hv⟩, hlt, cm, hcm⟩
  constructor
  · rintro ⟨s', hok⟩
    rw [Ensures, hok] at hsend
    exact hsend.mp rfl
  · intro h
    exact ⟨_, Prod.ext (hsend.mpr h) rfl⟩

/-! ### Every message -/

theorem connection_changes {msg : ConnectionMsg}
    (hproof : (MsgEnvelope.connection msg).verifiesProof = true)
    (hv : msg.validate H s = .ok ()) :
    Ensures (msg.execute H) s (ChangesIff s.store (msg.Effective H s)) := by
  cases msg with
  | openInit msg => cases hproof
  | openTry msg =>
    obtain ⟨connIdOnA, client, hvalid⟩ := connOpenTryValidate_eq_ok.mp hv
    exact (connOpenTry_changes hvalid).mono fun _ _ h =>
      h.congr ⟨fun hlt => ⟨⟨connIdOnA, client, hvalid⟩, hlt⟩, And.right⟩
  | openAck msg =>
    obtain ⟨e, client, hvalid⟩ := connOpenAckValidate_eq_ok.mp hv
    exact (connOpenAck_changes hvalid).mono fun _ _ h =>
      h.congr (iff_of_true trivial ⟨e, client, hvalid⟩)
  | openConfirm msg =>
    obtain ⟨e, connIdOnA, client, hvalid⟩ := connOpenConfirmValidate_eq_ok.mp hv
    exact (connOpenConfirm_changes hvalid).mono fun _ _ h =>
      h.congr (iff_of_true trivial ⟨e, connIdOnA, client, hvalid⟩)

theorem channel_changes (iso : H.Isolated) {msg : ChannelMsg}
    (hproof : (MsgEnvelope.channel msg).verifiesProof = true)
    (hl : H.lookupModuleByPort msg.localPort = some moduleId)
    (hv : msg.validate H s moduleId = .ok ()) :
    Ensures (msg.execute H moduleId) s
      (ChangesIff s.store ((MsgEnvelope.channel msg).Effective H s)) := by
  obtain ⟨m, hm, hvalid⟩ := msg.valid_of_validate hv
  have hmod := moduleOf_eq hl hm
  have hiff : msg.CallbackOk s m ↔ (MsgEnvelope.channel msg).Effective H s := by
    refine ⟨fun h => ⟨m, hmod, hvalid, h⟩, fun ⟨m', hmod', _, h⟩ => ?_⟩
    obtain rfl : m = m' := Option.some.inj (hmod.symm.trans hmod')
    exact h
  have hchanges : Ensures (msg.execute H moduleId) s (ChangesIff s.store (msg.CallbackOk s m)) := by
    cases msg with
    | openInit msg => cases hproof
    | closeInit msg => cases hproof
    | openTry msg =>
      obtain ⟨conn, connIdOnA, client, hvalid⟩ := hvalid
      exact chanOpenTry_changes hm (iso _ m hmod) hvalid
    | openAck msg =>
      obtain ⟨e, conn, connIdOnB, client, hvalid⟩ := hvalid
      exact chanOpenAck_changes hm (iso _ m hmod) hvalid
    | openConfirm msg =>
      obtain ⟨e, conn, connIdOnA, chanIdOnA, client, hvalid⟩ := hvalid
      exact chanOpenConfirm_changes hm (iso _ m hmod) hvalid
    | closeConfirm msg =>
      obtain ⟨e, conn, connIdOnA, chanIdOnA, client, hvalid⟩ := hvalid
      exact chanCloseConfirm_changes hm (iso _ m hmod) hvalid
  exact hchanges.mono fun _ _ h => h.congr hiff

theorem recv_changes (iso : H.Isolated) {msg : MsgRecvPacket}
    (hl : H.lookupModuleByPort msg.packet.portIdOnB = some moduleId)
    (hv : recvPacketValidate H s msg = .ok ()) :
    Ensures (recvPacketExecute H moduleId msg) s
      (ChangesIff s.store ((MsgEnvelope.packet (.recv msg)).Effective H s)) := by
  obtain ⟨e, conn, client, hvalid⟩ := recvPacketValidate_eq_ok.mp hv
  refine (recvPacket_changes iso hl hvalid).mono fun _ _ h => h.congr ⟨?_, ?_⟩
  · rintro ⟨⟨m, hmod⟩, hfirst⟩
    exact ⟨m, hmod, e, conn, client, hvalid, hfirst⟩
  · rintro ⟨m, hmod, e', _, _, hvalid', hfirst⟩
    obtain rfl : e = e' := Option.some.inj (hvalid.channel.symm.trans hvalid'.channel)
    exact ⟨⟨m, hmod⟩, hfirst⟩

theorem ack_changes (iso : H.Isolated) {msg : MsgAcknowledgement}
    (hl : H.lookupModuleByPort msg.packet.portIdOnA = some moduleId)
    (hv : acknowledgementPacketValidate H s moduleId msg = .ok ()) :
    Ensures (acknowledgementPacketExecute H moduleId msg) s
      (ChangesIff s.store ((MsgEnvelope.packet (.ack msg)).Effective H s)) := by
  obtain ⟨m, hm⟩ := acknowledgement_route hv
  have hmod := moduleOf_eq hl hm
  cases hcm : s.store.channel.packetCommitment msg.packet.keyOnA with
  | none =>
    refine (acknowledgementPacket_stale hcm).mono fun _ _ h => h.congr (iff_of_false id ?_)
    rintro ⟨_, _, cm, _, _, _, hcm', _⟩
    cases hcm.symm.trans hcm'
  | some cm =>
    obtain ⟨e, conn, client, hvalid⟩ := (acknowledgementPacketValidate_eq_ok hm hcm).mp hv
    refine (acknowledgementPacket_changes hm (iso _ m hmod) hcm hvalid).mono fun _ _ h =>
      h.congr ⟨fun h => ⟨m, hmod, cm, e, conn, client, hcm, hvalid, h⟩, ?_⟩
    rintro ⟨m', hmod', _, e', _, _, _, hvalid', h⟩
    obtain rfl : m = m' := Option.some.inj (hmod.symm.trans hmod')
    obtain rfl : e = e' := Option.some.inj (hvalid.channel.symm.trans hvalid'.channel)
    exact h

theorem timeout_changes (iso : H.Isolated) {msg : MsgTimeout}
    (hl : H.lookupModuleByPort msg.packet.portIdOnA = some moduleId)
    (hv : timeoutPacketValidate H s moduleId (.timeout msg) = .ok ()) :
    Ensures (timeoutPacketExecute H moduleId (.timeout msg)) s
      (ChangesIff s.store ((MsgEnvelope.packet (.timeout msg)).Effective H s)) := by
  obtain ⟨m, hm⟩ := timeout_route hv
  have hmod := moduleOf_eq hl hm
  cases hcm : s.store.channel.packetCommitment msg.packet.keyOnA with
  | none =>
    have hstale : Ensures (timeoutPacketExecute H moduleId (.timeout msg)) s
        (ChangesIff s.store False) := timeoutPacket_stale hcm
    refine hstale.mono fun _ _ h => h.congr (iff_of_false id ?_)
    rintro ⟨_, _, cm, _, _, _, hcm', _⟩
    cases hcm.symm.trans hcm'
  | some cm =>
    obtain ⟨e, conn, client, hvalid⟩ := (timeoutPacketValidate_eq_ok hm hcm).mp hv
    have hchanges : Ensures (timeoutPacketExecute H moduleId (.timeout msg)) s _ :=
      timeoutPacket_changes hm (iso _ m hmod) hcm hvalid.channel hvalid.connection
    refine hchanges.mono fun _ _ h =>
      h.congr ⟨fun h => ⟨m, hmod, cm, e, conn, client, hcm, hvalid, h⟩, ?_⟩
    rintro ⟨m', hmod', _, _, _, _, _, _, h⟩
    obtain rfl : m = m' := Option.some.inj (hmod.symm.trans hmod')
    exact h

theorem timeoutOnClose_changes (iso : H.Isolated) {msg : MsgTimeoutOnClose}
    (hl : H.lookupModuleByPort msg.packet.portIdOnA = some moduleId)
    (hv : timeoutPacketValidate H s moduleId (.timeoutOnClose msg) = .ok ()) :
    Ensures (timeoutPacketExecute H moduleId (.timeoutOnClose msg)) s
      (ChangesIff s.store ((MsgEnvelope.packet (.timeoutOnClose msg)).Effective H s)) := by
  obtain ⟨m, hm⟩ := timeout_route hv
  have hmod := moduleOf_eq hl hm
  cases hcm : s.store.channel.packetCommitment msg.packet.keyOnA with
  | none =>
    have hstale : Ensures (timeoutPacketExecute H moduleId (.timeoutOnClose msg)) s
        (ChangesIff s.store False) := timeoutPacket_stale hcm
    refine hstale.mono fun _ _ h => h.congr (iff_of_false id ?_)
    rintro ⟨_, _, cm, _, _, _, _, hcm', _⟩
    cases hcm.symm.trans hcm'
  | some cm =>
    obtain ⟨e, conn, connIdOnB, client, hvalid⟩ :=
      (timeoutOnClosePacketValidate_eq_ok hm hcm).mp hv
    have hchanges : Ensures (timeoutPacketExecute H moduleId (.timeoutOnClose msg)) s _ :=
      timeoutPacket_changes hm (iso _ m hmod) hcm hvalid.channel hvalid.connection
    refine hchanges.mono fun _ _ h =>
      h.congr ⟨fun h => ⟨m, hmod, cm, e, conn, connIdOnB, client, hcm, hvalid, h⟩, ?_⟩
    rintro ⟨m', hmod', _, _, _, _, _, _, _, h⟩
    obtain rfl : m = m' := Option.some.inj (hmod.symm.trans hmod')
    exact h

/-- A message that takes effect is valid. -/
theorem MsgEnvelope.Effective.valid {msg : MsgEnvelope} (h : msg.Effective H s) :
    validate H s msg = .ok () := by
  cases msg with
  | client msg => exact h.elim
  | connection msg =>
    cases msg with
    | openInit msg => exact h.elim
    | openTry msg => exact connOpenTryValidate_eq_ok.mpr h.1
    | openAck msg => exact connOpenAckValidate_eq_ok.mpr h
    | openConfirm msg => exact connOpenConfirmValidate_eq_ok.mpr h
  | channel msg =>
    obtain ⟨m, hmod, hvalid, -⟩ := h
    exact validate_channel_eq_ok.mpr ⟨m, hmod, hvalid⟩
  | packet msg =>
    obtain ⟨m, hmod, h⟩ := h
    obtain ⟨id, hl, hroute⟩ := Option.bind_eq_some_iff.mp hmod
    have hm : channelRoute H id = .ok m := Result.okOr_eq_ok.mpr hroute
    refine Result.bind_eq_ok.mpr ⟨id, lift_channel_eq_ok.mpr (lookupModule_eq_ok.mpr hl), ?_⟩
    cases msg with
    | recv msg =>
      obtain ⟨e, conn, client, hvalid, -⟩ := h
      exact recvPacketValidate_eq_ok.mpr ⟨e, conn, client, hvalid⟩
    | ack msg =>
      obtain ⟨cm, e, conn, client, hcm, hvalid, -⟩ := h
      exact (acknowledgementPacketValidate_eq_ok hm hcm).mpr ⟨e, conn, client, hvalid⟩
    | timeout msg =>
      obtain ⟨cm, e, conn, client, hcm, hvalid, -⟩ := h
      exact (timeoutPacketValidate_eq_ok hm hcm).mpr ⟨e, conn, client, hvalid⟩
    | timeoutOnClose msg =>
      obtain ⟨cm, e, conn, connIdOnB, client, hcm, hvalid, -⟩ := h
      exact (timeoutOnClosePacketValidate_eq_ok hm hcm).mpr ⟨e, conn, connIdOnB, client, hvalid⟩

theorem execute_changes (iso : H.Isolated) {msg : MsgEnvelope}
    (hproof : msg.verifiesProof = true) (hv : validate H s msg = .ok ()) :
    Ensures (execute H msg) s (ChangesIff s.store (msg.Effective H s)) := by
  cases msg with
  | client msg => cases hproof
  | connection msg => exact connection_changes hproof hv
  | channel msg =>
    exact lookupModule_ensures hv fun _ hl hv => channel_changes iso hproof hl hv
  | packet msg =>
    refine lookupModule_ensures hv fun _ hl hv => ?_
    cases msg with
    | recv msg => exact recv_changes iso hl hv
    | ack msg => exact ack_changes iso hl hv
    | timeout msg => exact timeout_changes iso hl hv
    | timeoutOnClose msg => exact timeoutOnClose_changes iso hl hv

/-- **The messages with a proof that take effect.** -/
theorem dispatch_changes_iff (iso : H.Isolated) {msg : MsgEnvelope}
    (hproof : msg.verifiesProof = true) :
    (∃ s', dispatch H msg s = (.ok (), s') ∧ s'.store ≠ s.store) ↔ msg.Effective H s := by
  have hdispatch : Ensures (dispatch H msg) s (ChangesIff s.store (msg.Effective H s)) := by
    refine ensures_read_bind (Ensures.ofResult_bind (fun f hf => ?_) fun _ hv => ?_)
    · exact .fails fun h => nomatch hf.symm.trans h.valid
    · exact execute_changes iso hproof hv
  constructor
  · rintro ⟨s', hok, hne⟩
    rw [Ensures, hok] at hdispatch
    exact hdispatch.mp ⟨rfl, hne⟩
  · intro h
    obtain ⟨hok, hne⟩ := hdispatch.mpr h
    exact ⟨_, Prod.ext hok rfl, hne⟩

end Handlers

end Ibc
