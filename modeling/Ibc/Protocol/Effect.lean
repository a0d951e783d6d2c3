import Ibc.Protocol.Evidence

/-!
# What a step can do

`Effect` lists what a step can do to channels, packets and the modules' state, each case with what
was validated before: nothing, a new channel end, a move of the handshake, a packet sent, received,
acknowledged or timed out. **`Step.effect`** says the list is complete. Invariants are proved by
cases on it, and never look at a handler again.
-/

namespace Ibc

variable {CS Cons μ : Type}

/-! ### The channel of an input -/

/-- The channel end of this chain that a message names, or the one it creates. -/
def ChannelMsg.localChannel (s : Ctx CS Cons μ) : ChannelMsg → ChannelKey
  | .openInit msg => (msg.portIdOnA, .new s.store.channel.channelIdsCounter)
  | .openTry msg => (msg.portIdOnB, .new s.store.channel.channelIdsCounter)
  | .openAck msg => (msg.portIdOnA, msg.chanIdOnA)
  | .openConfirm msg => (msg.portIdOnB, msg.chanIdOnB)
  | .closeInit msg => (msg.portIdOnA, msg.chanIdOnA)
  | .closeConfirm msg => (msg.portIdOnB, msg.chanIdOnB)

/-- The channel end of this chain that a packet is for. -/
def PacketMsg.localChannel : PacketMsg → ChannelKey
  | .recv msg => msg.packet.chanOnB
  | .ack msg => msg.packet.chanOnA
  | .timeout msg => msg.packet.chanOnA
  | .timeoutOnClose msg => msg.packet.chanOnA

def Input.localChannel (s : Ctx CS Cons μ) : Input Cons μ → Option ChannelKey
  | .dispatch (.channel msg) => some (msg.localChannel s)
  | .dispatch (.packet msg) => some msg.localChannel
  | .sendPacket p => some p.chanOnA
  | _ => none

/-! ### Effects on the channel store -/

namespace ChannelStore

/-- A new channel end, its three sequences at one and the counter moved on. -/
def openAt (key : ChannelKey) (e : ChannelEnd) (c : ChannelStore) : ChannelStore :=
  { c with
    channels := Function.update c.channels key (some e)
    nextSequenceSend := Function.update c.nextSequenceSend key (some 1)
    nextSequenceRecv := Function.update c.nextSequenceRecv key (some 1)
    nextSequenceAck := Function.update c.nextSequenceAck key (some 1)
    channelIdsCounter := c.channelIdsCounter + 1 }

/-- The next sequence to send moves past the packet, and the packet's commitment is kept. -/
def sent (p : Packet) (cm : PacketCommitment) (c : ChannelStore) : ChannelStore :=
  (c.storeNextSequenceSend p.chanOnA (p.seqOnA + 1)).storePacketCommitment p.keyOnA cm

/-- The packet is marked as received and its acknowledgement kept. -/
def received (ordering : Order) (p : Packet) (ack : AcknowledgementCommitment)
    (c : ChannelStore) : ChannelStore :=
  (match ordering with
    | .unordered => c.storePacketReceipt p.keyOnB .ok
    | .ordered => c.storeNextSequenceRecv p.chanOnB (p.seqOnA + 1)
    | .none => c).storePacketAcknowledgement p.keyOnB ack

/-- The packet's commitment is gone; on an ordered channel the next acknowledgement is the one
after it. -/
def acknowledged (ordering : Order) (p : Packet) (c : ChannelStore) : ChannelStore :=
  if ordering = .ordered then
    (c.deletePacketCommitment p.keyOnA).storeNextSequenceAck p.chanOnA (p.seqOnA + 1)
  else c.deletePacketCommitment p.keyOnA

/-- The packet's commitment is gone; an ordered channel is closed. -/
def timedOut (e : ChannelEnd) (p : Packet) (c : ChannelStore) : ChannelStore :=
  if e.ordering = .ordered then
    (c.deletePacketCommitment p.keyOnA).storeChannel p.chanOnA { e with state := .closed }
  else c.deletePacketCommitment p.keyOnA

end ChannelStore

/-- A channel end as it is first stored. -/
structure ChannelEnd.IsNew (e : ChannelEnd) : Prop where
  state : e.state = .init ∧ e.remote.channelId = none ∨ e.state = .tryOpen
  ordering : e.ordering ≠ .none

/-- A move of a stored channel end. -/
inductive Moves (H : Host CS Cons μ) (st : Store CS Cons) (key : ChannelKey) (e : ChannelEnd) :
    ChannelEnd → Prop where
  | ack {h : Height} {cons : Cons} {chanIdOnB : ChannelId} {hops : List ConnectionId}
      {version : ChannelVersion} (hs : e.state = .init)
      (hv : ShownChannel H st e.connectionHops h cons (e.remote.portId, chanIdOnB)
        ⟨.tryOpen, e.ordering, ⟨key.1, some key.2⟩, hops, version⟩) :
      Moves H st key e (e.opened version chanIdOnB)
  | confirm {h : Height} {cons : Cons} {chanIdOnA : ChannelId} {hops : List ConnectionId}
      (hs : e.state = .tryOpen) (hr : e.remote.channelId = some chanIdOnA)
      (hv : ShownChannel H st e.connectionHops h cons (e.remote.portId, chanIdOnA)
        ⟨.open, e.ordering, ⟨key.1, some key.2⟩, hops, e.version⟩) :
      Moves H st key e { e with state := .open }
  | close (hs : e.state ≠ .closed) : Moves H st key e { e with state := .closed }

/-- What a step does. A packet callback that fails (`ok = false`) leaves the store alone. -/
inductive Effect (H : Host CS Cons μ) (i : Input Cons μ) (s s' : Ctx CS Cons μ) : Prop where
  | quiet (hc : s'.store.channel = s.store.channel) (hh : s'.history = s.history)
      (ha : AppFrame H s s')
  | application (hc : s'.store.channel = s.store.channel) (hh : s'.history = s.history)
      (hi : i = .application s'.app)
  | opens (port : PortId) (e : ChannelEnd) (hn : e.IsNew)
      (hc : s'.store.channel =
        s.store.channel.openAt (port, .new s.store.channel.channelIdsCounter) e)
      (hh : s'.history = s.history) (ha : AppFrame H s s')
      (hk : i.localChannel s = some (port, .new s.store.channel.channelIdsCounter))
      (hp : i.packet = none)
  | moves (key : ChannelKey) (e e' : ChannelEnd) (he : s.store.channel.channels key = some e)
      (hm : Moves H s.store key e e')
      (hc : s'.store.channel = s.store.channel.storeChannel key e')
      (hh : s'.history = s.history) (ha : AppFrame H s s') (hk : i.localChannel s = some key)
  | sends (p : Packet) (e : ChannelEnd) (cm : PacketCommitment) (hi : i = .sendPacket p)
      (hv : SendValid s p e) (hcm : p.CommitsTo H.library cm)
      (hc : s'.store.channel = s.store.channel.sent p cm)
      (hh : s'.history = s.history ++ [.sendPacket p]) (ha : s'.app = s.app)
  | receives (p : Packet) (ack : Acknowledgement) (e : ChannelEnd)
      (m : Module (Store CS Cons) μ) (extras : ModuleExtras) (signer : Signer)
      (hp : i.packet = some p) (hv : RecvValid H s p e)
      (ordered : e.ordering = .ordered →
        s.store.channel.nextSequenceRecv p.chanOnB = some p.seqOnA)
      (unordered : e.ordering = .unordered → s.store.channel.packetReceipt p.keyOnB = none)
      (hc : s'.store.channel =
        s.store.channel.received e.ordering p (computeAckCommitment H.library ack))
      (hh : s'.history = s.history ++ [.recvPacket p ack])
      (hm : H.moduleOf p.portIdOnB = some m)
      (ha : m.onRecvPacketExecute p signer s.store s.app = ((extras, ack), s.store, s'.app))
      (hk : i.localChannel s = some p.chanOnB)
  | acknowledges (p : Packet) (ack : Acknowledgement) (e : ChannelEnd) (cm : PacketCommitment)
      (r : Except PacketError Unit) (m : Module (Store CS Cons) μ) (extras : ModuleExtras)
      (signer : Signer) (hp : i.packet = some p)
      (he : s.store.channel.channels p.chanOnA = some e) (hs : e.state = .open)
      (hr : e.remote = ⟨p.portIdOnB, some p.chanIdOnB⟩)
      (hcm : s.store.channel.packetCommitment p.keyOnA = some cm)
      (hv : AckValid H s.store p ack e cm)
      (hc : s'.store.channel =
        if r.isOk then s.store.channel.acknowledged e.ordering p else s.store.channel)
      (hh : s'.history = s.history ++ [.acknowledgePacket p ack r.isOk])
      (hm : H.moduleOf p.portIdOnA = some m)
      (ha : m.onAcknowledgementPacketExecute p ack signer s.store s.app =
        ((extras, r), s.store, s'.app))
      (hk : i.localChannel s = some p.chanOnA)
  | timesOut (p : Packet) (e : ChannelEnd) (cm : PacketCommitment)
      (r : Except PacketError Unit) (m : Module (Store CS Cons) μ) (extras : ModuleExtras)
      (signer : Signer) (hp : i.packet = some p)
      (he : s.store.channel.channels p.chanOnA = some e)
      (hr : e.remote = ⟨p.portIdOnB, some p.chanIdOnB⟩)
      (hcm : s.store.channel.packetCommitment p.keyOnA = some cm)
      (hv : TimeoutValid H s.store p e cm)
      (hc : s'.store.channel =
        if r.isOk then s.store.channel.timedOut e p else s.store.channel)
      (hh : s'.history = s.history ++ [.timeoutPacket p r.isOk])
      (hm : H.moduleOf p.portIdOnA = some m)
      (ha : m.onTimeoutPacketExecute p signer s.store s.app = ((extras, r), s.store, s'.app))
      (hk : i.localChannel s = some p.chanOnA)

/-- What no effect touches: the host's own chain, and the clients unless the message is for one. -/
structure HostFrame (i : Input Cons μ) (s s' : Ctx CS Cons μ) : Prop where
  env : s'.env = s.env
  client : i.isClient = false → s'.store.client = s.store.client

/-- What a call on the core leaves: the frame, and one of the effects. The state left by a panic is
no concern. -/
def EndsIn (H : Host CS Cons μ) (i : Input Cons μ) (s : Ctx CS Cons μ)
    (r : Result ContextError Unit) (s' : Ctx CS Cons μ) : Prop :=
  r.Returns → HostFrame i s s' ∧ Effect H i s s'

section Handlers

open Exec

variable {H : Host CS Cons μ} {i : Input Cons μ} {s : Ctx CS Cons μ} {moduleId : ModuleId}
  {r : Result ContextError Unit}

/-- A call that writes neither. -/
theorem HostFrame.of_eq {s' : Ctx CS Cons μ} (henv : s'.env = s.env)
    (hclient : s'.store.client = s.store.client) : HostFrame i s s' :=
  ⟨henv, fun _ => hclient⟩

/-- A call that ends where it began has no effect. -/
theorem EndsIn.refl : EndsIn H i s r s := fun _ => ⟨.of_eq rfl rfl, .quiet rfl rfl (.inl rfl)⟩

/-- A call that ends after a handshake callback, with nothing written. -/
theorem EndsIn.callback {app : μ} {port : PortId} {m : Module (Store CS Cons) μ}
    (hm : H.moduleOf port = some m) (hcall : HandshakeCall m s.store s.app app) :
    EndsIn H i s r { s with app := app } :=
  fun _ => ⟨.of_eq rfl rfl, .quiet rfl rfl (.inr ⟨port, m, hm, hcall⟩)⟩

theorem EndsIn.panic {s' : Ctx CS Cons μ} {c : Panic} : EndsIn H i s (.error (.panic c)) s' :=
  fun h => absurd h Result.not_returns_panic

/-! ### The channel handshake -/

theorem openChannel_ensures {key : ChannelKey} {e : ChannelEnd} {f : Unit → Handler CS Cons μ Unit}
    {Q : Result ContextError Unit → Ctx CS Cons μ → Prop}
    (hp : ∀ s', Q (.error (.panic .overflow)) s')
    (hQ : Ensures (f ()) (s.onChannel (·.openAt key e)) Q) :
    Ensures (openChannel key e >>= f) s Q := by
  simp only [openChannel, increaseChannelCounter, Exec.bind_assoc]
  exact Ensures.addU64_bind (hp _) fun _ => hQ

theorem chanOpenInit_effect (iso : H.Isolated) {msg : MsgChannelOpenInit}
    (hl : H.lookupModuleByPort msg.portIdOnA = some moduleId)
    (hk : i.localChannel s = some ((ChannelMsg.openInit msg).localChannel s))
    (hp : i.packet = none) :
    Ensures (chanOpenInitExecute H moduleId msg) s (EndsIn H i s) := by
  refine Ensures.ofExcept_bind (fun _ _ => .refl) fun m hm => ?_
  have hmod := moduleOf_eq hl hm
  refine ensures_runCallback ((iso _ _ hmod).openInit _ _ _ _ _ _) fun answer app hcb => ?_
  have hcall : HandshakeCall m s.store s.app app := .openInit _ _ _ _ _ _ (by rw [hcb])
  refine Ensures.ofExcept_bind (fun _ _ => .callback hmod hcall) fun agreed _ => ?_
  obtain ⟨extras, version⟩ := agreed
  refine Ensures.index_zero_bind .panic fun connId => ?_
  refine Ensures.ofExcept_bind (fun _ _ => .callback hmod hcall) fun e he => ?_
  refine openChannel_ensures (fun _ => .panic) ?_
  intro _
  obtain ⟨rfl, -, ho⟩ := ChannelEnd.new_eq_ok.mp he
  exact ⟨.of_eq rfl rfl,
    .opens msg.portIdOnA _ ⟨.inl ⟨rfl, rfl⟩, ho⟩ rfl rfl (.inr ⟨_, m, hmod, hcall⟩) hk hp⟩

theorem chanOpenTry_effect (iso : H.Isolated) {msg : MsgChannelOpenTry}
    (hl : H.lookupModuleByPort msg.portIdOnB = some moduleId)
    (hk : i.localChannel s = some ((ChannelMsg.openTry msg).localChannel s))
    (hp : i.packet = none) :
    Ensures (chanOpenTryExecute H moduleId msg) s (EndsIn H i s) := by
  refine Ensures.ofExcept_bind (fun _ _ => .refl) fun m hm => ?_
  have hmod := moduleOf_eq hl hm
  refine ensures_runCallback ((iso _ _ hmod).openTry _ _ _ _ _ _) fun answer app hcb => ?_
  have hcall : HandshakeCall m s.store s.app app := .openTry _ _ _ _ _ _ (by rw [hcb])
  refine Ensures.ofExcept_bind (fun _ _ => .callback hmod hcall) fun agreed _ => ?_
  obtain ⟨extras, version⟩ := agreed
  refine Ensures.index_zero_bind .panic fun connId => ?_
  refine Ensures.ofExcept_bind (fun _ _ => .callback hmod hcall) fun e he => ?_
  refine openChannel_ensures (fun _ => .panic) ?_
  intro _
  obtain ⟨rfl, -, ho⟩ := ChannelEnd.new_eq_ok.mp he
  exact ⟨.of_eq rfl rfl,
    .opens msg.portIdOnB _ ⟨.inr rfl, ho⟩ rfl rfl (.inr ⟨_, m, hmod, hcall⟩) hk hp⟩

theorem chanOpenAck_effect (iso : H.Isolated) {msg : MsgChannelOpenAck}
    (hl : H.lookupModuleByPort msg.portIdOnA = some moduleId)
    (hv : chanOpenAckValidate H s moduleId msg = .ok ())
    (hk : i.localChannel s = some ((ChannelMsg.openAck msg).localChannel s)) :
    Ensures (chanOpenAckExecute H moduleId msg) s (EndsIn H i s) := by
  obtain ⟨m, hm, e, conn, connIdOnB, client, hv⟩ := (ChannelMsg.openAck msg).valid_of_validate hv
  refine Ensures.ofExcept_ok_bind hm ?_
  have hmod := moduleOf_eq hl hm
  refine ensures_runCallback ((iso _ _ hmod).openAck _ _ _) fun answer app hcb => ?_
  have hcall : HandshakeCall m s.store s.app app := .openAck _ _ _ (by rw [hcb])
  refine Ensures.ofExcept_bind (fun _ _ => .callback hmod hcall) fun extras _ => ?_
  refine Ensures.ofExcept_ok_bind (channelEnd_eq_ok.mpr hv.channel) ?_
  refine Ensures.index_zero_bind .panic fun connId => ?_
  intro _
  exact ⟨.of_eq rfl rfl, .moves _ e _ hv.channel
    (.ack hv.state (hv.usable.shown hv.route.under hv.chanEnd)) rfl rfl
    (.inr ⟨_, m, hmod, hcall⟩) hk⟩

theorem chanOpenConfirm_effect (iso : H.Isolated) {msg : MsgChannelOpenConfirm}
    (hl : H.lookupModuleByPort msg.portIdOnB = some moduleId)
    (hv : chanOpenConfirmValidate H s moduleId msg = .ok ())
    (hk : i.localChannel s = some ((ChannelMsg.openConfirm msg).localChannel s)) :
    Ensures (chanOpenConfirmExecute H moduleId msg) s (EndsIn H i s) := by
  obtain ⟨m, hm, e, conn, connIdOnA, chanIdOnA, client, hv⟩ :=
    (ChannelMsg.openConfirm msg).valid_of_validate hv
  refine Ensures.ofExcept_ok_bind hm ?_
  have hmod := moduleOf_eq hl hm
  refine ensures_runCallback ((iso _ _ hmod).openConfirm _ _) fun answer app hcb => ?_
  have hcall : HandshakeCall m s.store s.app app := .openConfirm _ _ (by rw [hcb])
  refine Ensures.ofExcept_bind (fun _ _ => .callback hmod hcall) fun extras _ => ?_
  refine Ensures.ofExcept_ok_bind (channelEnd_eq_ok.mpr hv.channel) ?_
  have hshown := hv.usable.shown hv.route.under hv.chanEnd
  refine Ensures.index_zero_bind .panic fun connId => ?_
  refine Ensures.ofExcept_bind (fun _ _ _ => ?_) fun chanId _ _ => ?_
  all_goals exact ⟨.of_eq rfl rfl, .moves _ e _ hv.channel
    (.confirm hv.state hv.counterparty hshown) rfl rfl (.inr ⟨_, m, hmod, hcall⟩) hk⟩

/-- Both close handlers. Without a counterparty channel id they fail, with the end closed. -/
theorem chanClose_effect {key : ChannelKey} {log : String} {e : ChannelEnd}
    {callback : Module (Store CS Cons) μ →
      Callback (Store CS Cons) μ (Except ChannelError ModuleExtras)}
    {event : PortId → ChannelId → ConnectionId → IbcEvent}
    (hl : H.lookupModuleByPort key.1 = some moduleId)
    (hkeep : ∀ m, H.moduleOf key.1 = some m → (callback m).KeepsStore)
    (hcall : ∀ m app, (callback m s.store s.app).2.2 = app → HandshakeCall m s.store s.app app)
    (he : s.store.channel.channels key = some e) (hs : e.state ≠ .closed)
    (hk : i.localChannel s = some key) :
    Ensures (chanCloseExecute H moduleId key callback log event) s (EndsIn H i s) := by
  refine Ensures.ofExcept_bind (fun _ _ => .refl) fun m hm => ?_
  have hmod := moduleOf_eq hl hm
  refine ensures_runCallback (hkeep m hmod) fun answer app hcb => ?_
  have hcall := hcall m app (by rw [hcb])
  refine Ensures.ofExcept_bind (fun _ _ => .callback hmod hcall) fun extras _ => ?_
  refine Ensures.ofExcept_ok_bind (channelEnd_eq_ok.mpr he) ?_
  refine Ensures.ofExcept_bind (fun _ _ _ => ?_) fun chanId _ => ?_
  · exact ⟨.of_eq rfl rfl, .moves key e _ he (.close hs) rfl rfl (.inr ⟨_, m, hmod, hcall⟩) hk⟩
  · refine Ensures.index_zero_bind .panic fun connId _ => ?_
    exact ⟨.of_eq rfl rfl, .moves key e _ he (.close hs) rfl rfl (.inr ⟨_, m, hmod, hcall⟩) hk⟩

theorem chanCloseInit_effect (iso : H.Isolated) {msg : MsgChannelCloseInit}
    (hl : H.lookupModuleByPort msg.portIdOnA = some moduleId)
    (hv : chanCloseInitValidate H s moduleId msg = .ok ())
    (hk : i.localChannel s = some ((ChannelMsg.closeInit msg).localChannel s)) :
    Ensures (chanCloseInitExecute H moduleId msg) s (EndsIn H i s) := by
  obtain ⟨_, -, e, conn, cs, hv⟩ := (ChannelMsg.closeInit msg).valid_of_validate hv
  exact chanClose_effect hl (fun m hm => (iso _ _ hm).closeInit _ _)
    (fun m app h => .closeInit _ _ h) hv.channel hv.notClosed hk

theorem chanCloseConfirm_effect (iso : H.Isolated) {msg : MsgChannelCloseConfirm}
    (hl : H.lookupModuleByPort msg.portIdOnB = some moduleId)
    (hv : chanCloseConfirmValidate H s moduleId msg = .ok ())
    (hk : i.localChannel s = some ((ChannelMsg.closeConfirm msg).localChannel s)) :
    Ensures (chanCloseConfirmExecute H moduleId msg) s (EndsIn H i s) := by
  obtain ⟨_, -, e, conn, _, _, client, hv⟩ :=
    (ChannelMsg.closeConfirm msg).valid_of_validate hv
  exact chanClose_effect hl (fun m hm => (iso _ _ hm).closeConfirm _ _)
    (fun m app h => .closeConfirm _ _ h) hv.channel hv.notClosed hk

/-! ### The packet life cycle -/

theorem sendPacket_effect {p : Packet} {e : ChannelEnd} (hv : SendValid s p e) :
    Ensures (sendPacketExecute H p) s (EndsIn H (.sendPacket p) s) := by
  refine Ensures.ofExcept_bind (fun _ _ => .refl) fun n hn => ?_
  obtain rfl : n = p.seqOnA := Option.some.inj ((Result.okOr_eq_ok.mp hn).symm.trans hv.next)
  refine Ensures.addU64_bind .panic fun _ => ?_
  refine Ensures.ofResult_bind (fun f hf => ?_) fun cm hcm => ?_
  · cases Packet.commitment_eq_error hf
    exact .panic
  refine Ensures.ofExcept_bind (fun _ _ _ => ?_) fun e' _ => ?_
  · exact ⟨.of_eq rfl rfl, .sends p e cm rfl hv hcm rfl rfl rfl⟩
  refine Ensures.index_zero_bind .panic fun connId _ => ?_
  exact ⟨.of_eq rfl rfl, .sends p e cm rfl hv hcm rfl rfl rfl⟩

/-- Whether a packet that may be received was relayed before: if not, nothing marks it as
received. -/
theorem RecvValid.alreadyReceived {p : Packet} {e : ChannelEnd} (hv : RecvValid H s p e) :
    ∃ already, packetAlreadyReceived s e.ordering p = .ok already ∧ (already = false ↔
      (e.ordering = .ordered → s.store.channel.nextSequenceRecv p.chanOnB = some p.seqOnA) ∧
        (e.ordering = .unordered → s.store.channel.packetReceipt p.keyOnB = none)) := by
  cases ho : e.ordering with
  | none => exact ⟨false, rfl, by simp⟩
  | unordered =>
    refine ⟨(s.store.channel.packetReceipt p.keyOnB).isSome, ?_, by simp⟩
    cases hr : s.store.channel.packetReceipt p.keyOnB <;>
      simp [packetAlreadyReceived, Ctx.getPacketReceipt, hr]
  | ordered =>
    obtain ⟨n, hn, hle, -⟩ := hv.ordered ho
    refine ⟨decide (p.seqOnA < n), ?_, ?_⟩
    · simp [packetAlreadyReceived, Ctx.getNextSequenceRecv, hn, pure, Except.pure]
    · have hnext : n ≤ p.seqOnA ↔ n = p.seqOnA := ⟨fun h => le_antisymm h hle, fun h => h.le⟩
      simp [hn, hnext]

/-- A packet that comes for the first time has no acknowledgement. -/
theorem RecvValid.unacknowledged {p : Packet} {e : ChannelEnd} (hv : RecvValid H s p e)
    (hord : e.ordering = .ordered → s.store.channel.nextSequenceRecv p.chanOnB = some p.seqOnA) :
    s.store.channel.packetAcknowledgement p.keyOnB = none := by
  by_cases ho : e.ordering = .ordered
  · obtain ⟨n, hn, -, hack⟩ := hv.ordered ho
    exact hack (Option.some.inj ((hord ho).symm.trans hn))
  · exact hv.unordered ho

/-- The mark a received packet leaves, and what is stored with it. -/
theorem markReceived_ensures {app : μ} {history : List Action} {p : Packet} {e : ChannelEnd}
    {ack : AcknowledgementCommitment} {f : Unit → Handler CS Cons μ Unit}
    {Q : Result ContextError Unit → Ctx CS Cons μ → Prop}
    (hn : e.ordering = .ordered → s.store.channel.nextSequenceRecv p.chanOnB = some p.seqOnA)
    (hp : ∀ s', e.ordering = .ordered → ¬ p.seqOnA + 1 < UInt64.size →
      Q (.error (.panic .overflow)) s')
    (hQ : (e.ordering = .ordered → p.seqOnA + 1 < UInt64.size) →
      Ensures (f ()) ({ s with app := app, history := history }.onChannel
        (·.received e.ordering p ack)) Q) :
    Ensures (markReceived e.ordering p >>= fun _ =>
      write (·.onChannel (·.storePacketAcknowledgement p.keyOnB ack)) >>= f)
      { s with app := app, history := history } Q := by
  cases ho : e.ordering with
  | none =>
    rw [ho] at hQ
    exact hQ nofun
  | unordered =>
    rw [ho] at hQ
    exact hQ nofun
  | ordered =>
    rw [ho] at hQ
    simp only [markReceived, Exec.bind_assoc]
    refine Ensures.ofExcept_bind (fun _ he => ?_) fun n hn' => ?_
    · have : s.getNextSequenceRecv p.chanOnB = .error _ := he
      simp [Ctx.getNextSequenceRecv, hn ho] at this
    · obtain rfl : n = p.seqOnA :=
        Option.some.inj ((Result.okOr_eq_ok.mp hn').symm.trans (hn ho))
      exact Ensures.addU64_cases (hp _ ho) fun hlt => hQ fun _ => hlt

theorem recvPacket_effect (iso : H.Isolated) {msg : MsgRecvPacket}
    (hi : i.packet = some msg.packet)
    (hl : H.lookupModuleByPort msg.packet.portIdOnB = some moduleId)
    (hv : recvPacketValidate H s msg = .ok ())
    (hk : i.localChannel s = some msg.packet.chanOnB) :
    Ensures (recvPacketExecute H moduleId msg) s (EndsIn H i s) := by
  obtain ⟨e, hv⟩ := recvPacketValidate_shows hv
  refine Ensures.ofExcept_ok_bind (channelEnd_eq_ok.mpr hv.channel) ?_
  obtain ⟨already, hal, hfresh⟩ := hv.alreadyReceived
  refine Ensures.ofExcept_ok_bind hal (Ensures.ite (fun _ => .refl) fun hnot => ?_)
  obtain ⟨hord, hunord⟩ := hfresh.mp (Bool.eq_false_of_not_eq_true hnot)
  refine Ensures.ofExcept_bind (fun _ _ => .refl) fun m hm => ?_
  have hmod := moduleOf_eq hl hm
  refine ensures_runCallback ((iso _ _ hmod).recvPacket _ _) fun answer app hcb => ?_
  obtain ⟨extras, ack⟩ := answer
  refine markReceived_ensures hord (fun _ _ _ => .panic) fun _ => ?_
  refine Ensures.index_zero_bind .panic fun connId _ => ?_
  exact ⟨.of_eq rfl rfl,
    .receives msg.packet ack e m extras msg.signer hi hv hord hunord rfl rfl hmod hcb hk⟩

/-- A resolution whose commitment is gone ends at once. -/
theorem acknowledgementPacket_effect (iso : H.Isolated) {msg : MsgAcknowledgement}
    (hi : i.packet = some msg.packet)
    (hl : H.lookupModuleByPort msg.packet.portIdOnA = some moduleId)
    (hv : acknowledgementPacketValidate H s moduleId msg = .ok ())
    (hk : i.localChannel s = some msg.packet.chanOnA) :
    Ensures (acknowledgementPacketExecute H moduleId msg) s (EndsIn H i s) := by
  obtain ⟨e, he, hs, hr, hv⟩ := acknowledgementPacketValidate_shows hv
  refine Ensures.ofExcept_ok_bind (channelEnd_eq_ok.mpr he) ?_
  refine Ensures.index_zero_bind .panic fun connId => ?_
  refine Exec.ensures_write_bind (Exec.ensures_write_bind ?_)
  cases hcm : s.store.channel.packetCommitment msg.packet.keyOnA with
  | none =>
    simp only [Ctx.getPacketCommitment, hcm, Result.okOr_none]
    exact fun _ => ⟨.of_eq rfl rfl, .quiet rfl rfl (.inl rfl)⟩
  | some cm =>
    simp only [Ctx.getPacketCommitment, hcm, Result.okOr_some]
    refine Ensures.ofExcept_bind (fun _ _ _ => ⟨.of_eq rfl rfl, .quiet rfl rfl (.inl rfl)⟩)
      fun m hm => ?_
    have hmod := moduleOf_eq hl hm
    refine ensures_runCallback ((iso _ _ hmod).acknowledgePacket _ _ _) fun answer app hcb => ?_
    obtain ⟨extras, r⟩ := answer
    have heff := fun s' =>
      @Effect.acknowledges _ _ _ _ i s s' msg.packet msg.acknowledgement e cm r
      m extras msg.signer hi he hs hr hcm (hv cm hcm)
    refine Ensures.ofExcept_bind (fun _ herr _ => ?_) fun _ hok => ?_
    · obtain rfl : r = .error _ := herr
      exact ⟨.of_eq rfl rfl, heff _ rfl rfl hmod hcb hk⟩
    · obtain rfl : r = .ok () := hok
      by_cases ho : e.ordering = .ordered
      · simp only [advanceNextSequenceAck, ho, if_true, Exec.bind_assoc]
        refine Ensures.addU64_bind .panic fun _ _ => ?_
        refine ⟨.of_eq rfl rfl, heff _ ?_ rfl hmod hcb hk⟩
        simp only [ChannelStore.acknowledged, ho]
        rfl
      · simp only [advanceNextSequenceAck, ho, if_false]
        refine fun _ => ⟨.of_eq rfl rfl, heff _ ?_ rfl hmod hcb hk⟩
        simp only [ChannelStore.acknowledged, ho]
        rfl

theorem timeoutPacketValidate_shows {msg : TimeoutMsgType}
    (h : timeoutPacketValidate H s moduleId msg = .ok ()) :
    ∃ e, s.store.channel.channels msg.packet.chanOnA = some e ∧
      e.remote = ⟨msg.packet.portIdOnB, some msg.packet.chanIdOnB⟩ ∧
      ∀ cm, s.store.channel.packetCommitment msg.packet.keyOnA = some cm →
        TimeoutValid H s.store msg.packet e cm := by
  rw [timeoutPacketValidate, Result.bind_eq_ok] at h
  obtain ⟨_, h, _⟩ := h
  cases msg with
  | timeout msg => exact timeoutValidate_shows h
  | timeoutOnClose msg => exact timeoutOnCloseValidate_shows h

theorem timeoutPacket_effect (iso : H.Isolated) (msg : TimeoutMsgType)
    (hi : i.packet = some msg.packet)
    (hl : H.lookupModuleByPort msg.packet.portIdOnA = some moduleId)
    (hv : timeoutPacketValidate H s moduleId msg = .ok ())
    (hk : i.localChannel s = some msg.packet.chanOnA) :
    Ensures (timeoutPacketExecute H moduleId msg) s (EndsIn H i s) := by
  obtain ⟨e, he, hr, hv⟩ := timeoutPacketValidate_shows hv
  refine Ensures.ofExcept_ok_bind (channelEnd_eq_ok.mpr he) ?_
  refine Exec.ensures_write_bind (Exec.ensures_write_bind ?_)
  cases hcm : s.store.channel.packetCommitment msg.packet.keyOnA with
  | none =>
    simp only [Ctx.getPacketCommitment, hcm, Result.okOr_none]
    exact fun _ => ⟨.of_eq rfl rfl, .quiet rfl rfl (.inl rfl)⟩
  | some cm =>
    simp only [Ctx.getPacketCommitment, hcm, Result.okOr_some]
    refine Ensures.ofExcept_bind (fun _ _ _ => ⟨.of_eq rfl rfl, .quiet rfl rfl (.inl rfl)⟩)
      fun m hm => ?_
    have hmod := moduleOf_eq hl hm
    refine ensures_runCallback ((iso _ _ hmod).timeoutPacket _ _) fun answer app hcb => ?_
    obtain ⟨extras, r⟩ := answer
    have heff := fun s' => @Effect.timesOut _ _ _ _ i s s' msg.packet e cm r m extras msg.signer hi
      he hr hcm (hv cm hcm)
    refine Ensures.ofExcept_bind (fun _ herr _ => ?_) fun _ hok => ?_
    · obtain rfl : r = .error _ := herr
      exact ⟨.of_eq rfl rfl, heff _ rfl rfl hmod hcb hk⟩
    · obtain rfl : r = .ok () := hok
      by_cases ho : e.ordering = .ordered
      · simp only [closeIfOrdered, emitChannelClosed, ho, if_true, Exec.bind_assoc]
        refine Ensures.index_zero_bind .panic fun connId _ => ?_
        refine ⟨.of_eq rfl rfl, heff _ ?_ rfl hmod hcb hk⟩
        simp only [ChannelStore.timedOut, ho]
        rfl
      · simp only [closeIfOrdered, emitChannelClosed, ho, if_false]
        refine fun _ => ⟨.of_eq rfl rfl, heff _ ?_ rfl hmod hcb hk⟩
        simp only [ChannelStore.timedOut, ho]
        rfl

/-! ### Every step -/

theorem clientMsg_effect (msg : ClientMsg) :
    Ensures (dispatch H (.client msg)) s (EndsIn H (.dispatch (.client msg)) s) := by
  intro _
  obtain ⟨-, hc, ha, he, hh⟩ : _ ∧ _ ∧ _ ∧ _ ∧ _ := by
    simpa only [Ctx.besideClients, Prod.mk.injEq] using dispatch_client_preserves H msg s
  exact ⟨⟨he, nofun⟩, .quiet hc hh (.inl ha)⟩

theorem connectionMsg_effect (msg : ConnectionMsg) :
    Ensures (dispatch H (.connection msg)) s (EndsIn H i s) := by
  intro _
  obtain ⟨hcl, hc, ha, he, hh⟩ : _ ∧ _ ∧ _ ∧ _ ∧ _ := by
    simpa only [Ctx.besideConnections, Prod.mk.injEq] using dispatch_connection_preserves H msg s
  exact ⟨⟨he, fun _ => hcl⟩, .quiet hc hh (.inl ha)⟩

theorem channelMsg_effect (iso : H.Isolated) {msg : ChannelMsg}
    (hl : H.lookupModuleByPort msg.localPort = some moduleId)
    (hv : msg.validate H s moduleId = .ok ())
    (hk : i.localChannel s = some (msg.localChannel s)) (hp : i.packet = none) :
    Ensures (msg.execute H moduleId) s (EndsIn H i s) := by
  cases msg with
  | openInit msg => exact chanOpenInit_effect iso hl hk hp
  | openTry msg => exact chanOpenTry_effect iso hl hk hp
  | openAck msg => exact chanOpenAck_effect iso hl hv hk
  | openConfirm msg => exact chanOpenConfirm_effect iso hl hv hk
  | closeInit msg => exact chanCloseInit_effect iso hl hv hk
  | closeConfirm msg => exact chanCloseConfirm_effect iso hl hv hk

theorem packetMsg_effect (iso : H.Isolated) {msg : PacketMsg} (hi : i.packet = some msg.packet)
    (hl : H.lookupModuleByPort msg.localPort = some moduleId)
    (hv : msg.validate H s moduleId = .ok ())
    (hk : i.localChannel s = some msg.localChannel) :
    Ensures (msg.execute H moduleId) s (EndsIn H i s) := by
  cases msg with
  | recv msg => exact recvPacket_effect iso hi hl hv hk
  | ack msg => exact acknowledgementPacket_effect iso hi hl hv hk
  | timeout msg => exact timeoutPacket_effect iso (.timeout msg) hi hl hv hk
  | timeoutOnClose msg => exact timeoutPacket_effect iso (.timeoutOnClose msg) hi hl hv hk

theorem dispatch_effect (iso : H.Isolated) (msg : MsgEnvelope) :
    Ensures (dispatch H msg) s (EndsIn H (.dispatch msg) s) := by
  cases msg with
  | client msg => exact clientMsg_effect msg
  | connection msg => exact connectionMsg_effect msg
  | channel msg =>
    refine Exec.ensures_read_bind (Ensures.ofResult_bind (fun _ _ => .refl) fun _ hv => ?_)
    exact lookupModule_ensures hv fun _ hl hv => channelMsg_effect iso hl hv rfl rfl
  | packet msg =>
    refine Exec.ensures_read_bind (Ensures.ofResult_bind (fun _ _ => .refl) fun _ hv => ?_)
    exact lookupModule_ensures hv fun _ hl hv => packetMsg_effect iso rfl hl hv rfl

theorem sendPacket_endsIn (p : Packet) :
    Ensures (sendPacket H p) s (EndsIn H (.sendPacket p) s) := by
  refine Ensures.ofResult_bind (fun _ _ => .refl) fun _ hv => ?_
  obtain ⟨e, hv⟩ := sendPacketValidate_shows hv
  exact sendPacket_effect hv

/-- A step that is no new block, and does not come from an application, is a call on the core. -/
theorem Step.endsIn (iso : H.Isolated) {s' : Ctx CS Cons μ} (h : Step H i s s') :
    Effect H i s s' ∧
      (HostFrame i s s' ∨ ∃ env, i = .newBlock env ∧ s' = { s with env := env }) := by
  obtain ⟨r, hrun, hr⟩ := h
  cases i with
  | dispatch msg =>
    have := dispatch_effect iso msg (s := s)
    simp only [Input.run] at hrun
    rw [Ensures, hrun] at this
    exact ⟨(this hr).2, .inl (this hr).1⟩
  | sendPacket p =>
    have := sendPacket_endsIn p (H := H) (s := s)
    simp only [Input.run] at hrun
    rw [Ensures, hrun] at this
    exact ⟨(this hr).2, .inl (this hr).1⟩
  | newBlock env =>
    cases hrun
    exact ⟨.quiet rfl rfl (.inl rfl), .inr ⟨env, rfl, rfl⟩⟩
  | application app =>
    cases hrun
    exact ⟨.application rfl rfl rfl, .inl (.of_eq rfl rfl)⟩

/-- **Every step has one of the effects.** -/
theorem Step.effect (iso : H.Isolated) {s' : Ctx CS Cons μ} (h : Step H i s s') :
    Effect H i s s' := (h.endsIn iso).1

/-- Only a new block changes what the host's own chain looks like. -/
theorem Step.env_eq (iso : H.Isolated) {s' : Ctx CS Cons μ} (h : Step H i s s') :
    s'.env = s.env ∨ i = .newBlock s'.env := by
  obtain hframe | ⟨env, rfl, rfl⟩ := (h.endsIn iso).2
  · exact .inl hframe.env
  · exact .inr rfl

/-- Only a client message changes the clients. -/
theorem Step.client_eq (iso : H.Isolated) {s' : Ctx CS Cons μ} (h : Step H i s s')
    (hi : i.isClient = false) : s'.store.client = s.store.client := by
  obtain hframe | ⟨env, rfl, rfl⟩ := (h.endsIn iso).2
  · exact hframe.client hi
  · rfl

end Handlers

end Ibc
