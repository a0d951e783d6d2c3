import Ibc.Protocol.Forward
import Ibc.Protocol.Receiver
import Ibc.Protocol.Timeout

/-!
# Messages that come again

Relayers compete, so the core treats a message that has already had its effect as a success without
effect. Two of these no-ops are not no-ops for all:

* **`redelivery_noop_iff`**: a packet that was received, relayed again while it could still be
  received, is a no-op exactly on an ordered channel. On an unordered one validation refuses it,
  because its acknowledgement is stored.
* **`stale_noop_iff`**: an acknowledgement or a timeout of a packet without commitment is a no-op
  exactly when the module's own validation accepts it. The module is asked in any case.
-/

namespace Ibc

variable {CS Cons μ : Type} {H : Host CS Cons μ} {s s₀ s₁ s₂ : Ctx CS Cons μ} {e : ChannelEnd}
  {conn : ConnectionEnd} {cs : CS} {cons : Cons} {cm : PacketCommitment}

/-! ### Receiving again -/

/-- The packet of `msg` can still be received, and its proof still verifies. -/
structure StillReceivable (H : Host CS Cons μ) (s : Ctx CS Cons μ) (msg : MsgRecvPacket)
    (e : ChannelEnd) (conn : ConnectionEnd) (cs : CS) (cons : Cons) (cm : PacketCommitment) :
    Prop where
  channel : s.store.channel.channels msg.packet.chanOnB = some e
  isOpen : e.state = .open
  height : msg.packet.timeoutHeightOnB.hasExpired s.env.hostHeight = false
  timestamp : s.env.hostTimestamp.checkExpiry msg.packet.timeoutTimestampOnB ≠ .expired
  checkable : Checkable H s e msg.proofHeightOnA conn cs cons
  commits : msg.packet.CommitsTo H.library cm
  proof : H.lightClient.Verifies cs conn.counterparty.pfx (H.lightClient.root cons)
    msg.proofCommitmentOnA
    (.commitment msg.packet.portIdOnA msg.packet.chanIdOnA msg.packet.seqOnA) (some cm.bytes)

/-- What a message must have shown to be accepted, apart from what may change later. -/
structure WasAccepted (H : Host CS Cons μ) (s : Ctx CS Cons μ) (msg : MsgRecvPacket)
    (e : ChannelEnd) (conn : ConnectionEnd) : Prop where
  signer : H.validateMessageSigner msg.signer = .ok ()
  valid : RecvValid H s msg.packet e
  connection : s.store.connectionUnder e.connectionHops = some conn
  connOpen : conn.state = .open

theorem recvPacketValidate_wasAccepted {msg : MsgRecvPacket}
    (h : recvPacketValidate H s msg = .ok ()) : ∃ e conn, WasAccepted H s msg e conn := by
  obtain ⟨e, conn, client, hv⟩ := recvPacketValidate_eq_ok.mp h
  exact ⟨e, conn, hv.signer, hv.recvValid, hv.connection, hv.connOpen⟩

/-- What is left of a message's validation when its packet can still be received: the check of what
is stored for its sequence. -/
theorem recvPacketValidate_iff {msg : MsgRecvPacket}
    (hsigner : H.validateMessageSigner msg.signer = .ok ()) (hremote : e.remote = msg.packet.source)
    (hopen : conn.state = .open) (h : StillReceivable H s msg e conn cs cons cm) :
    recvPacketValidate H s msg = .ok () ↔ s.store.channel.Expects e.ordering msg.packet := by
  constructor
  · intro hok
    obtain ⟨e', _, _, hv⟩ := recvPacketValidate_eq_ok.mp hok
    obtain rfl : e' = e := Option.some.inj (hv.channel.symm.trans h.channel)
    exact hv.expected
  · intro hexp
    exact recvPacketValidate_eq_ok.mpr ⟨e, conn, (cs, cons), hsigner, h.channel, h.isOpen, hremote,
      h.checkable.connection, hopen, h.height, h.timestamp,
      clientForProof_iff.mp h.checkable.client, verifyConnDelayPassed_iff.mp h.checkable.delay,
      ⟨cm, h.commits, h.proof⟩, hexp⟩

/-- A packet handed to the module stays marked: its acknowledgement is stored, and on an ordered
channel later sequences are expected. -/
theorem Reachable.marked (iso : H.Isolated) (h : Reachable H s) {p : Packet}
    {ack : Acknowledgement} (hrecv : .recvPacket p ack ∈ s.history)
    (he : s.store.channel.channels p.chanOnB = some e) :
    s.store.channel.packetAcknowledgement p.keyOnB ≠ none ∧
      (e.ordering = .ordered →
        ∃ n, s.store.channel.nextSequenceRecv p.chanOnB = some n ∧ p.seqOnA < n) := by
  have inv := ChannelView.Life.receiverInv (h.life iso p.chanOnB)
  have hmem : p.seqOnA ∈ (s.view p.chanOnB).received :=
    List.mem_filterMap.mpr ⟨_, mem_view_history.mpr ⟨hrecv, rfl⟩, rfl⟩
  refine ⟨(inv.acked p.seqOnA).mpr hmem, fun ho => ?_⟩
  obtain ⟨n, hrange, hnext⟩ := inv.ordered e he ho
  rw [hrange, List.mem_range'_1] at hmem
  exact ⟨n + 1, hnext, Nat.add_comm 1 n ▸ hmem.2⟩

/-- A packet that was relayed before is not handed over again. -/
theorem recvPacketExecute_again {msg : MsgRecvPacket} {id : ModuleId} {n : Sequence}
    (he : s.store.channel.channels msg.packet.chanOnB = some e) (ho : e.ordering = .ordered)
    (hn : s.store.channel.nextSequenceRecv msg.packet.chanOnB = some n)
    (hlt : msg.packet.seqOnA < n) : recvPacketExecute H id msg s = (.ok (), s) := by
  have hal : packetAlreadyReceived s e.ordering msg.packet = .ok true := by
    simp [packetAlreadyReceived, ho, Ctx.getNextSequenceRecv, hn, hlt, pure, Except.pure]
  unfold recvPacketExecute
  rw [Exec.read_bind]
  change (Exec.ofResult (Result.ofExcept _ (s.channelEnd msg.packet.chanOnB)) >>= _) s = _
  rw [channelEnd_eq_ok.mpr he]
  change (Exec.ofResult (Result.ofExcept _ (packetAlreadyReceived s e.ordering msg.packet)) >>= _)
    s = _
  rw [hal]
  rfl

/-- **Which packets may be relayed twice.** A packet that was handed to the module, relayed again
while it can still be received: the message is a success without effect exactly when the channel is
ordered. -/
theorem redelivery_noop_iff (iso : H.Isolated) {msg : MsgRecvPacket} {ack : Acknowledgement}
    (h₀ : Reachable H s₀) (hfirst : dispatch H (.packet (.recv msg)) s₀ = (.ok (), s₁))
    (hcall : s₁.history = s₀.history ++ [.recvPacket msg.packet ack]) (hrun : Run H s₁ s₂)
    (h : StillReceivable H s₂ msg e conn cs cons cm) :
    (∃ s₃, dispatch H (.packet (.recv msg)) s₂ = (.ok (), s₃) ∧ s₃.store = s₂.store ∧
      s₃.app = s₂.app) ↔ e.ordering = .ordered := by
  have hstep : Step H (.dispatch (.packet (.recv msg))) s₀ s₁ := ⟨_, hfirst, nofun⟩
  have hrun₀ : Run H s₀ s₂ := .of_step _ hstep hrun
  have h₂ : Reachable H s₂ := h₀.run hrun₀
  obtain ⟨hvalid, -⟩ := dispatch_eq_ok_iff.mp hfirst
  obtain ⟨id, hl, hvalid⟩ := Result.bind_eq_ok.mp hvalid
  obtain ⟨e₀, conn₀, hacc⟩ := recvPacketValidate_wasAccepted hvalid
  -- The channel end and its connection are open before and after, so they are the same.
  obtain ⟨e', he', hkept⟩ := hrun₀.channel_kept iso h₀ hacc.valid.channel
    (by simp [hacc.valid.state])
  obtain rfl : e' = e := Option.some.inj (he'.symm.trans h.channel)
  obtain rfl : e' = e₀ := by rw [hkept.fields, h.isOpen, ← hacc.valid.state]
  obtain ⟨connId, hhead, hconn₀⟩ := Option.bind_eq_some_iff.mp hacc.connection
  have hconn := hrun₀.connection_open iso h₀ hconn₀ hacc.connOpen
  obtain rfl : conn₀ = conn := by
    have hunder : s₂.store.connectionUnder e'.connectionHops = some conn₀ := by
      rw [Store.connectionUnder, hhead, Option.bind_some, hconn]
    exact Option.some.inj (hunder.symm.trans h.checkable.connection)
  have hmem : .recvPacket msg.packet ack ∈ s₂.history :=
    (hrun.history_grows iso).subset (by simp [hcall])
  obtain ⟨hacked, hnext⟩ := h₂.marked iso hmem h.channel
  have hiff := recvPacketValidate_iff hacc.signer hacc.valid.remote hacc.connOpen h
  constructor
  · rintro ⟨s₃, hagain, -⟩
    obtain ⟨hv, -⟩ := dispatch_eq_ok_iff.mp hagain
    obtain ⟨_, _, hv⟩ := Result.bind_eq_ok.mp hv
    by_contra ho
    rw [ChannelStore.Expects, if_neg ho] at hiff
    exact hacked (hiff.mp hv)
  · intro ho
    obtain ⟨n, hn, hlt⟩ := hnext ho
    rw [ChannelStore.Expects, if_pos ho] at hiff
    have hv := hiff.mpr ⟨n, hn, hlt.le, fun heq => absurd heq hlt.ne⟩
    refine ⟨s₂, dispatch_eq_ok_iff.mpr ⟨Result.bind_eq_ok.mpr ⟨id, hl, hv⟩, ?_⟩, rfl, rfl⟩
    refine Exec.bind_eq_ok.mpr ⟨id, s₂, ?_, recvPacketExecute_again h.channel ho hn hlt⟩
    exact congrArg (·, s₂) hl

namespace MockRun

open ProofRun (channelEnd openConnection)

def recvMsg : MsgRecvPacket := ⟨packet, proof, ⟨0, 1⟩, signer⟩

/-- What is seen when the packet arrives, and of the state after it. -/
structure Arrival where
  first : Result ContextError Unit
  history : List Action
  channel : Option ChannelEnd
  connection : Option ConnectionEnd
  client : Result ContextError (MockClientState × MockConsensusState)
  delay : Result ContextError Unit
  alive : Bool
  again : Result ContextError Unit
deriving DecidableEq

def arrival (s : MockCtx Unit) : Arrival :=
  let s₁ := (dispatch host (.packet (.recv recvMsg)) s).2
  { first := (dispatch host (.packet (.recv recvMsg)) s).1
    history := s₁.history
    channel := s₁.store.channel.channels packet.chanOnB
    connection := s₁.store.connectionUnder [connectionId]
    client := clientForProof host s₁ clientId ⟨0, 1⟩
    delay := verifyConnDelayPassed host s₁ ⟨0, 1⟩ openConnection
    alive := !packet.timeoutHeightOnB.hasExpired s₁.env.hostHeight &&
      decide (s₁.env.hostTimestamp.checkExpiry packet.timeoutTimestampOnB ≠ .expired)
    again := (dispatch host (.packet (.recv recvMsg)) s₁).1 }

/-- The packet is received, and could be received still. -/
def arrived (ordering : Order) (again : Result ContextError Unit) : Arrival where
  first := .ok ()
  history := [.recvPacket packet dummyAcknowledgement]
  channel := some (channelEnd .open ordering)
  connection := some openConnection
  client := .ok (.new header, .new header)
  delay := .ok ()
  alive := true
  again := again

theorem stillReceivable {s : MockCtx Unit} {ordering : Order}
    {again : Result ContextError Unit} (h : arrival s = arrived ordering again) :
    StillReceivable host (dispatch host (.packet (.recv recvMsg)) s).2 recvMsg
      (channelEnd .open ordering) openConnection (.new header) (.new header) commitment := by
  have halive := congrArg Arrival.alive h
  simp only [arrival, arrived, Bool.and_eq_true, Bool.not_eq_true', decide_eq_true_eq] at halive
  exact ⟨congrArg Arrival.channel h, rfl, halive.1, halive.2,
    ⟨congrArg Arrival.connection h, congrArg Arrival.client h, congrArg Arrival.delay h⟩,
    (by decide +kernel : packet.commitment library = (.ok commitment : Result ContextError _)), rfl⟩

/-- What a host that has just opened its channel makes of the packet. -/
theorem exists_arrived (ordering : Order) (again : Result ContextError Unit)
    (h : (runAll host (opening ordering) start).map (fun s => (s.history, arrival s)) =
      some ([], arrived ordering again)) :
    ∃ s₀ s₁, Reachable host s₀ ∧ dispatch host (.packet (.recv recvMsg)) s₀ = (.ok (), s₁) ∧
      s₁.history = s₀.history ++ [.recvPacket packet dummyAcknowledgement] ∧
      StillReceivable host s₁ recvMsg (channelEnd .open ordering) openConnection (.new header)
        (.new header) commitment ∧
      (dispatch host (.packet (.recv recvMsg)) s₁).1 = again := by
  obtain ⟨s, hs, h⟩ := Reachable.exists_of_runAll (opening ordering) _ rfl rfl h
  have harr : arrival s = arrived ordering again := congrArg Prod.snd h
  refine ⟨s, _, hs, Prod.ext (congrArg Arrival.first harr) rfl, ?_, stillReceivable harr,
    congrArg Arrival.again harr⟩
  rw [show s.history = [] from congrArg Prod.fst h]
  exact congrArg Arrival.history harr

end MockRun

/-- On an ordered channel the sample packet may be relayed twice. -/
theorem ordered_redelivery_noop : ∃ s₀ s₁ s₂, Reachable MockRun.host s₀ ∧
    dispatch MockRun.host (.packet (.recv MockRun.recvMsg)) s₀ = (.ok (), s₁) ∧
    dispatch MockRun.host (.packet (.recv MockRun.recvMsg)) s₁ = (.ok (), s₂) ∧
    s₂.store = s₁.store ∧ s₂.app = s₁.app := by
  obtain ⟨s₀, s₁, hs, hfirst, hcall, hstill, -⟩ :=
    MockRun.exists_arrived .ordered (.ok ()) (by decide +kernel)
  obtain ⟨s₂, hagain, hstore, happ⟩ :=
    (redelivery_noop_iff MockRun.host_isolated hs hfirst hcall .refl hstill).mpr rfl
  exact ⟨s₀, s₁, s₂, hs, hfirst, hagain, hstore, happ⟩

/-- On an unordered channel the second message fails. -/
theorem unordered_redelivery_fails : ∃ s₀ s₁ e conn cs cons cm, Reachable MockRun.host s₀ ∧
    dispatch MockRun.host (.packet (.recv MockRun.recvMsg)) s₀ = (.ok (), s₁) ∧
    s₁.history = s₀.history ++ [.recvPacket MockRun.packet dummyAcknowledgement] ∧
    StillReceivable MockRun.host s₁ MockRun.recvMsg e conn cs cons cm ∧
    e.ordering = .unordered ∧
    (dispatch MockRun.host (.packet (.recv MockRun.recvMsg)) s₁).1 =
      .error (.err (.packetError (.acknowledgementExists 1))) := by
  obtain ⟨s₀, s₁, hs, hfirst, hcall, hstill, hagain⟩ :=
    MockRun.exists_arrived .unordered (.error (.err (.packetError (.acknowledgementExists 1))))
      (by decide +kernel)
  exact ⟨s₀, s₁, _, _, _, _, _, hs, hfirst, hcall, hstill, rfl, hagain⟩

/-! ### Resolving again -/

/-- A message that resolves a sent packet: an acknowledgement or a timeout. -/
inductive Resolution where
  | ack (msg : MsgAcknowledgement)
  | timeout (msg : MsgTimeout)

namespace Resolution

def toMsg : Resolution → PacketMsg
  | .ack msg => .ack msg
  | .timeout msg => .timeout msg

def packet : Resolution → Packet
  | .ack msg => msg.packet
  | .timeout msg => msg.packet

def signer : Resolution → Signer
  | .ack msg => msg.signer
  | .timeout msg => msg.signer

/-- What the module's own validation says of the message. -/
def verdict (m : Module (Store CS Cons) μ) (s : Ctx CS Cons μ) :
    Resolution → Except PacketError Unit
  | .ack msg =>
      m.onAcknowledgementPacketValidate s.store s.app msg.packet msg.acknowledgement msg.signer
  | .timeout msg => m.onTimeoutPacketValidate s.store s.app msg.packet msg.signer

end Resolution

/-- The packet of `msg` has no commitment, on an open unordered channel over an open connection. -/
structure Stale (H : Host CS Cons μ) (s : Ctx CS Cons μ) (msg : Resolution) (e : ChannelEnd)
    (conn : ConnectionEnd) : Prop where
  signer : H.validateMessageSigner msg.signer = .ok ()
  channel : s.store.channel.channels msg.packet.chanOnA = some e
  isOpen : e.state = .open
  isUnordered : e.ordering = .unordered
  remote : e.remote = msg.packet.destination
  connection : s.store.connectionUnder e.connectionHops = some conn
  connOpen : conn.state = .open
  gone : s.store.channel.packetCommitment msg.packet.keyOnA = none

namespace Stale

variable {msg : Resolution} {m : Module (Store CS Cons) μ} {id : ModuleId}

/-- The core accepts the message, so its validation says what the module says. -/
theorem validate_iff (h : Stale H s msg e conn) (hm : channelRoute H id = .ok m) :
    msg.toMsg.validate H s id = .ok () ↔ msg.verdict m s = .ok () := by
  obtain ⟨hsigner, hchannel, hopen, -, hremote, hconnection, hconnOpen, hgone⟩ := h
  cases msg with
  | ack msg =>
    simp only [Resolution.packet, Resolution.signer, Packet.destination] at *
    simp [Resolution.toMsg, PacketMsg.validate, acknowledgementPacketValidate,
      acknowledgementPacketValidateCore, Result.bind_eq_ok, hsigner, channelEnd_eq_ok, hchannel,
      ChannelEnd.verifyStateMatches, hopen, ChannelEnd.verifyCounterpartyMatches, hremote,
      connectionOfHops_eq_ok, hconnection, ConnectionEnd.verifyStateMatches, hconnOpen,
      Ctx.getPacketCommitment, hgone, hm, Resolution.verdict]
  | timeout msg =>
    simp only [Resolution.packet, Resolution.signer, Packet.destination] at *
    simp [Resolution.toMsg, PacketMsg.validate, timeoutPacketValidate,
      TimeoutMsgType.validateCore, timeoutValidate, Result.bind_eq_ok, hsigner, channelEnd_eq_ok,
      hchannel, ChannelEnd.verifyStateMatches, hopen, ChannelEnd.verifyCounterpartyMatches,
      hremote, connectionOfHops_eq_ok, hconnection, Ctx.getPacketCommitment, hgone, hm,
      Resolution.verdict, TimeoutMsgType.packet, TimeoutMsgType.signer]

/-- Executing it only emits events. -/
theorem execute_eq (h : Stale H s msg e conn) :
    ∃ s', msg.toMsg.execute H id s = (.ok (), s') ∧ s'.store = s.store := by
  obtain ⟨connId, hhead, -⟩ := Option.bind_eq_some_iff.mp h.connection
  obtain ⟨rest, hhops⟩ := List.head?_eq_some_iff.mp hhead
  rcases e with ⟨state, ordering, remote, hops, version⟩
  cases hhops
  cases msg with
  | ack msg =>
    have hchannel := channelEnd_eq_ok.mpr h.channel
    unfold Resolution.packet at hchannel
    have hgone : s.getPacketCommitment msg.packet.keyOnA = .error _ :=
      Result.okOr_eq_error.mpr ⟨h.gone, rfl⟩
    change ∃ s', acknowledgementPacketExecute H id msg s = _ ∧ _
    unfold acknowledgementPacketExecute
    simp only [Exec.read_bind, hchannel, hgone]
    exact ⟨_, rfl, rfl⟩
  | timeout msg =>
    have hchannel := channelEnd_eq_ok.mpr h.channel
    unfold Resolution.packet at hchannel
    have hgone : s.getPacketCommitment msg.packet.keyOnA = .error _ :=
      Result.okOr_eq_error.mpr ⟨h.gone, rfl⟩
    change ∃ s', timeoutPacketExecute H id (.timeout msg) s = _ ∧ _
    unfold timeoutPacketExecute
    simp only [Exec.read_bind, TimeoutMsgType.packet, hchannel, hgone]
    exact ⟨_, rfl, rfl⟩

end Stale

/-- **When a stale resolution is a no-op.** Exactly when the module of the port accepts it. -/
theorem stale_noop_iff {msg : Resolution} {m : Module (Store CS Cons) μ}
    (hm : H.moduleOf msg.packet.portIdOnA = some m) (h : Stale H s msg e conn) :
    (∃ s', dispatch H (.packet msg.toMsg) s = (.ok (), s') ∧ s'.store = s.store) ↔
      msg.verdict m s = .ok () := by
  obtain ⟨id, hl, hroute⟩ := Option.bind_eq_some_iff.mp hm
  have hlookup : lookupModulePacket H msg.toMsg = .ok id := by
    cases msg <;> exact lookupModule_eq_ok.mpr hl
  have hm' : channelRoute H id = .ok m := Result.okOr_eq_ok.mpr hroute
  have hvalidate : validate H s (.packet msg.toMsg) = .ok () ↔ msg.verdict m s = .ok () := by
    rw [← h.validate_iff hm', validate, hlookup]
    rfl
  have hexec : ∃ s', msg.toMsg.execute H id s = (.ok (), s') ∧ s'.store = s.store := h.execute_eq
  obtain ⟨s', hexecute, hstore⟩ := hexec
  have hrun : execute H (.packet msg.toMsg) s = (.ok (), s') := by
    rw [execute, hlookup]
    exact hexecute
  constructor
  · rintro ⟨_, hok, -⟩
    exact hvalidate.mp (dispatch_eq_ok_iff.mp hok).1
  · intro hv
    exact ⟨s', dispatch_eq_ok_iff.mpr ⟨hvalidate.mpr hv, hrun⟩, hstore⟩

namespace MockRun

open ProofRun (channelEnd openConnection)

/-- The mock host with a module that refuses packets it does not know, here all. -/
def refusingHost : Host MockClientState MockConsensusState Unit :=
  { host with
    getRoute := fun id => (host.getRoute id).map fun m =>
      { m with
        onAcknowledgementPacketValidate := fun _ _ _ _ _ => .error (.appModule "unknown packet")
        onTimeoutPacketValidate := fun _ _ _ _ => .error (.appModule "unknown packet") } }

def ackMsg : MsgAcknowledgement := ⟨packet, dummyAcknowledgement, proof, ⟨0, 1⟩, signer⟩

def timeoutMsg : MsgTimeout := ⟨packet, 1, proof, ⟨0, 1⟩, signer⟩

/-- What is seen of a channel on which nothing was sent. -/
def idle (s : MockCtx Unit) :
    Option ChannelEnd × Option ConnectionEnd × Option PacketCommitment :=
  (s.store.channel.channels packet.chanOnA, s.store.connectionUnder [connectionId],
    s.store.channel.packetCommitment packet.keyOnA)

theorem stale {H : Host MockClientState MockConsensusState Unit}
    {s : MockCtx Unit} (msg : Resolution)
    (hsigner : H.validateMessageSigner msg.signer = .ok ()) (hp : msg.packet = packet)
    (h : idle s = (some (channelEnd .open .unordered), some openConnection, none)) :
    Stale H s msg (channelEnd .open .unordered) openConnection where
  signer := hsigner
  channel := hp ▸ congrArg Prod.fst h
  isOpen := rfl
  isUnordered := rfl
  remote := hp ▸ rfl
  connection := congrArg (·.2.1) h
  connOpen := rfl
  gone := hp ▸ congrArg (·.2.2) h

end MockRun

/-- With the mock module the acknowledgement of a packet that was never sent is a no-op. -/
theorem mock_stale_ack_noop : ∃ s s', Reachable MockRun.host s ∧
    s.store.channel.packetCommitment MockRun.packet.keyOnA = none ∧
    dispatch MockRun.host (.packet (.ack MockRun.ackMsg)) s = (.ok (), s') ∧
    s'.store = s.store := by
  obtain ⟨s, hs, h⟩ := Reachable.exists_of_runAll (H := MockRun.host) (s := MockRun.start)
    (MockRun.opening .unordered) MockRun.idle rfl rfl
    (by decide +kernel : _ = some (some (ProofRun.channelEnd .open .unordered),
      some ProofRun.openConnection, none))
  have hmodule : MockRun.host.moduleOf (Resolution.ack MockRun.ackMsg).packet.portIdOnA =
      some dummyTransferModule := rfl
  obtain ⟨s', hok, hstore⟩ :=
    (stale_noop_iff hmodule (MockRun.stale (.ack MockRun.ackMsg) rfl rfl h)).mpr rfl
  exact ⟨s, s', hs, congrArg (·.2.2) h, hok, hstore⟩

/-- A module that refuses the packet makes the acknowledgement and the timeout fail. -/
theorem refused_stale_resolution_fails : ∃ s e conn, Reachable MockRun.refusingHost s ∧
    Stale MockRun.refusingHost s (.ack MockRun.ackMsg) e conn ∧
    Stale MockRun.refusingHost s (.timeout MockRun.timeoutMsg) e conn ∧
    (dispatch MockRun.refusingHost (.packet (.ack MockRun.ackMsg)) s).1 ≠ .ok () ∧
    (dispatch MockRun.refusingHost (.packet (.timeout MockRun.timeoutMsg)) s).1 ≠ .ok () := by
  obtain ⟨s, hs, h⟩ := Reachable.exists_of_runAll (H := MockRun.refusingHost) (s := MockRun.start)
    (MockRun.opening .unordered)
    (fun s => (MockRun.idle s,
      decide ((dispatch MockRun.refusingHost (.packet (.ack MockRun.ackMsg)) s).1 = .ok ()),
      decide ((dispatch MockRun.refusingHost (.packet (.timeout MockRun.timeoutMsg)) s).1 =
        .ok ()))) rfl rfl
    (by decide +kernel : _ = some ((some (ProofRun.channelEnd .open .unordered),
      some ProofRun.openConnection, none), false, false))
  have hidle := congrArg Prod.fst h
  exact ⟨s, _, _, hs, MockRun.stale _ rfl rfl hidle, MockRun.stale _ rfl rfl hidle,
    of_decide_eq_false (congrArg (·.2.1) h), of_decide_eq_false (congrArg (·.2.2) h)⟩

end Ibc
