import Ibc.Protocol.Valid

/-!
# What a validated message shows

`Shown H st hops h cons path value` says that the light client behind the connection of `hops`
accepts, at height `h` and against its stored consensus state `cons`, that the other chain holds
`value` under `path` (`none`: that it holds nothing there).

One lemma for each message of the packet life cycle says what its validation establishes: the
channel end it is about, the state of that end, and what was shown about the other chain.
-/

namespace Ibc

variable {CS Cons μ : Type}

/-- Some proof convinces the client `cs` of `value` under `path`; `none` stands for absence. -/
def LightClient.Accepts (L : LightClient CS Cons) (cs : CS) (cons : Cons) (pfx : CommitmentPrefix)
    (path : Path) : Option Bytes → Prop
  | some value => ∃ proof, L.verifyMembership cs pfx proof (L.root cons) path value = .ok ()
  | none => ∃ proof, L.verifyNonMembership cs pfx proof (L.root cons) path = .ok ()

/-- The client behind `hops` accepts `value` under `path`, at height `h`. -/
def Shown (H : Host CS Cons μ) (st : Store CS Cons) (hops : List ConnectionId) (h : Height)
    (cons : Cons) (path : Path) (value : Option Bytes) : Prop :=
  ∃ conn cs, st.connectionUnder hops = some conn ∧
    st.client.clients.clientState conn.clientId = some cs ∧
    st.client.clients.consensusState conn.clientId h = some cons ∧
    H.lightClient.Accepts cs cons conn.counterparty.pfx path value

/-- The other chain has the channel end `e` under `key`. -/
def ShownChannel (H : Host CS Cons μ) (st : Store CS Cons) (hops : List ConnectionId) (h : Height)
    (cons : Cons) (key : ChannelKey) (e : ChannelEnd) : Prop :=
  Shown H st hops h cons (.channelEnd key.1 key.2) (some e.toRaw.encode)

/-- Committing to a packet can only fail by a panic. -/
theorem Packet.commitment_eq_error {lib : Library} {p : Packet} {f : Fault ContextError}
    (h : p.commitment lib = .error f) : f = .panic .expect := by
  simp only [commitment, computePacketCommitment, Timestamp.nanoseconds] at h
  cases ht : p.timeoutTimestampOnB.time with
  | none => simp [ht, pure, Except.pure] at h
  | some t =>
    simp only [ht] at h
    split_ifs at h
    · simp [pure, Except.pure] at h
    · cases h
      rfl

variable {H : Host CS Cons μ} {s : Ctx CS Cons μ} {moduleId : ModuleId}

/-- A proof that passed, with the client it was checked against. -/
theorem ProofClient.shown {hops : List ConnectionId} {conn : ConnectionEnd} {h : Height}
    {client : CS × Cons} {proof : CommitmentProofBytes} {path : Path} {value : Option Bytes}
    (hc : ProofClient H s.store conn.clientId h client)
    (hconn : s.store.connectionUnder hops = some conn)
    (hp : H.Proves client conn.counterparty.pfx proof path value) :
    Shown H s.store hops h client.2 path value := by
  refine ⟨conn, client.1, hconn, hc.active.client, hc.consensus, ?_⟩
  cases value <;> exact ⟨proof, hp⟩

/-! ### The packet life cycle -/

/-- A packet that may be sent on the channel end `e`. -/
structure SendValid (s : Ctx CS Cons μ) (p : Packet) (e : ChannelEnd) : Prop where
  channel : s.store.channel.channels p.chanOnA = some e
  notClosed : e.state ≠ .closed
  remote : e.remote = ⟨p.portIdOnB, some p.chanIdOnB⟩
  next : s.store.channel.nextSequenceSend p.chanOnA = some p.seqOnA

/-- A packet that may be received on the channel end `e`, for the first time or again. -/
structure RecvValid (H : Host CS Cons μ) (s : Ctx CS Cons μ) (p : Packet) (e : ChannelEnd) :
    Prop where
  channel : s.store.channel.channels p.chanOnB = some e
  state : e.state = .open
  remote : e.remote = ⟨p.portIdOnA, some p.chanIdOnA⟩
  hops : e.connectionHops ≠ []
  height : p.timeoutHeightOnB.hasExpired s.env.hostHeight = false
  timestamp : s.env.hostTimestamp.checkExpiry p.timeoutTimestampOnB ≠ .expired
  sent : ∃ h cons cm, p.CommitsTo H.library cm ∧ Shown H s.store e.connectionHops h cons
    (.commitment p.portIdOnA p.chanIdOnA p.seqOnA) (some cm.bytes)
  ordered : e.ordering = .ordered → ∃ n, s.store.channel.nextSequenceRecv p.chanOnB = some n ∧
    p.seqOnA ≤ n ∧ (p.seqOnA = n → s.store.channel.packetAcknowledgement p.keyOnB = none)
  unordered : e.ordering ≠ .ordered → s.store.channel.packetAcknowledgement p.keyOnB = none

/-- An acknowledgement that may be taken on the channel end `e` for the commitment `cm`. -/
structure AckValid (H : Host CS Cons μ) (st : Store CS Cons) (p : Packet) (ack : Acknowledgement)
    (e : ChannelEnd) (cm : PacketCommitment) : Prop where
  commits : p.CommitsTo H.library cm
  ordered : e.ordering = .ordered → st.channel.nextSequenceAck p.chanOnA = some p.seqOnA
  acked : ∃ h cons, Shown H st e.connectionHops h cons (.ack p.portIdOnB p.chanIdOnB p.seqOnA)
    (some (computeAckCommitment H.library ack).bytes)

/-- The other chain has not received the packet, as of height `h`. -/
def Unreceived (H : Host CS Cons μ) (st : Store CS Cons) (p : Packet) (e : ChannelEnd) (h : Height)
    (cons : Cons) : Prop :=
  if e.ordering = .ordered then
    Shown H st e.connectionHops h cons (.seqRecv p.portIdOnB p.chanIdOnB)
      (some (encodeU64 p.seqOnA))
  else Shown H st e.connectionHops h cons (.receipt p.portIdOnB p.chanIdOnB p.seqOnA) none

/-- The other chain cannot receive the packet any more, as of height `h`: its timeout passed, or
the other end is closed. -/
inductive Undeliverable (H : Host CS Cons μ) (st : Store CS Cons) (p : Packet) (e : ChannelEnd)
    (h : Height) (cons : Cons) : Prop where
  | timedOut (ht : p.timedOut (H.lightClient.timestamp cons) h = true)
  | closed (hops : List ConnectionId) (hs : ShownChannel H st e.connectionHops h cons p.chanOnB
      ⟨.closed, e.ordering, ⟨p.portIdOnA, some p.chanIdOnA⟩, hops, e.version⟩)

/-- A timeout that may be taken on the channel end `e` for the commitment `cm`. -/
structure TimeoutValid (H : Host CS Cons μ) (st : Store CS Cons) (p : Packet) (e : ChannelEnd)
    (cm : PacketCommitment) : Prop where
  commits : p.CommitsTo H.library cm
  late : ∃ h cons, Undeliverable H st p e h cons ∧ Unreceived H st p e h cons

theorem sendPacketValidate_shows {p : Packet} (h : sendPacketValidate H s p = .ok ()) :
    ∃ e, SendValid s p e := by
  obtain ⟨e, conn, client, hv⟩ := sendPacketValidate_eq_ok.mp h
  exact ⟨e, hv.channel, hv.notClosed, hv.remote, hv.next⟩

theorem MsgRecvPacket.Valid.recvValid {msg : MsgRecvPacket} {e : ChannelEnd}
    {conn : ConnectionEnd} {client : CS × Cons} (hv : msg.Valid H s e conn client) :
    RecvValid H s msg.packet e := by
  obtain ⟨cm, hcm, hproof⟩ := hv.sent
  have hexp := hv.expected
  refine ⟨hv.channel, hv.state, hv.remote, ?_, hv.height, hv.timestamp,
    ⟨_, client.2, cm, hcm, hv.usable.shown hv.connection hproof⟩, fun ho => ?_, fun ho => ?_⟩
  · intro hnil
    have hconn := hv.connection
    simp [hnil, Store.connectionUnder] at hconn
  · rwa [ChannelStore.Expects, if_pos ho] at hexp
  · rwa [ChannelStore.Expects, if_neg ho] at hexp

theorem recvPacketValidate_shows {msg : MsgRecvPacket} (h : recvPacketValidate H s msg = .ok ()) :
    ∃ e, RecvValid H s msg.packet e := by
  obtain ⟨e, conn, client, hv⟩ := recvPacketValidate_eq_ok.mp h
  exact ⟨e, hv.recvValid⟩

theorem acknowledgementPacketValidate_shows {msg : MsgAcknowledgement}
    (h : acknowledgementPacketValidate H s moduleId msg = .ok ()) :
    ∃ e, s.store.channel.channels msg.packet.chanOnA = some e ∧ e.state = .open ∧
      e.remote = ⟨msg.packet.portIdOnB, some msg.packet.chanIdOnB⟩ ∧
      ∀ cm, s.store.channel.packetCommitment msg.packet.keyOnA = some cm →
        AckValid H s.store msg.packet msg.acknowledgement e cm := by
  simp only [acknowledgementPacketValidate, acknowledgementPacketValidateCore, Result.bind_eq_ok,
    lift_channel_eq_ok, channelEnd_eq_ok, ChannelEnd.verifyStateMatches,
    ChannelEnd.verifyCounterpartyMatches, Result.ensure_eq_ok, connectionOfHops_eq_ok] at h
  obtain ⟨_, ⟨_, _, e, he, _, hs, _, hr, conn, hconn, _, _, hcore⟩, _⟩ := h
  refine ⟨e, he, hs, hr, fun cm hcm => ?_⟩
  simp only [Ctx.getPacketCommitment, hcm, Result.okOr_some, Result.bind_eq_ok, lift_packet_eq_ok,
    verifyCommitment_iff, verifyAckSequence_iff, clientForProof_iff,
    verifyPacketMembership_iff] at hcore
  obtain ⟨_, hcommits, _, hseq, client, hclient, _, _, hproof⟩ := hcore
  exact ⟨hcommits, hseq, _, client.2, hclient.shown hconn hproof⟩

theorem Host.ProvesUnreceived.unreceived {p : Packet} {e : ChannelEnd} {conn : ConnectionEnd}
    {h : Height} {client : CS × Cons} {nextSeq : Sequence} {proof : CommitmentProofBytes}
    (hv : H.ProvesUnreceived client conn e.ordering p nextSeq proof)
    (hc : ProofClient H s.store conn.clientId h client)
    (hconn : s.store.connectionUnder e.connectionHops = some conn) :
    Unreceived H s.store p e h client.2 := by
  unfold Unreceived
  unfold ProvesUnreceived at hv
  split_ifs at hv ⊢
  · exact hc.shown hconn hv.2
  · exact hc.shown hconn hv

theorem timeoutValidate_shows {msg : MsgTimeout} (h : timeoutValidate H s msg = .ok ()) :
    ∃ e, s.store.channel.channels msg.packet.chanOnA = some e ∧
      e.remote = ⟨msg.packet.portIdOnB, some msg.packet.chanIdOnB⟩ ∧
      ∀ cm, s.store.channel.packetCommitment msg.packet.keyOnA = some cm →
        TimeoutValid H s.store msg.packet e cm := by
  simp only [timeoutValidate, Result.bind_eq_ok, lift_channel_eq_ok, channelEnd_eq_ok,
    ChannelEnd.verifyCounterpartyMatches, Result.ensure_eq_ok, connectionOfHops_eq_ok] at h
  obtain ⟨_, _, e, he, _, _, _, hr, conn, hconn, hcore⟩ := h
  refine ⟨e, he, hr, fun cm hcm => ?_⟩
  simp only [Ctx.getPacketCommitment, hcm, Result.okOr_some, Result.bind_eq_ok, lift_packet_eq_ok,
    verifyCommitment_iff, clientForProof_iff, verifyTimedOut, Result.ensure_eq_ok,
    verifyUnreceived_iff] at hcore
  obtain ⟨_, hcommits, client, hclient, _, hlate, _, _, hun⟩ := hcore
  exact ⟨hcommits, _, client.2, .timedOut hlate, hun.unreceived hclient hconn⟩

theorem timeoutOnCloseValidate_shows {msg : MsgTimeoutOnClose}
    (h : timeoutOnCloseValidate H s msg = .ok ()) :
    ∃ e, s.store.channel.channels msg.packet.chanOnA = some e ∧
      e.remote = ⟨msg.packet.portIdOnB, some msg.packet.chanIdOnB⟩ ∧
      ∀ cm, s.store.channel.packetCommitment msg.packet.keyOnA = some cm →
        TimeoutValid H s.store msg.packet e cm := by
  simp only [timeoutOnCloseValidate, Result.bind_eq_ok, lift_channel_eq_ok, channelEnd_eq_ok,
    ChannelEnd.verifyCounterpartyMatches, Result.ensure_eq_ok] at h
  obtain ⟨_, _, e, he, _, hr, hcore⟩ := h
  refine ⟨e, he, hr, fun cm hcm => ?_⟩
  simp only [Ctx.getPacketCommitment, hcm, Result.okOr_some, Result.bind_eq_ok, lift_packet_eq_ok,
    lift_channel_eq_ok, verifyCommitment_iff, connectionOfHops_eq_ok, clientForProof_iff,
    counterpartyIdsForPacket, Result.okOr_eq_ok, Result.pure_eq_ok, ChannelEnd.new_eq_ok,
    verifyPacketMembership_iff, verifyUnreceived_iff, hr, Except.ok.injEq] at hcore
  obtain ⟨_, hcommits, conn, hconn, client, hclient, _, ⟨chanIdOnB, rfl, _, _, connIdOnB, _, rfl⟩,
    _, ⟨rfl, -, -⟩, _, hclosed, _, _, hun⟩ := hcore
  exact ⟨hcommits, _, client.2, .closed [connIdOnB] (hclient.shown hconn hclosed),
    hun.unreceived hclient hconn⟩

end Ibc
