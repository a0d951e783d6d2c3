import Ibc.Protocol.Step

/-!
# What a message must meet

For each message of the handshakes that takes a proof, for the two closing messages, for `recv` and
for sending: one structure says what its validation asks of the message and of the state, in terms
of the store, and one lemma (`…Validate_eq_ok`) that validation asks exactly that. A packet message
that has come too late asks less; `ack` and the two timeouts are taken for a packet whose
commitment is stored.
-/

namespace Ibc

open Exec

variable {CS Cons μ : Type} (H : Host CS Cons μ) (s : Ctx CS Cons μ)

/-! ### Clients and proofs -/

/-- The client is stored and not frozen. -/
structure Active (st : Store CS Cons) (id : ClientId) (cs : CS) : Prop where
  client : st.client.clients.clientState id = some cs
  notFrozen : H.lightClient.confirmNotFrozen cs = .ok ()

/-- The proof convinces the client `cs` of `value` under `path`; `none` stands for absence. -/
def LightClient.Verifies (L : LightClient CS Cons) (cs : CS) (pfx : CommitmentPrefix)
    (root : CommitmentRoot) (proof : CommitmentProofBytes) (path : Path) : Option Bytes → Prop
  | some value => L.verifyMembership cs pfx proof root path value = .ok ()
  | none => L.verifyNonMembership cs pfx proof root path = .ok ()

/-- The client is usable for proofs at height `h`: it is stored and not frozen, has reached `h`, and
has a consensus state there. -/
structure ProofClient (st : Store CS Cons) (id : ClientId) (h : Height) (client : CS × Cons) :
    Prop where
  active : Active H st id client.1
  height : H.lightClient.validateProofHeight client.1 h = .ok ()
  consensus : st.client.clients.consensusState id h = some client.2

/-- The proof convinces the client of `value` under `path`; `none` stands for absence. -/
def Host.Proves (client : CS × Cons) (pfx : CommitmentPrefix) (proof : CommitmentProofBytes)
    (path : Path) (value : Option Bytes) : Prop :=
  H.lightClient.Verifies client.1 pfx (H.lightClient.root client.2) proof path value

/-- The packet's data and timeouts are hashed to `cm`. -/
def Packet.CommitsTo (lib : Library) (p : Packet) (cm : PacketCommitment) : Prop :=
  p.commitment lib = (.ok cm : Result ContextError PacketCommitment)

/-! ### Connections -/

/-- The connection end under the first hop. -/
def Store.connectionUnder (st : Store CS Cons) (hops : List ConnectionId) : Option ConnectionEnd :=
  hops.head?.bind st.connection.connections

/-- The open connection under `hops`, whose other end is `remote`. -/
structure Route (st : Store CS Cons) (hops : List ConnectionId) (conn : ConnectionEnd)
    (remote : ConnectionId) : Prop where
  under : st.connectionUnder hops = some conn
  isOpen : conn.state = .open
  other : conn.counterparty.connectionId = some remote

/-- What was recorded when the client learnt of height `h` is older than the delay of the
connection, in time and in blocks, with sums that stay in range. -/
def Waited (h : Height) (conn : ConnectionEnd) : Prop :=
  ∃ time height earliest, s.store.client.clientProcessedTimes (conn.clientId, h) = some time ∧
    s.store.client.clientProcessedHeights (conn.clientId, h) = some height ∧
    time.add conn.delayPeriod = some earliest ∧ s.env.hostTimestamp.lt earliest = false ∧
    height.revisionHeight + H.blockDelay conn.delayPeriod < UInt64.size ∧
    (⟨height.revisionNumber, height.revisionHeight + H.blockDelay conn.delayPeriod⟩ : Height) ≤
      s.env.hostHeight

section Pieces

variable {H s} {id : ClientId} {h : Height} {client : CS × Cons} {pfx : CommitmentPrefix}
  {proof : CommitmentProofBytes} {path : Path} {value : Bytes} {conn : ConnectionEnd}
  {hops : List ConnectionId} {remote : ConnectionId} {u : Unit}

theorem connectionEnd_eq_ok {id : ConnectionId} {e : ConnectionEnd} :
    s.connectionEnd id = .ok e ↔ s.store.connection.connections id = some e := Result.okOr_eq_ok

theorem channelEnd_eq_ok {key : ChannelKey} {e : ChannelEnd} :
    s.channelEnd key = .ok e ↔ s.store.channel.channels key = some e := Result.okOr_eq_ok

theorem connectionOfHops_eq_ok {hops : List ConnectionId} {conn : ConnectionEnd} :
    connectionOfHops s hops = .ok conn ↔ s.store.connectionUnder hops = some conn := by
  simp only [connectionOfHops, Result.bind_eq_ok, Result.index_zero_eq_ok, lift_connection_eq_ok,
    Ctx.connectionEnd, Result.okOr_eq_ok, Store.connectionUnder, Option.bind_eq_some_iff]

theorem clientForProof_iff :
    clientForProof H s id h = .ok client ↔ ProofClient H s.store id h client := by
  simp only [clientForProof, Result.bind_eq_ok, lift_client_eq_ok, lift_result_client_eq_ok,
    Ctx.clientState, Ctx.consensusState, Result.okOr_eq_ok, Result.pure_eq_ok]
  constructor
  · rintro ⟨cs, hcs, _, hfrozen, _, hheight, cons, hcons, rfl⟩
    exact ⟨⟨hcs, hfrozen⟩, hheight, hcons⟩
  · intro hc
    exact ⟨_, hc.active.client, (), hc.active.notFrozen, (), hc.height, _, hc.consensus, rfl⟩

theorem verifyConnectionMembership_iff {wrap : ClientError → ConnectionError} :
    verifyConnectionMembership H wrap client pfx proof path value = .ok u ↔
      H.Proves client pfx proof path (some value) := Result.mapError_eq_ok

theorem verifyChannelMembership_iff {wrap : ClientError → ChannelError} :
    verifyChannelMembership H wrap client pfx proof path value = .ok u ↔
      H.Proves client pfx proof path (some value) := Result.mapError_eq_ok

theorem verifyPacketMembership_iff {wrap : ClientError → ChannelError} :
    verifyPacketMembership H wrap client pfx proof path value = .ok u ↔
      H.Proves client pfx proof path (some value) :=
  Result.mapError_eq_ok.trans verifyChannelMembership_iff

theorem verifyPacketNonMembership_iff {wrap : ClientError → ChannelError} :
    verifyPacketNonMembership H wrap client pfx proof path = .ok u ↔
      H.Proves client pfx proof path none := Result.mapError_eq_ok.trans Result.mapError_eq_ok

theorem verifyConnDelayPassed_iff :
    verifyConnDelayPassed H s h conn = .ok u ↔ Waited H s h conn := by
  simp only [verifyConnDelayPassed, Ctx.clientUpdateTime, Ctx.clientUpdateHeight,
    Result.bind_eq_ok, lift_channel_eq_ok, lift_connection_eq_ok, Result.okOr_eq_ok,
    Result.ensure_eq_ok, Height.add_eq_ok, not_lt]
  constructor
  · rintro ⟨time, ht, height, hh, earliest, hadd, _, hlt, _, ⟨rfl, hword⟩, hle⟩
    exact ⟨time, height, earliest, ht, hh, hadd, hlt, hword, hle⟩
  · rintro ⟨time, height, earliest, ht, hh, hadd, hlt, hword, hle⟩
    exact ⟨time, ht, height, hh, earliest, hadd, (), hlt, _, ⟨rfl, hword⟩, hle⟩

theorem counterpartyConnection_iff (hu : s.store.connectionUnder hops = some conn) :
    counterpartyConnection hops conn = .ok remote ↔
      conn.counterparty.connectionId = some remote := by
  cases hops with
  | nil => cases hu
  | cons connId hops =>
    simp [counterpartyConnection, Result.index]

end Pieces

/-! ### The connection handshake -/

/-- `MsgConnectionOpenTry`: the other chain has an end in `init` that names this client, keeps a
client of this chain, and that client has one of its consensus states. -/
structure MsgConnectionOpenTry.Valid (msg : MsgConnectionOpenTry) (connIdOnA : ConnectionId)
    (client : CS × Cons) : Prop where
  signer : H.validateMessageSigner msg.signer = .ok ()
  version : ∃ version, ConnectionVersion.pick H.getCompatibleVersions msg.versionsOnA = .ok version
  counterparty : msg.counterparty.connectionId = some connIdOnA
  selfClient : s.env.validateSelfClient msg.clientStateOfBOnA = .ok ()
  reached : msg.consensusHeightOfBOnA ≤ s.env.hostHeight
  usable : ProofClient H s.store msg.clientIdOnB msg.proofsHeightOnA client
  connEnd : H.Proves client msg.counterparty.pfx msg.proofConnEndOnA (.connection connIdOnA)
    (some (ConnectionEnd.mk .init msg.counterparty.clientId
      ⟨msg.clientIdOnB, none, H.commitmentPrefix⟩ msg.versionsOnA msg.delayPeriod).toRaw.encode)
  clientState : H.Proves client msg.counterparty.pfx msg.proofClientStateOfBOnA
    (.clientState msg.counterparty.clientId) (some msg.clientStateOfBOnA.encode)
  consensusState : ∃ own, s.env.hostConsensusState msg.consensusHeightOfBOnA = .ok own ∧
    H.Proves client msg.counterparty.pfx msg.proofConsensusStateOfBOnA
      (.clientConsensusState msg.counterparty.clientId msg.consensusHeightOfBOnA)
      (some (H.lightClient.encodeVec own))

/-- `MsgConnectionOpenAck`: the same of an end in `tryOpen`, which picked a version of this one. -/
structure MsgConnectionOpenAck.Valid (msg : MsgConnectionOpenAck) (e : ConnectionEnd)
    (client : CS × Cons) : Prop where
  signer : H.validateMessageSigner msg.signer = .ok ()
  connection : s.store.connection.connections msg.connIdOnA = some e
  state : e.state = .init
  version : msg.version.verifyIsSupported e.versions = .ok ()
  selfClient : s.env.validateSelfClient msg.clientStateOfAOnB = .ok ()
  reached : msg.consensusHeightOfAOnB ≤ s.env.hostHeight
  usable : ProofClient H s.store e.clientId msg.proofsHeightOnB client
  connEnd : H.Proves client e.counterparty.pfx msg.proofConnEndOnB (.connection msg.connIdOnB)
    (some (ConnectionEnd.mk .tryOpen e.counterparty.clientId
      ⟨e.clientId, some msg.connIdOnA, H.commitmentPrefix⟩ [msg.version]
      e.delayPeriod).toRaw.encode)
  clientState : H.Proves client e.counterparty.pfx msg.proofClientStateOfAOnB
    (.clientState e.counterparty.clientId) (some msg.clientStateOfAOnB.encode)
  consensusState : ∃ own, s.env.hostConsensusState msg.consensusHeightOfAOnB = .ok own ∧
    H.Proves client e.counterparty.pfx msg.proofConsensusStateOfAOnB
      (.clientConsensusState e.counterparty.clientId msg.consensusHeightOfAOnB)
      (some (H.lightClient.encodeVec own))

/-- `MsgConnectionOpenConfirm`: the end that this one answers is open. -/
structure MsgConnectionOpenConfirm.Valid (msg : MsgConnectionOpenConfirm) (e : ConnectionEnd)
    (connIdOnA : ConnectionId) (client : CS × Cons) : Prop where
  signer : H.validateMessageSigner msg.signer = .ok ()
  connection : s.store.connection.connections msg.connIdOnB = some e
  state : e.state = .tryOpen
  counterparty : e.counterparty.connectionId = some connIdOnA
  version : e.versions.length = 1
  usable : ProofClient H s.store e.clientId msg.proofHeightOnA client
  connEnd : H.Proves client e.counterparty.pfx msg.proofConnEndOnA (.connection connIdOnA)
    (some (ConnectionEnd.mk .open e.counterparty.clientId
      ⟨e.clientId, some msg.connIdOnB, H.commitmentPrefix⟩ e.versions e.delayPeriod).toRaw.encode)

section Connections

variable {H s}

theorem connOpenTryValidate_eq_ok {msg : MsgConnectionOpenTry} :
    connOpenTryValidate H s msg = .ok () ↔
      ∃ connIdOnA client, msg.Valid H s connIdOnA client := by
  simp only [connOpenTryValidate, ConnOpenTryVars.new, verifyConsensusHeight,
    ConnectionCounterparty.requireConnectionId, Result.bind_eq_ok, lift_connection_eq_ok,
    lift_context_eq_ok, ConnectionEnd.new_eq_ok, Result.okOr_eq_ok, Result.pure_eq_ok,
    Result.ensure_eq_ok, not_lt, clientForProof_iff, verifyConnectionMembership_iff]
  constructor
  · rintro ⟨_, ⟨version, hpick, _, ⟨rfl, -⟩, connIdOnA, hid, rfl⟩, _, hsigner, _, hself, _,
      hreached, client, hclient, _, ⟨rfl, -⟩, _, hend, _, hcs, own, hown, hcons⟩
    exact ⟨connIdOnA, client, hsigner, ⟨version, hpick⟩, hid, hself, hreached, hclient, hend, hcs,
      own, hown, hcons⟩
  · rintro ⟨connIdOnA, client, hv⟩
    obtain ⟨version, hpick⟩ := hv.version
    obtain ⟨own, hown, hcons⟩ := hv.consensusState
    exact ⟨_, ⟨version, hpick, _, ⟨rfl, fun _ => rfl⟩, connIdOnA, hv.counterparty, rfl⟩, (),
      hv.signer, (), hv.selfClient, (), hv.reached, client, hv.usable, _,
      ⟨rfl, fun h => absurd rfl h⟩, (), hv.connEnd, (), hv.clientState, own, hown, hcons⟩

/-- What the handler then works with. -/
theorem MsgConnectionOpenTry.Valid.vars {msg : MsgConnectionOpenTry} {connIdOnA : ConnectionId}
    {client : CS × Cons} (hv : msg.Valid H s connIdOnA client) :
    ∃ version, ConnectionVersion.pick H.getCompatibleVersions msg.versionsOnA = .ok version ∧
      ConnOpenTryVars.new H s msg = .ok ⟨.new s.store.connection.connectionIdsCounter,
        ⟨.tryOpen, msg.clientIdOnB, msg.counterparty, [version], msg.delayPeriod⟩,
        msg.counterparty.clientId, connIdOnA⟩ := by
  obtain ⟨version, hpick⟩ := hv.version
  refine ⟨version, hpick, ?_⟩
  simp [ConnOpenTryVars.new, hpick, ConnectionEnd.new, hv.counterparty,
    ConnectionCounterparty.requireConnectionId, pure, Except.pure]

theorem connOpenAckValidate_eq_ok {msg : MsgConnectionOpenAck} :
    connOpenAckValidate H s msg = .ok () ↔ ∃ e client, msg.Valid H s e client := by
  simp only [connOpenAckValidate, verifyConsensusHeight, ConnectionEnd.verifyStateMatches,
    Ctx.connectionEnd, Result.bind_eq_ok, lift_connection_eq_ok, lift_context_eq_ok,
    ConnectionEnd.new_eq_ok, Result.okOr_eq_ok, Result.ensure_eq_ok, not_lt, clientForProof_iff,
    verifyConnectionMembership_iff]
  constructor
  · rintro ⟨e, he, _, hsigner, _, hreached, _, hself, _, hver, _, hs, client, hclient, _, ⟨rfl, -⟩,
      _, hend, _, hcs, own, hown, hcons⟩
    exact ⟨e, client, hsigner, he, hs, hver, hself, hreached, hclient, hend, hcs, own, hown, hcons⟩
  · rintro ⟨e, client, hv⟩
    obtain ⟨own, hown, hcons⟩ := hv.consensusState
    exact ⟨e, hv.connection, (), hv.signer, (), hv.reached, (), hv.selfClient, (), hv.version, (),
      hv.state, client, hv.usable, _, ⟨rfl, fun _ => rfl⟩, (), hv.connEnd, (), hv.clientState, own,
      hown, hcons⟩

theorem connOpenConfirmValidate_eq_ok {msg : MsgConnectionOpenConfirm} :
    connOpenConfirmValidate H s msg = .ok () ↔
      ∃ e connIdOnA client, msg.Valid H s e connIdOnA client := by
  simp only [connOpenConfirmValidate, ConnectionEnd.verifyStateMatches,
    ConnectionCounterparty.requireConnectionId, Ctx.connectionEnd, Result.bind_eq_ok,
    lift_connection_eq_ok, lift_context_eq_ok, ConnectionEnd.new_eq_ok, Result.okOr_eq_ok,
    Result.ensure_eq_ok, clientForProof_iff, verifyConnectionMembership_iff]
  constructor
  · rintro ⟨e, he, _, hsigner, _, hs, connIdOnA, hid, client, hclient, _, ⟨rfl, hlen⟩, hend⟩
    exact ⟨e, connIdOnA, client, hsigner, he, hs, hid, hlen (by simp), hclient, hend⟩
  · rintro ⟨e, connIdOnA, client, hv⟩
    exact ⟨e, hv.connection, (), hv.signer, (), hv.state, connIdOnA, hv.counterparty, client,
      hv.usable, _, ⟨rfl, fun _ => hv.version⟩, hv.connEnd⟩

end Connections

/-! ### The channel handshake -/

/-- The other chain has the channel end `e` under `key`. -/
def Host.ProvesChannel (client : CS × Cons) (conn : ConnectionEnd) (proof : CommitmentProofBytes)
    (key : ChannelKey) (e : ChannelEnd) : Prop :=
  H.Proves client conn.counterparty.pfx proof (.channelEnd key.1 key.2) (some e.toRaw.encode)

/-- `MsgChannelOpenInit`: the connection has one hop, an active client, and a version that knows the
ordering, and the module accepts the proposal. -/
structure MsgChannelOpenInit.Valid (m : Module (Store CS Cons) μ) (msg : MsgChannelOpenInit)
    (conn : ConnectionEnd) (cs : CS) : Prop where
  signer : H.validateMessageSigner msg.signer = .ok ()
  hops : msg.connectionHopsOnA.length = 1
  connection : s.store.connectionUnder msg.connectionHopsOnA = some conn
  active : Active H s.store conn.clientId cs
  feature : ∃ version, conn.versions.head? = some version ∧ msg.ordering.asStr ∈ version.features
  module : ∃ version, m.onChanOpenInitValidate s.store s.app msg.ordering msg.connectionHopsOnA
    msg.portIdOnA (.new s.store.channel.channelIdsCounter) ⟨msg.portIdOnB, none⟩
    msg.versionProposal = .ok version

/-- `MsgChannelOpenTry`: over an open connection, the other chain has an end in `init`. -/
structure MsgChannelOpenTry.Valid (m : Module (Store CS Cons) μ) (msg : MsgChannelOpenTry)
    (conn : ConnectionEnd) (connIdOnA : ConnectionId) (client : CS × Cons) : Prop where
  signer : H.validateMessageSigner msg.signer = .ok ()
  hops : msg.connectionHopsOnB.length = 1
  route : Route s.store msg.connectionHopsOnB conn connIdOnA
  feature : ∃ version, conn.versions.head? = some version ∧ msg.ordering.asStr ∈ version.features
  ordering : msg.ordering ≠ .none
  usable : ProofClient H s.store conn.clientId msg.proofHeightOnA client
  chanEnd : H.ProvesChannel client conn msg.proofChanEndOnA (msg.portIdOnA, msg.chanIdOnA)
    ⟨.init, msg.ordering, ⟨msg.portIdOnB, none⟩, [connIdOnA], msg.versionSupportedOnA⟩
  module : ∃ version, m.onChanOpenTryValidate s.store s.app msg.ordering msg.connectionHopsOnB
    msg.portIdOnB (.new s.store.channel.channelIdsCounter) ⟨msg.portIdOnA, some msg.chanIdOnA⟩
    msg.versionSupportedOnA = .ok version

/-- `MsgChannelOpenAck`: the other chain has an end in `tryOpen` that answers this one. -/
structure MsgChannelOpenAck.Valid (m : Module (Store CS Cons) μ) (msg : MsgChannelOpenAck)
    (e : ChannelEnd) (conn : ConnectionEnd) (connIdOnB : ConnectionId) (client : CS × Cons) :
    Prop where
  signer : H.validateMessageSigner msg.signer = .ok ()
  channel : s.store.channel.channels (msg.portIdOnA, msg.chanIdOnA) = some e
  state : e.state = .init
  ordering : e.ordering ≠ .none
  hops : e.connectionHops.length = 1
  route : Route s.store e.connectionHops conn connIdOnB
  usable : ProofClient H s.store conn.clientId msg.proofHeightOnB client
  chanEnd : H.ProvesChannel client conn msg.proofChanEndOnB (e.remote.portId, msg.chanIdOnB)
    ⟨.tryOpen, e.ordering, ⟨msg.portIdOnA, some msg.chanIdOnA⟩, [connIdOnB], msg.versionOnB⟩
  module : m.onChanOpenAckValidate s.store s.app msg.portIdOnA msg.chanIdOnA msg.versionOnB = .ok ()

/-- `MsgChannelOpenConfirm`: the end that this one answers is open. -/
structure MsgChannelOpenConfirm.Valid (m : Module (Store CS Cons) μ) (msg : MsgChannelOpenConfirm)
    (e : ChannelEnd) (conn : ConnectionEnd) (connIdOnA : ConnectionId) (chanIdOnA : ChannelId)
    (client : CS × Cons) : Prop where
  signer : H.validateMessageSigner msg.signer = .ok ()
  channel : s.store.channel.channels (msg.portIdOnB, msg.chanIdOnB) = some e
  state : e.state = .tryOpen
  ordering : e.ordering ≠ .none
  counterparty : e.remote.channelId = some chanIdOnA
  hops : e.connectionHops.length = 1
  route : Route s.store e.connectionHops conn connIdOnA
  usable : ProofClient H s.store conn.clientId msg.proofHeightOnA client
  chanEnd : H.ProvesChannel client conn msg.proofChanEndOnA (e.remote.portId, chanIdOnA)
    ⟨.open, e.ordering, ⟨msg.portIdOnB, some msg.chanIdOnB⟩, [connIdOnA], e.version⟩
  module : m.onChanOpenConfirmValidate s.store s.app msg.portIdOnB msg.chanIdOnB = .ok ()

/-- `MsgChannelCloseInit`: the end is not closed, and its connection is open. -/
structure MsgChannelCloseInit.Valid (m : Module (Store CS Cons) μ) (msg : MsgChannelCloseInit)
    (e : ChannelEnd) (conn : ConnectionEnd) (cs : CS) : Prop where
  signer : H.validateMessageSigner msg.signer = .ok ()
  channel : s.store.channel.channels (msg.portIdOnA, msg.chanIdOnA) = some e
  notClosed : e.state ≠ .closed
  hops : e.connectionHops.length = 1
  connection : s.store.connectionUnder e.connectionHops = some conn
  connOpen : conn.state = .open
  active : Active H s.store conn.clientId cs
  module : m.onChanCloseInitValidate s.store s.app msg.portIdOnA msg.chanIdOnA = .ok ()

/-- `MsgChannelCloseConfirm`: the other end is closed. -/
structure MsgChannelCloseConfirm.Valid (m : Module (Store CS Cons) μ) (msg : MsgChannelCloseConfirm)
    (e : ChannelEnd) (conn : ConnectionEnd) (connIdOnA : ConnectionId) (chanIdOnA : ChannelId)
    (client : CS × Cons) : Prop where
  signer : H.validateMessageSigner msg.signer = .ok ()
  channel : s.store.channel.channels (msg.portIdOnB, msg.chanIdOnB) = some e
  notClosed : e.state ≠ .closed
  ordering : e.ordering ≠ .none
  counterparty : e.remote.channelId = some chanIdOnA
  route : Route s.store e.connectionHops conn connIdOnA
  usable : ProofClient H s.store conn.clientId msg.proofHeightOnA client
  chanEnd : H.ProvesChannel client conn msg.proofChanEndOnA (e.remote.portId, chanIdOnA)
    ⟨.closed, e.ordering, ⟨msg.portIdOnB, some msg.chanIdOnB⟩, [connIdOnA], e.version⟩
  module : m.onChanCloseConfirmValidate s.store s.app msg.portIdOnB msg.chanIdOnB = .ok ()

/-- What a message of the channel handshake must meet, with the module `m` of its port. -/
def ChannelMsg.Valid (m : Module (Store CS Cons) μ) : ChannelMsg → Prop
  | .openInit msg => ∃ conn cs, msg.Valid H s m conn cs
  | .openTry msg => ∃ conn connIdOnA client, msg.Valid H s m conn connIdOnA client
  | .openAck msg => ∃ e conn connIdOnB client, msg.Valid H s m e conn connIdOnB client
  | .openConfirm msg =>
      ∃ e conn connIdOnA chanIdOnA client, msg.Valid H s m e conn connIdOnA chanIdOnA client
  | .closeInit msg => ∃ e conn cs, msg.Valid H s m e conn cs
  | .closeConfirm msg =>
      ∃ e conn connIdOnA chanIdOnA client, msg.Valid H s m e conn connIdOnA chanIdOnA client

section Channels

variable {H s} {moduleId : ModuleId} {m : Module (Store CS Cons) μ}

theorem verifyChannelEnd_iff {client : CS × Cons} {conn : ConnectionEnd}
    {proof : CommitmentProofBytes} {key : ChannelKey} {e : ChannelEnd} {u : Unit} :
    verifyChannelEnd H client conn.counterparty.pfx proof key e = .ok u ↔
      H.ProvesChannel client conn proof key e := verifyChannelMembership_iff

theorem chanOpenInitValidate_eq_ok {msg : MsgChannelOpenInit}
    (hm : channelRoute H moduleId = .ok m) :
    chanOpenInitValidate H s moduleId msg = .ok () ↔ (ChannelMsg.openInit msg).Valid H s m := by
  simp only [chanOpenInitValidate, chanOpenInitValidateCore, hm, verifyConnectionHopsLength,
    ConnectionVersion.verifyFeatureSupported, Ctx.clientState, Result.bind_eq_ok,
    lift_context_eq_ok, lift_client_eq_ok, lift_result_client_eq_ok, lift_connection_eq_ok,
    lift_channel_eq_ok, Result.ensure_eq_ok, Result.okOr_eq_ok, connectionOfHops_eq_ok,
    Result.index_zero_eq_ok, Result.pure_eq_ok, Except.ok.injEq, exists_eq_left']
  constructor
  · rintro ⟨_, ⟨_, hsigner, _, hhops, conn, hconn, cs, hcs, _, hfrozen, version, hver, hfeature⟩,
      agreed, hmod, -⟩
    exact ⟨conn, cs, hsigner, hhops, hconn, ⟨hcs, hfrozen⟩, ⟨version, hver, hfeature⟩, agreed, hmod⟩
  · rintro ⟨conn, cs, hv⟩
    obtain ⟨version, hver, hfeature⟩ := hv.feature
    obtain ⟨agreed, hmod⟩ := hv.module
    exact ⟨(), ⟨(), hv.signer, (), hv.hops, conn, hv.connection, cs, hv.active.client, (),
      hv.active.notFrozen, version, hver, hfeature⟩, agreed, hmod, trivial⟩

theorem chanOpenTryValidate_eq_ok {msg : MsgChannelOpenTry} (hm : channelRoute H moduleId = .ok m) :
    chanOpenTryValidate H s moduleId msg = .ok () ↔ (ChannelMsg.openTry msg).Valid H s m := by
  simp only [chanOpenTryValidate, chanOpenTryValidateCore, hm, verifyConnectionHopsLength,
    ConnectionEnd.verifyStateMatches, ConnectionVersion.verifyFeatureSupported, Result.bind_eq_ok,
    lift_context_eq_ok, lift_connection_eq_ok, lift_channel_eq_ok, Result.ensure_eq_ok,
    connectionOfHops_eq_ok, Result.index_zero_eq_ok, clientForProof_iff, ChannelEnd.new_eq_ok,
    verifyChannelEnd_iff, Result.pure_eq_ok, Except.ok.injEq, exists_eq_left']
  constructor
  · rintro ⟨_, ⟨_, hsigner, _, hhops, conn, hconn, _, hopen, version, hver, _, hfeature, client,
      hclient, connIdOnA, hid, _, ⟨rfl, -, ho⟩, hend⟩, agreed, hmod, -⟩
    exact ⟨conn, connIdOnA, client, hsigner, hhops,
      ⟨hconn, hopen, (counterpartyConnection_iff hconn).mp hid⟩, ⟨version, hver, hfeature⟩, ho,
      hclient, hend, agreed, hmod⟩
  · rintro ⟨conn, connIdOnA, client, hv⟩
    obtain ⟨version, hver, hfeature⟩ := hv.feature
    obtain ⟨agreed, hmod⟩ := hv.module
    exact ⟨(), ⟨(), hv.signer, (), hv.hops, conn, hv.route.under, (), hv.route.isOpen, version,
      hver, (), hfeature, client, hv.usable, connIdOnA,
      (counterpartyConnection_iff hv.route.under).mpr hv.route.other, _,
      ⟨rfl, by simp, hv.ordering⟩, hv.chanEnd⟩, agreed, hmod, trivial⟩

theorem chanOpenAckValidate_eq_ok {msg : MsgChannelOpenAck} (hm : channelRoute H moduleId = .ok m) :
    chanOpenAckValidate H s moduleId msg = .ok () ↔ (ChannelMsg.openAck msg).Valid H s m := by
  simp only [chanOpenAckValidate, chanOpenAckValidateCore, hm, verifyConnectionHopsLength,
    ChannelEnd.verifyStateMatches, ConnectionEnd.verifyStateMatches, Result.bind_eq_ok,
    lift_context_eq_ok, lift_connection_eq_ok, lift_channel_eq_ok, Result.ensure_eq_ok,
    channelEnd_eq_ok, connectionOfHops_eq_ok, clientForProof_iff, ChannelEnd.new_eq_ok,
    verifyChannelEnd_iff, Except.ok.injEq, exists_eq_left']
  constructor
  · rintro ⟨_, ⟨_, hsigner, e, he, _, hs, _, hhops, conn, hconn, _, hopen, client, hclient,
      connIdOnB, hid, _, ⟨rfl, -, ho⟩, hend⟩, hmod⟩
    exact ⟨e, conn, connIdOnB, client, hsigner, he, hs, ho, hhops,
      ⟨hconn, hopen, (counterpartyConnection_iff hconn).mp hid⟩, hclient, hend, hmod⟩
  · rintro ⟨e, conn, connIdOnB, client, hv⟩
    exact ⟨(), ⟨(), hv.signer, e, hv.channel, (), hv.state, (), hv.hops, conn, hv.route.under, (),
      hv.route.isOpen, client, hv.usable, connIdOnB,
      (counterpartyConnection_iff hv.route.under).mpr hv.route.other, _,
      ⟨rfl, by simp, hv.ordering⟩, hv.chanEnd⟩, hv.module⟩

theorem chanOpenConfirmValidate_eq_ok {msg : MsgChannelOpenConfirm}
    (hm : channelRoute H moduleId = .ok m) : chanOpenConfirmValidate H s moduleId msg = .ok () ↔
      (ChannelMsg.openConfirm msg).Valid H s m := by
  simp only [chanOpenConfirmValidate, chanOpenConfirmValidateCore, hm, verifyConnectionHopsLength,
    ChannelEnd.verifyStateMatches, ConnectionEnd.verifyStateMatches,
    ChannelEnd.requireCounterpartyChannel, Result.bind_eq_ok, lift_context_eq_ok,
    lift_connection_eq_ok, lift_channel_eq_ok, Result.ensure_eq_ok, Result.okOr_eq_ok,
    channelEnd_eq_ok, connectionOfHops_eq_ok, clientForProof_iff, ChannelEnd.new_eq_ok,
    verifyChannelEnd_iff, Except.ok.injEq, exists_eq_left']
  constructor
  · rintro ⟨_, ⟨_, hsigner, e, he, _, hs, _, hhops, conn, hconn, _, hopen, client, hclient,
      chanIdOnA, hchan, connIdOnA, hid, _, ⟨rfl, -, ho⟩, hend⟩, hmod⟩
    exact ⟨e, conn, connIdOnA, chanIdOnA, client, hsigner, he, hs, ho, hchan, hhops,
      ⟨hconn, hopen, (counterpartyConnection_iff hconn).mp hid⟩, hclient, hend, hmod⟩
  · rintro ⟨e, conn, connIdOnA, chanIdOnA, client, hv⟩
    exact ⟨(), ⟨(), hv.signer, e, hv.channel, (), hv.state, (), hv.hops, conn, hv.route.under, (),
      hv.route.isOpen, client, hv.usable, chanIdOnA, hv.counterparty, connIdOnA,
      (counterpartyConnection_iff hv.route.under).mpr hv.route.other, _,
      ⟨rfl, by simp, hv.ordering⟩, hv.chanEnd⟩, hv.module⟩

theorem chanCloseInitValidate_eq_ok {msg : MsgChannelCloseInit}
    (hm : channelRoute H moduleId = .ok m) : chanCloseInitValidate H s moduleId msg = .ok () ↔
      (ChannelMsg.closeInit msg).Valid H s m := by
  simp only [chanCloseInitValidate, chanCloseInitValidateCore, hm, verifyConnectionHopsLength,
    ChannelEnd.verifyNotClosed, ConnectionEnd.verifyStateMatches, Ctx.clientState,
    Result.bind_eq_ok, lift_context_eq_ok, lift_client_eq_ok, lift_result_client_eq_ok,
    lift_connection_eq_ok, lift_channel_eq_ok, Result.ensure_eq_ok, Result.okOr_eq_ok,
    channelEnd_eq_ok, connectionOfHops_eq_ok, Except.ok.injEq, exists_eq_left']
  constructor
  · rintro ⟨_, ⟨_, hsigner, e, he, _, hs, _, hhops, conn, hconn, _, hopen, cs, hcs, hfrozen⟩, hmod⟩
    exact ⟨e, conn, cs, hsigner, he, hs, hhops, hconn, hopen, ⟨hcs, hfrozen⟩, hmod⟩
  · rintro ⟨e, conn, cs, hv⟩
    exact ⟨(), ⟨(), hv.signer, e, hv.channel, (), hv.notClosed, (), hv.hops, conn, hv.connection,
      (), hv.connOpen, cs, hv.active.client, hv.active.notFrozen⟩, hv.module⟩

theorem chanCloseConfirmValidate_eq_ok {msg : MsgChannelCloseConfirm}
    (hm : channelRoute H moduleId = .ok m) : chanCloseConfirmValidate H s moduleId msg = .ok () ↔
      (ChannelMsg.closeConfirm msg).Valid H s m := by
  simp only [chanCloseConfirmValidate, chanCloseConfirmValidateCore, hm,
    ChannelEnd.verifyNotClosed, ConnectionEnd.verifyStateMatches,
    ChannelEnd.requireCounterpartyChannel, Result.bind_eq_ok, lift_context_eq_ok,
    lift_connection_eq_ok, lift_channel_eq_ok, Result.ensure_eq_ok, Result.okOr_eq_ok,
    channelEnd_eq_ok, connectionOfHops_eq_ok, clientForProof_iff, ChannelEnd.new_eq_ok,
    verifyChannelEnd_iff, Except.ok.injEq, exists_eq_left']
  constructor
  · rintro ⟨_, ⟨_, hsigner, e, he, _, hs, conn, hconn, _, hopen, client, hclient, chanIdOnA, hchan,
      connIdOnA, hid, _, ⟨rfl, -, ho⟩, hend⟩, hmod⟩
    exact ⟨e, conn, connIdOnA, chanIdOnA, client, hsigner, he, hs, ho, hchan,
      ⟨hconn, hopen, (counterpartyConnection_iff hconn).mp hid⟩, hclient, hend, hmod⟩
  · rintro ⟨e, conn, connIdOnA, chanIdOnA, client, hv⟩
    exact ⟨(), ⟨(), hv.signer, e, hv.channel, (), hv.notClosed, conn, hv.route.under, (),
      hv.route.isOpen, client, hv.usable, chanIdOnA, hv.counterparty, connIdOnA,
      (counterpartyConnection_iff hv.route.under).mpr hv.route.other, _,
      ⟨rfl, by simp, hv.ordering⟩, hv.chanEnd⟩, hv.module⟩

theorem ChannelMsg.validate_eq_ok {msg : ChannelMsg} (hm : channelRoute H moduleId = .ok m) :
    msg.validate H s moduleId = .ok () ↔ msg.Valid H s m := by
  cases msg with
  | openInit msg => exact chanOpenInitValidate_eq_ok hm
  | openTry msg => exact chanOpenTryValidate_eq_ok hm
  | openAck msg => exact chanOpenAckValidate_eq_ok hm
  | openConfirm msg => exact chanOpenConfirmValidate_eq_ok hm
  | closeInit msg => exact chanCloseInitValidate_eq_ok hm
  | closeConfirm msg => exact chanCloseConfirmValidate_eq_ok hm

theorem lookupModule_eq_ok {port : PortId} :
    lookupModule H port = .ok moduleId ↔ H.lookupModuleByPort port = some moduleId :=
  Result.okOr_eq_ok

theorem moduleOf_eq {port : PortId} {m : Module (Store CS Cons) μ}
    (hl : H.lookupModuleByPort port = some moduleId) (hm : channelRoute H moduleId = .ok m) :
    H.moduleOf port = some m := by
  rw [channelRoute, Result.okOr_eq_ok] at hm
  rw [Host.moduleOf, hl, Option.bind_some, hm]

/-- Validation of a channel message ends by asking the module behind the port. -/
theorem ChannelMsg.valid_of_validate (msg : ChannelMsg) (hv : msg.validate H s moduleId = .ok ()) :
    ∃ m, channelRoute H moduleId = .ok m ∧ msg.Valid H s m := by
  have hroute : ∃ m, channelRoute H moduleId = .ok m := by
    cases msg <;>
      simp only [validate, chanOpenInitValidate, chanOpenTryValidate, chanOpenAckValidate,
        chanOpenConfirmValidate, chanCloseInitValidate, chanCloseConfirmValidate,
        Result.bind_eq_ok, lift_channel_eq_ok] at hv <;>
      obtain ⟨_, _, m, hm, _⟩ := hv <;>
      exact ⟨m, hm⟩
  obtain ⟨m, hm⟩ := hroute
  exact ⟨m, hm, (msg.validate_eq_ok hm).mp hv⟩

theorem validate_channel_eq_ok {msg : ChannelMsg} : validate H s (.channel msg) = .ok () ↔
    ∃ m, H.moduleOf msg.localPort = some m ∧ msg.Valid H s m := by
  simp only [validate, lookupModuleChannel, Result.bind_eq_ok, lift_channel_eq_ok,
    lookupModule_eq_ok]
  constructor
  · rintro ⟨id, hl, hv⟩
    obtain ⟨m, hm, hv⟩ := msg.valid_of_validate hv
    exact ⟨m, moduleOf_eq hl hm, hv⟩
  · rintro ⟨m, hm, hv⟩
    obtain ⟨id, hl, hm⟩ := Option.bind_eq_some_iff.mp hm
    exact ⟨id, hl, (msg.validate_eq_ok (Result.okOr_eq_ok.mpr hm)).mpr hv⟩

end Channels

/-! ### Packets -/

/-- Sending: the channel and its client are there, the packet is the next one, and it is not timed
out at what the client knows. -/
structure Packet.Sendable (p : Packet) (e : ChannelEnd) (conn : ConnectionEnd)
    (client : CS × Cons) : Prop where
  channel : s.store.channel.channels p.chanOnA = some e
  notClosed : e.state ≠ .closed
  remote : e.remote = ⟨p.portIdOnB, some p.chanIdOnB⟩
  connection : s.store.connectionUnder e.connectionHops = some conn
  active : Active H s.store conn.clientId client.1
  consensus : s.store.client.clients.consensusState conn.clientId
    (H.lightClient.latestHeight client.1) = some client.2
  height : p.timeoutHeightOnB.hasExpired (H.lightClient.latestHeight client.1) = false
  timestamp : (H.lightClient.timestamp client.2).checkExpiry p.timeoutTimestampOnB ≠ .expired
  next : s.store.channel.nextSequenceSend p.chanOnA = some p.seqOnA

/-- What is stored for the sequence of a packet that may be received: no acknowledgement, unless a
later packet of an ordered channel is expected. -/
def ChannelStore.Expects (c : ChannelStore) (ordering : Order) (p : Packet) : Prop :=
  if ordering = .ordered then
    ∃ n, c.nextSequenceRecv p.chanOnB = some n ∧ p.seqOnA ≤ n ∧
      (p.seqOnA = n → c.packetAcknowledgement p.keyOnB = none)
  else c.packetAcknowledgement p.keyOnB = none

/-- `MsgRecvPacket`: the channel is open, the timeout has not passed here, the delay has, and the
other chain has the packet's commitment. -/
structure MsgRecvPacket.Valid (msg : MsgRecvPacket) (e : ChannelEnd) (conn : ConnectionEnd)
    (client : CS × Cons) : Prop where
  signer : H.validateMessageSigner msg.signer = .ok ()
  channel : s.store.channel.channels msg.packet.chanOnB = some e
  state : e.state = .open
  remote : e.remote = ⟨msg.packet.portIdOnA, some msg.packet.chanIdOnA⟩
  connection : s.store.connectionUnder e.connectionHops = some conn
  connOpen : conn.state = .open
  height : msg.packet.timeoutHeightOnB.hasExpired s.env.hostHeight = false
  timestamp : s.env.hostTimestamp.checkExpiry msg.packet.timeoutTimestampOnB ≠ .expired
  usable : ProofClient H s.store conn.clientId msg.proofHeightOnA client
  delay : Waited H s msg.proofHeightOnA conn
  sent : ∃ cm, msg.packet.CommitsTo H.library cm ∧
    H.Proves client conn.counterparty.pfx msg.proofCommitmentOnA
      (.commitment msg.packet.portIdOnA msg.packet.chanIdOnA msg.packet.seqOnA) (some cm.bytes)
  expected : s.store.channel.Expects e.ordering msg.packet

/-- `MsgAcknowledgement`, for a packet whose commitment `cm` is stored: the channel is open, the
delay has passed, and the other chain has the acknowledgement. -/
structure MsgAcknowledgement.Valid (m : Module (Store CS Cons) μ) (msg : MsgAcknowledgement)
    (cm : PacketCommitment) (e : ChannelEnd) (conn : ConnectionEnd) (client : CS × Cons) :
    Prop where
  signer : H.validateMessageSigner msg.signer = .ok ()
  channel : s.store.channel.channels msg.packet.chanOnA = some e
  state : e.state = .open
  remote : e.remote = ⟨msg.packet.portIdOnB, some msg.packet.chanIdOnB⟩
  connection : s.store.connectionUnder e.connectionHops = some conn
  connOpen : conn.state = .open
  commits : msg.packet.CommitsTo H.library cm
  sequence : e.ordering = .ordered →
    s.store.channel.nextSequenceAck msg.packet.chanOnA = some msg.packet.seqOnA
  usable : ProofClient H s.store conn.clientId msg.proofHeightOnB client
  delay : Waited H s msg.proofHeightOnB conn
  acked : H.Proves client conn.counterparty.pfx msg.proofAckedOnB
    (.ack msg.packet.portIdOnB msg.packet.chanIdOnB msg.packet.seqOnA)
    (some (computeAckCommitment H.library msg.acknowledgement).bytes)
  module : m.onAcknowledgementPacketValidate s.store s.app msg.packet msg.acknowledgement
    msg.signer = .ok ()

/-- The proof that a packet was not received: the next sequence of the other end, which has to be
the packet's own, or the absence of a receipt. -/
def Host.ProvesUnreceived (client : CS × Cons) (conn : ConnectionEnd) (ordering : Order)
    (p : Packet) (nextSeqRecvOnB : Sequence) (proof : CommitmentProofBytes) : Prop :=
  if ordering = .ordered then
    nextSeqRecvOnB ≤ p.seqOnA ∧ H.Proves client conn.counterparty.pfx proof
      (.seqRecv p.portIdOnB p.chanIdOnB) (some (encodeU64 p.seqOnA))
  else
    H.Proves client conn.counterparty.pfx proof (.receipt p.portIdOnB p.chanIdOnB p.seqOnA) none

/-- `MsgTimeout`, for a packet whose commitment `cm` is stored: the channel is open, the timeout has
passed on the other chain, the delay has passed here, and the packet was not received. -/
structure MsgTimeout.Valid (m : Module (Store CS Cons) μ) (msg : MsgTimeout) (cm : PacketCommitment)
    (e : ChannelEnd) (conn : ConnectionEnd) (client : CS × Cons) : Prop where
  signer : H.validateMessageSigner msg.signer = .ok ()
  channel : s.store.channel.channels msg.packet.chanOnA = some e
  state : e.state = .open
  remote : e.remote = ⟨msg.packet.portIdOnB, some msg.packet.chanIdOnB⟩
  connection : s.store.connectionUnder e.connectionHops = some conn
  commits : msg.packet.CommitsTo H.library cm
  usable : ProofClient H s.store conn.clientId msg.proofHeightOnB client
  late : msg.packet.timedOut (H.lightClient.timestamp client.2) msg.proofHeightOnB = true
  delay : Waited H s msg.proofHeightOnB conn
  unreceived : H.ProvesUnreceived client conn e.ordering msg.packet msg.nextSeqRecvOnB
    msg.proofUnreceivedOnB
  module : m.onTimeoutPacketValidate s.store s.app msg.packet msg.signer = .ok ()

/-- `MsgTimeoutOnClose`, for a packet whose commitment `cm` is stored: the other end is closed and
the packet was not received, both by the proof of non-receipt. -/
structure MsgTimeoutOnClose.Valid (m : Module (Store CS Cons) μ) (msg : MsgTimeoutOnClose)
    (cm : PacketCommitment) (e : ChannelEnd) (conn : ConnectionEnd) (connIdOnB : ConnectionId)
    (client : CS × Cons) : Prop where
  signer : H.validateMessageSigner msg.signer = .ok ()
  channel : s.store.channel.channels msg.packet.chanOnA = some e
  ordering : e.ordering ≠ .none
  remote : e.remote = ⟨msg.packet.portIdOnB, some msg.packet.chanIdOnB⟩
  connection : s.store.connectionUnder e.connectionHops = some conn
  other : conn.counterparty.connectionId = some connIdOnB
  commits : msg.packet.CommitsTo H.library cm
  usable : ProofClient H s.store conn.clientId msg.proofHeightOnB client
  closed : H.ProvesChannel client conn msg.proofUnreceivedOnB msg.packet.chanOnB
    ⟨.closed, e.ordering, ⟨msg.packet.portIdOnA, some msg.packet.chanIdOnA⟩, [connIdOnB], e.version⟩
  delay : Waited H s msg.proofHeightOnB conn
  unreceived : H.ProvesUnreceived client conn e.ordering msg.packet msg.nextSeqRecvOnB
    msg.proofUnreceivedOnB
  module : m.onTimeoutPacketValidate s.store s.app msg.packet msg.signer = .ok ()

section Packets

variable {H s} {moduleId : ModuleId} {m : Module (Store CS Cons) μ} {cm : PacketCommitment}

theorem sendPacketValidate_eq_ok {p : Packet} :
    sendPacketValidate H s p = .ok () ↔ ∃ e conn client, p.Sendable H s e conn client := by
  simp only [sendPacketValidate, ChannelEnd.verifyNotClosed, ChannelEnd.verifyCounterpartyMatches,
    Ctx.clientState, Ctx.consensusState, Ctx.getNextSequenceSend, Result.bind_eq_ok,
    lift_client_eq_ok, lift_result_client_eq_ok, lift_channel_eq_ok, lift_packet_eq_ok,
    Result.ensure_eq_ok, Result.okOr_eq_ok, channelEnd_eq_ok, connectionOfHops_eq_ok]
  constructor
  · rintro ⟨e, he, _, hs, _, hr, conn, hconn, cs, hcs, _, hfrozen, _, hheight, cons, hcons, _,
      htime, _, hn, rfl⟩
    exact ⟨e, conn, (cs, cons), he, hs, hr, hconn, ⟨hcs, hfrozen⟩, hcons, hheight, htime, hn⟩
  · rintro ⟨e, conn, client, hv⟩
    exact ⟨e, hv.channel, (), hv.notClosed, (), hv.remote, conn, hv.connection, _, hv.active.client,
      (), hv.active.notFrozen, (), hv.height, _, hv.consensus, (), hv.timestamp, _, hv.next, rfl⟩

theorem validateWriteAcknowledgement_eq_ok {p : Packet} :
    validateWriteAcknowledgement s p = .ok () ↔
      s.store.channel.packetAcknowledgement p.keyOnB = none := by
  unfold validateWriteAcknowledgement Ctx.getPacketAcknowledgement
  cases s.store.channel.packetAcknowledgement p.keyOnB <;> simp

/-- Both outcomes of the lookup under the ids of the sending end are accepted. -/
theorem validateReceiptLookup_ok {p : Packet} : validateReceiptLookup s p = .ok () := by
  unfold validateReceiptLookup Ctx.getPacketReceipt
  cases s.store.channel.packetReceipt p.keyOnA <;> simp [Packet.keyOnA]

theorem recvPacketValidate_eq_ok {msg : MsgRecvPacket} :
    recvPacketValidate H s msg = .ok () ↔ ∃ e conn client, msg.Valid H s e conn client := by
  simp only [recvPacketValidate, ChannelEnd.verifyStateMatches,
    ChannelEnd.verifyCounterpartyMatches, ConnectionEnd.verifyStateMatches, Result.bind_eq_ok,
    lift_context_eq_ok, lift_connection_eq_ok, lift_channel_eq_ok, lift_packet_eq_ok,
    Result.ensure_eq_ok, channelEnd_eq_ok, connectionOfHops_eq_ok, clientForProof_iff,
    verifyConnDelayPassed_iff, verifyPacketMembership_iff]
  constructor
  · rintro ⟨_, hsigner, e, he, _, hs, _, hr, conn, hconn, _, hopen, _, hheight, _, htime, client,
      hclient, cm, hcm, _, hdelay, _, hproof, hseq⟩
    refine ⟨e, conn, client, hsigner, he, hs, hr, hconn, hopen, hheight, htime, hclient, hdelay,
      ⟨cm, hcm, hproof⟩, ?_⟩
    unfold ChannelStore.Expects
    split_ifs at hseq ⊢ with ho
    · simp only [Result.bind_eq_ok, lift_packet_eq_ok, Ctx.getNextSequenceRecv, Result.okOr_eq_ok,
        Result.ensure_eq_ok, not_lt] at hseq
      obtain ⟨n, hn, _, hle, hack⟩ := hseq
      refine ⟨n, hn, hle, fun heq => ?_⟩
      rw [if_pos heq, lift_packet_eq_ok] at hack
      exact validateWriteAcknowledgement_eq_ok.mp hack
    · simp only [Result.bind_eq_ok, lift_packet_eq_ok] at hseq
      obtain ⟨_, _, hack⟩ := hseq
      exact validateWriteAcknowledgement_eq_ok.mp hack
  · rintro ⟨e, conn, client, hv⟩
    obtain ⟨cm, hcm, hproof⟩ := hv.sent
    refine ⟨(), hv.signer, e, hv.channel, (), hv.state, (), hv.remote, conn, hv.connection, (),
      hv.connOpen, (), hv.height, (), hv.timestamp, client, hv.usable, cm, hcm, (), hv.delay, (),
      hproof, ?_⟩
    have hexp := hv.expected
    unfold ChannelStore.Expects at hexp
    split_ifs at hexp ⊢ with ho
    · simp only [Result.bind_eq_ok, lift_packet_eq_ok, Ctx.getNextSequenceRecv, Result.okOr_eq_ok,
        Result.ensure_eq_ok, not_lt]
      obtain ⟨n, hn, hle, hack⟩ := hexp
      refine ⟨n, hn, (), hle, ?_⟩
      split_ifs with heq
      · exact lift_packet_eq_ok.mpr (validateWriteAcknowledgement_eq_ok.mpr (hack heq))
      · rfl
    · simp only [Result.bind_eq_ok, lift_packet_eq_ok]
      exact ⟨(), validateReceiptLookup_ok, validateWriteAcknowledgement_eq_ok.mpr hexp⟩

theorem verifyCommitment_iff {p : Packet} {u : Unit} :
    verifyCommitment H p cm = .ok u ↔ p.CommitsTo H.library cm := by
  simp [verifyCommitment, Packet.CommitsTo, Result.bind_eq_ok]

theorem verifyAckSequence_iff {p : Packet} {ordering : Order} {u : Unit} :
    verifyAckSequence s ordering p = .ok u ↔
      (ordering = .ordered → s.store.channel.nextSequenceAck p.chanOnA = some p.seqOnA) := by
  unfold verifyAckSequence
  split_ifs with ho
  · simp [ho, Result.bind_eq_ok, Ctx.getNextSequenceAck]
  · simp [ho]

theorem verifyUnreceived_iff {client : CS × Cons} {conn : ConnectionEnd} {ordering : Order}
    {p : Packet} {nextSeq : Sequence} {proof : CommitmentProofBytes} {u : Unit} :
    verifyUnreceived H client conn ordering p nextSeq proof = .ok u ↔
      H.ProvesUnreceived client conn ordering p nextSeq proof := by
  unfold verifyUnreceived Host.ProvesUnreceived
  split_ifs with ho
  · simp [Result.bind_eq_ok, verifyPacketMembership_iff]
  · exact verifyPacketNonMembership_iff

theorem acknowledgementPacketValidate_eq_ok {msg : MsgAcknowledgement}
    (hm : channelRoute H moduleId = .ok m)
    (hcm : s.store.channel.packetCommitment msg.packet.keyOnA = some cm) :
    acknowledgementPacketValidate H s moduleId msg = .ok () ↔
      ∃ e conn client, msg.Valid H s m cm e conn client := by
  simp only [acknowledgementPacketValidate, acknowledgementPacketValidateCore, hm,
    Ctx.getPacketCommitment, hcm, Result.okOr_some, ChannelEnd.verifyStateMatches,
    ChannelEnd.verifyCounterpartyMatches, ConnectionEnd.verifyStateMatches, Result.bind_eq_ok,
    lift_context_eq_ok, lift_connection_eq_ok, lift_channel_eq_ok, lift_packet_eq_ok,
    Result.ensure_eq_ok, channelEnd_eq_ok, connectionOfHops_eq_ok, clientForProof_iff,
    verifyConnDelayPassed_iff, verifyPacketMembership_iff, verifyCommitment_iff,
    verifyAckSequence_iff, Except.ok.injEq, exists_eq_left']
  constructor
  · rintro ⟨_, ⟨_, hsigner, e, he, _, hs, _, hr, conn, hconn, _, hopen, _, hcommits, _, hseq,
      client, hclient, _, hdelay, hproof⟩, hmod⟩
    exact ⟨e, conn, client, hsigner, he, hs, hr, hconn, hopen, hcommits, hseq, hclient, hdelay,
      hproof, hmod⟩
  · rintro ⟨e, conn, client, hv⟩
    exact ⟨(), ⟨(), hv.signer, e, hv.channel, (), hv.state, (), hv.remote, conn, hv.connection, (),
      hv.connOpen, (), hv.commits, (), hv.sequence, client, hv.usable, (), hv.delay, hv.acked⟩,
      hv.module⟩

theorem timeoutPacketValidate_eq_ok {msg : MsgTimeout} (hm : channelRoute H moduleId = .ok m)
    (hcm : s.store.channel.packetCommitment msg.packet.keyOnA = some cm) :
    timeoutPacketValidate H s moduleId (.timeout msg) = .ok () ↔
      ∃ e conn client, msg.Valid H s m cm e conn client := by
  simp only [timeoutPacketValidate, TimeoutMsgType.validateCore, TimeoutMsgType.packet,
    TimeoutMsgType.signer, timeoutValidate, verifyTimedOut, hm, Ctx.getPacketCommitment, hcm,
    Result.okOr_some, ChannelEnd.verifyStateMatches, ChannelEnd.verifyCounterpartyMatches,
    Result.bind_eq_ok, lift_context_eq_ok, lift_channel_eq_ok, lift_packet_eq_ok,
    Result.ensure_eq_ok, channelEnd_eq_ok, connectionOfHops_eq_ok, clientForProof_iff,
    verifyConnDelayPassed_iff, verifyCommitment_iff, verifyUnreceived_iff, Except.ok.injEq,
    exists_eq_left']
  constructor
  · rintro ⟨_, ⟨_, hsigner, e, he, _, hs, _, hr, conn, hconn, _, hcommits, client, hclient, _,
      hlate, _, hdelay, hun⟩, hmod⟩
    exact ⟨e, conn, client, hsigner, he, hs, hr, hconn, hcommits, hclient, hlate, hdelay, hun, hmod⟩
  · rintro ⟨e, conn, client, hv⟩
    exact ⟨(), ⟨(), hv.signer, e, hv.channel, (), hv.state, (), hv.remote, conn, hv.connection, (),
      hv.commits, client, hv.usable, (), hv.late, (), hv.delay, hv.unreceived⟩, hv.module⟩

theorem timeoutOnClosePacketValidate_eq_ok {msg : MsgTimeoutOnClose}
    (hm : channelRoute H moduleId = .ok m)
    (hcm : s.store.channel.packetCommitment msg.packet.keyOnA = some cm) :
    timeoutPacketValidate H s moduleId (.timeoutOnClose msg) = .ok () ↔
      ∃ e conn connIdOnB client, msg.Valid H s m cm e conn connIdOnB client := by
  simp only [timeoutPacketValidate, TimeoutMsgType.validateCore, TimeoutMsgType.packet,
    TimeoutMsgType.signer, timeoutOnCloseValidate, hm, Ctx.getPacketCommitment, hcm,
    Result.okOr_some, ChannelEnd.verifyCounterpartyMatches, counterpartyIdsForPacket,
    Result.bind_eq_ok, lift_context_eq_ok, lift_channel_eq_ok, lift_packet_eq_ok,
    Result.ensure_eq_ok, Result.okOr_eq_ok, Result.pure_eq_ok, channelEnd_eq_ok,
    connectionOfHops_eq_ok, clientForProof_iff, ChannelEnd.new_eq_ok, verifyConnDelayPassed_iff,
    verifyPacketMembership_iff, verifyCommitment_iff, verifyUnreceived_iff, Except.ok.injEq,
    exists_eq_left']
  constructor
  · rintro ⟨_, ⟨_, hsigner, e, he, _, hr, _, hcommits, conn, hconn, client, hclient, _,
      ⟨chanIdOnB, hchan, _, _, connIdOnB, hid, rfl⟩, _, ⟨rfl, -, ho⟩, _, hclosed, _, hdelay, hun⟩,
      hmod⟩
    rw [hr] at hchan hclosed
    cases hchan
    exact ⟨e, conn, connIdOnB, client, hsigner, he, ho, hr, hconn, hid, hcommits, hclient, hclosed,
      hdelay, hun, hmod⟩
  · rintro ⟨e, conn, connIdOnB, client, hv⟩
    obtain ⟨connId, hhead, -⟩ := Option.bind_eq_some_iff.mp hv.connection
    refine ⟨(), ⟨(), hv.signer, e, hv.channel, (), hv.remote, (), hv.commits, conn, hv.connection,
      client, hv.usable, _, ⟨msg.packet.chanIdOnB, by rw [hv.remote], connId,
      Result.index_zero_eq_ok.mpr hhead, connIdOnB, hv.other, rfl⟩, _, ⟨rfl, by simp, hv.ordering⟩,
      (), ?_, (), hv.delay, hv.unreceived⟩, hv.module⟩
    rw [hv.remote]
    exact hv.closed

/-- Validation of an acknowledgement ends by asking the module, also if there is nothing to do. -/
theorem acknowledgement_route {msg : MsgAcknowledgement}
    (hv : acknowledgementPacketValidate H s moduleId msg = .ok ()) :
    ∃ m, channelRoute H moduleId = .ok m := by
  simp only [acknowledgementPacketValidate, Result.bind_eq_ok, lift_channel_eq_ok] at hv
  obtain ⟨_, _, m, hm, _⟩ := hv
  exact ⟨m, hm⟩

theorem timeout_route {msg : TimeoutMsgType}
    (hv : timeoutPacketValidate H s moduleId msg = .ok ()) :
    ∃ m, channelRoute H moduleId = .ok m := by
  simp only [timeoutPacketValidate, Result.bind_eq_ok, lift_channel_eq_ok] at hv
  obtain ⟨_, _, m, hm, _⟩ := hv
  exact ⟨m, hm⟩

/-- Validation and execution look up the same module. -/
theorem lookupModule_ensures {port : PortId} {check : ModuleId → Result ContextError Unit}
    {f : ModuleId → Handler CS Cons μ Unit}
    {Q : Result ContextError Unit → Ctx CS Cons μ → Prop}
    (hv : (liftM (lookupModule H port) >>= check) = .ok ())
    (h : ∀ id, H.lookupModuleByPort port = some id → check id = .ok () → Ensures (f id) s Q) :
    Ensures (liftM (lookupModule H port) >>= f) s Q := by
  obtain ⟨id, hl, hv⟩ := Result.bind_eq_ok.mp hv
  rw [lift_channel_eq_ok] at hl
  exact Ensures.ofExcept_ok_bind hl (h id (lookupModule_eq_ok.mp hl) hv)

end Packets

end Ibc
