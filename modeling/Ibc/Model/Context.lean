import Ibc.Model.Msgs
import Ibc.Support.Nearest
import Mathlib.Logic.Function.Basic
import Mathlib.Tactic.Simps.Basic

/-!
# The host: its store, its light clients and its modules

`Store` is the provable state a host keeps for the core, in three parts (clients, connections,
channels), each a record of finite maps and of the counter that numbers new entries. A map is a
function to `Option`; the consensus states of a client are a finite map, because the neighbours of
a height are searched among its keys.

`Ctx` adds what is not proved to anyone: the application state, the host's clock, events, logs, and
`history`, which records the packets sent and the packet callbacks run. No handler reads the
history.

`Host` collects what a host supplies and what comes from other libraries: the light client, the
application modules, and hashing. The three outcomes of a store operation of the source
(it finds an entry, it reports a missing one, it fails) are two here: a host's single store
operations do not fail.
-/

namespace Ibc

/-! ### Store -/

/-- A channel end is kept under its port and its identifier. -/
abbrev ChannelKey := PortId × ChannelId

/-- Packet data is kept under port, channel and sequence. -/
abbrev PacketKey := PortId × ChannelId × Sequence

/-- What is stored of one client. -/
structure ClientRecord (CS Cons : Type) where
  clientState : Option CS
  consensusStates : AList fun _ : Height => Cons

/-- All client records. -/
abbrev Clients (CS Cons : Type) := ClientId → Option (ClientRecord CS Cons)

/-- The client records, when each height was learnt, and the counter. -/
structure ClientStore (CS Cons : Type) where
  clients : Clients CS Cons
  clientProcessedTimes : ClientId × Height → Option Timestamp
  clientProcessedHeights : ClientId × Height → Option Height
  clientIdsCounter : ℕ

/-- The connection ends, the connection of each client, and the counter. -/
structure ConnectionStore where
  clientConnections : ClientId → Option ConnectionId
  connections : ConnectionId → Option ConnectionEnd
  connectionIdsCounter : ℕ

/-- The channel ends, their sequences, what is kept of packets, and the counter. -/
structure ChannelStore where
  channels : ChannelKey → Option ChannelEnd
  nextSequenceSend : ChannelKey → Option Sequence
  nextSequenceRecv : ChannelKey → Option Sequence
  nextSequenceAck : ChannelKey → Option Sequence
  packetCommitment : PacketKey → Option PacketCommitment
  packetReceipt : PacketKey → Option Receipt
  packetAcknowledgement : PacketKey → Option AcknowledgementCommitment
  channelIdsCounter : ℕ

/-- The three parts of the provable state. -/
structure Store (CS Cons : Type) where
  client : ClientStore CS Cons
  connection : ConnectionStore
  channel : ChannelStore

section Clients

variable {CS Cons : Type}

namespace Clients

/-- The client state, if there is one. -/
def clientState (c : Clients CS Cons) (id : ClientId) : Option CS := (c id).bind (·.clientState)

/-- The consensus state at a height, if there is one. -/
def consensusState (c : Clients CS Cons) (id : ClientId) (h : Height) : Option Cons :=
  (c id).bind (·.consensusStates.lookup h)

/-- The record of a client, made empty when it is first written to. -/
def recordOrNew (c : Clients CS Cons) (id : ClientId) : ClientRecord CS Cons :=
  (c id).getD ⟨none, ∅⟩

/-- A client state is stored. -/
def storeClientState (id : ClientId) (cs : CS) (c : Clients CS Cons) : Clients CS Cons :=
  Function.update c id (some { c.recordOrNew id with clientState := some cs })

/-- A consensus state is added, or replaced. -/
def storeConsensusState (id : ClientId) (h : Height) (cons : Cons) (c : Clients CS Cons) :
    Clients CS Cons :=
  Function.update c id (some { c.recordOrNew id with
    consensusStates := (c.recordOrNew id).consensusStates.insert h cons })

/-- The consensus state at the nearest stored height above `h`. -/
def nextConsensusState (c : Clients CS Cons) (id : ClientId) (h : Height) :
    Except ClientError (Option Cons) :=
  match c id with
  | some r => .ok (r.consensusStates.next h)
  | none => .error (.clientStateNotFound id)

/-- The consensus state at the nearest stored height below `h`. -/
def prevConsensusState (c : Clients CS Cons) (id : ClientId) (h : Height) :
    Except ClientError (Option Cons) :=
  match c id with
  | some r => .ok (r.consensusStates.prev h)
  | none => .error (.clientStateNotFound id)

section Lemmas

variable {c : Clients CS Cons} {id id' : ClientId} {h h' : Height} {cs : CS} {cons : Cons}

@[simp] theorem clientState_storeClientState :
    (c.storeClientState id cs).clientState id' =
      if id' = id then some cs else c.clientState id' := by
  unfold storeClientState clientState
  split_ifs with hid
  · subst hid
    simp
  · simp [hid]

@[simp] theorem clientState_storeConsensusState :
    (c.storeConsensusState id h cons).clientState id' = c.clientState id' := by
  unfold storeConsensusState clientState recordOrNew
  by_cases hid : id' = id
  · subst hid
    cases c id' <;> simp
  · simp [hid]

@[simp] theorem consensusState_storeClientState :
    (c.storeClientState id cs).consensusState id' h = c.consensusState id' h := by
  unfold storeClientState consensusState recordOrNew
  by_cases hid : id' = id
  · subst hid
    cases c id' <;> simp
  · simp [hid]

@[simp] theorem consensusState_storeConsensusState :
    (c.storeConsensusState id h cons).consensusState id' h' =
      if id' = id ∧ h' = h then some cons else c.consensusState id' h' := by
  unfold storeConsensusState consensusState recordOrNew
  by_cases hid : id' = id
  · subst hid
    by_cases hh : h' = h
    · subst hh
      simp
    · rw [Function.update_self, if_neg (by simp [hh]), Option.bind_some,
        AList.lookup_insert_ne hh]
      cases c id' <;> simp
  · simp [hid]

/-- The two writes to one client's record are independent. -/
theorem storeClientState_storeConsensusState :
    (c.storeConsensusState id h cons).storeClientState id cs =
      (c.storeClientState id cs).storeConsensusState id h cons := by
  simp [storeClientState, storeConsensusState, recordOrNew]

end Lemmas

end Clients

end Clients

/-! ### Light clients -/

/-- Whether a client message updates the client or reports misbehaviour. -/
inductive UpdateKind where
  | updateClient
  | submitMisbehaviour
deriving DecidableEq

/-- The operations of a light client with client states `CS` and consensus states `Cons`. -/
structure LightClient (CS Cons : Type) where
  verifyConsensusState : CS → Any → Result ClientError Unit
  clientType : CS → ClientType
  latestHeight : CS → Height
  validateProofHeight : CS → Height → Result ClientError Unit
  confirmNotFrozen : CS → Result ClientError Unit
  expired : CS → Duration → Bool
  verifyUpgradeClient : CS → Any → Any → CommitmentProofBytes → CommitmentProofBytes →
    CommitmentRoot → Result ClientError Unit
  verifyMembership : CS → CommitmentPrefix → CommitmentProofBytes → CommitmentRoot → Path →
    Bytes → Except ClientError Unit
  verifyNonMembership : CS → CommitmentPrefix → CommitmentProofBytes → CommitmentRoot → Path →
    Except ClientError Unit
  verifyClientMessage : CS → Clients CS Cons → Timestamp → ClientId → Any → UpdateKind →
    Result ClientError Unit
  checkForMisbehaviour : CS → Clients CS Cons → ClientId → Any → UpdateKind →
    Result ClientError Bool
  initialise : CS → ClientId → Any → Exec (Clients CS Cons) ClientError Unit
  updateState : CS → ClientId → Any → Exec (Clients CS Cons) ClientError (List Height)
  updateStateOnMisbehaviour : CS → ClientId → Any → UpdateKind →
    Exec (Clients CS Cons) ClientError Unit
  updateStateOnUpgrade : CS → ClientId → Any → Any → Exec (Clients CS Cons) ClientError Height
  /-- The root, the timestamp and the encoding of a consensus state. -/
  root : Cons → CommitmentRoot
  timestamp : Cons → Timestamp
  encodeVec : Cons → Bytes

/-! ### Application modules -/

/-- Events and log lines of a callback. -/
structure ModuleExtras where
  events : List ModuleEvent
  log : List String
deriving DecidableEq

/-- No events and no logs. -/
def ModuleExtras.empty : ModuleExtras := ⟨[], []⟩

/-- A callback runs on the store `St` and on the modules' own state `μ`. -/
abbrev Callback (St μ α : Type) := St → μ → α × St × μ

/-- The callbacks of an application module. -/
structure Module (St μ : Type) where
  onChanOpenInitValidate : St → μ → Order → List ConnectionId → PortId → ChannelId →
    Counterparty → ChannelVersion → Except ChannelError ChannelVersion
  onChanOpenInitExecute : Order → List ConnectionId → PortId → ChannelId → Counterparty →
    ChannelVersion → Callback St μ (Except ChannelError (ModuleExtras × ChannelVersion))
  onChanOpenTryValidate : St → μ → Order → List ConnectionId → PortId → ChannelId →
    Counterparty → ChannelVersion → Except ChannelError ChannelVersion
  onChanOpenTryExecute : Order → List ConnectionId → PortId → ChannelId → Counterparty →
    ChannelVersion → Callback St μ (Except ChannelError (ModuleExtras × ChannelVersion))
  onChanOpenAckValidate : St → μ → PortId → ChannelId → ChannelVersion →
    Except ChannelError Unit := fun _ _ _ _ _ => .ok ()
  onChanOpenAckExecute : PortId → ChannelId → ChannelVersion →
    Callback St μ (Except ChannelError ModuleExtras) := fun _ _ _ s m => (.ok .empty, s, m)
  onChanOpenConfirmValidate : St → μ → PortId → ChannelId →
    Except ChannelError Unit := fun _ _ _ _ => .ok ()
  onChanOpenConfirmExecute : PortId → ChannelId →
    Callback St μ (Except ChannelError ModuleExtras) := fun _ _ s m => (.ok .empty, s, m)
  onChanCloseInitValidate : St → μ → PortId → ChannelId →
    Except ChannelError Unit := fun _ _ _ _ => .ok ()
  onChanCloseInitExecute : PortId → ChannelId →
    Callback St μ (Except ChannelError ModuleExtras) := fun _ _ s m => (.ok .empty, s, m)
  onChanCloseConfirmValidate : St → μ → PortId → ChannelId →
    Except ChannelError Unit := fun _ _ _ _ => .ok ()
  onChanCloseConfirmExecute : PortId → ChannelId →
    Callback St μ (Except ChannelError ModuleExtras) := fun _ _ s m => (.ok .empty, s, m)
  onRecvPacketExecute : Packet → Signer → Callback St μ (ModuleExtras × Acknowledgement)
  onAcknowledgementPacketValidate : St → μ → Packet → Acknowledgement → Signer →
    Except PacketError Unit
  onAcknowledgementPacketExecute : Packet → Acknowledgement → Signer →
    Callback St μ (ModuleExtras × Except PacketError Unit)
  onTimeoutPacketValidate : St → μ → Packet → Signer → Except PacketError Unit
  onTimeoutPacketExecute : Packet → Signer → Callback St μ (ModuleExtras × Except PacketError Unit)

/-! ### The host and its state -/

/-- Functions of other libraries: hashing, and character tables. -/
structure Library where
  sha256 : Bytes → Bytes
  isAlphanumeric : Char → Bool

/-- The connection version every host supports unless it says otherwise. -/
def ConnectionVersion.default : ConnectionVersion :=
  ⟨"1", [Order.ordered.asStr, Order.unordered.asStr]⟩

/-- What a host supplies, apart from its state. -/
structure Host (CS Cons μ : Type) where
  library : Library
  lightClient : LightClient CS Cons
  /-- The routes to the application modules. -/
  getRoute : ModuleId → Option (Module (Store CS Cons) μ)
  lookupModuleByPort : PortId → Option ModuleId
  decodeClientState : Any → Result ContextError CS
  validateMessageSigner : Signer → Except ContextError Unit
  commitmentPrefix : CommitmentPrefix
  getCompatibleVersions : List ConnectionVersion := [ConnectionVersion.default]
  /-- The number of blocks a delay period stands for. -/
  blockDelay : Duration → ℕ

/-- What the host's own chain looks like now. -/
structure HostEnv (Cons : Type) where
  hostHeight : Height
  hostTimestamp : Timestamp
  hostConsensusState : Height → Except ContextError Cons
  validateSelfClient : Any → Except ContextError Unit

/-- What the history records: a packet sent, or a packet callback run. The flag is whether the
callback returned success. -/
inductive Action where
  | sendPacket (packet : Packet)
  | recvPacket (packet : Packet) (ack : Acknowledgement)
  | acknowledgePacket (packet : Packet) (ack : Acknowledgement) (ok : Bool)
  | timeoutPacket (packet : Packet) (ok : Bool)
deriving DecidableEq

/-- The state of a host. -/
structure Ctx (CS Cons μ : Type) where
  store : Store CS Cons
  app : μ
  env : HostEnv Cons
  events : List IbcEvent
  logs : List String
  history : List Action

/-- A store nothing was written to. -/
def Store.empty {CS Cons : Type} : Store CS Cons where
  client := ⟨fun _ => none, fun _ => none, fun _ => none, 0⟩
  connection := ⟨fun _ => none, fun _ => none, 0⟩
  channel := ⟨fun _ => none, fun _ => none, fun _ => none, fun _ => none, fun _ => none,
    fun _ => none, fun _ => none, 0⟩

namespace Ctx

variable {CS Cons μ : Type}

/-! ### Reading the store -/

section Read

variable (s : Ctx CS Cons μ)

/-- The client state, which has to be there. -/
def clientState (id : ClientId) : Except ClientError CS :=
  Result.okOr (s.store.client.clients.clientState id) (.clientStateNotFound id)

/-- The consensus state, which has to be there. -/
def consensusState (id : ClientId) (h : Height) : Except ClientError Cons :=
  Result.okOr (s.store.client.clients.consensusState id h) (.consensusStateNotFound id h)

/-- When the client learnt of the height. -/
def clientUpdateTime (id : ClientId) (h : Height) : Except ChannelError Timestamp :=
  Result.okOr (s.store.client.clientProcessedTimes (id, h)) (.processedTimeNotFound id h)

/-- At which block the client learnt of the height. -/
def clientUpdateHeight (id : ClientId) (h : Height) : Except ChannelError Height :=
  Result.okOr (s.store.client.clientProcessedHeights (id, h)) (.processedHeightNotFound id h)

/-- The connection end, which has to be there. -/
def connectionEnd (id : ConnectionId) : Except ConnectionError ConnectionEnd :=
  Result.okOr (s.store.connection.connections id) (.connectionNotFound id)

/-- The channel end, which has to be there. -/
def channelEnd (key : ChannelKey) : Except ChannelError ChannelEnd :=
  Result.okOr (s.store.channel.channels key) (.channelNotFound key.1 key.2)

/-- The sequence of the next packet to send. -/
def getNextSequenceSend (key : ChannelKey) : Except PacketError Sequence :=
  Result.okOr (s.store.channel.nextSequenceSend key) (.missingNextSendSeq key.1 key.2)

/-- The sequence of the next packet to receive. -/
def getNextSequenceRecv (key : ChannelKey) : Except PacketError Sequence :=
  Result.okOr (s.store.channel.nextSequenceRecv key) (.missingNextRecvSeq key.1 key.2)

/-- The sequence of the next packet to acknowledge. -/
def getNextSequenceAck (key : ChannelKey) : Except PacketError Sequence :=
  Result.okOr (s.store.channel.nextSequenceAck key) (.missingNextAckSeq key.1 key.2)

/-- The commitment, while the packet is in flight. -/
def getPacketCommitment (key : PacketKey) : Except PacketError PacketCommitment :=
  Result.okOr (s.store.channel.packetCommitment key) (.packetCommitmentNotFound key.2.2)

/-- The receipt of a packet of an unordered channel. -/
def getPacketReceipt (key : PacketKey) : Except PacketError Receipt :=
  Result.okOr (s.store.channel.packetReceipt key) (.packetReceiptNotFound key.2.2)

/-- The commitment to the acknowledgement that was written. -/
def getPacketAcknowledgement (key : PacketKey) : Except PacketError AcknowledgementCommitment :=
  Result.okOr (s.store.channel.packetAcknowledgement key) (.packetAcknowledgementNotFound key.2.2)

end Read

/-! ### Writing the store -/

/-- A write to the channel part of the store. -/
@[simps app env history]
def onChannel (g : ChannelStore → ChannelStore) (s : Ctx CS Cons μ) : Ctx CS Cons μ :=
  { s with store := { s.store with channel := g s.store.channel } }

/-- A write to the connection part of the store. -/
@[simps app env history]
def onConnection (g : ConnectionStore → ConnectionStore) (s : Ctx CS Cons μ) : Ctx CS Cons μ :=
  { s with store := { s.store with connection := g s.store.connection } }

/-- A write to the client part of the store. -/
@[simps app env history]
def onClient (g : ClientStore CS Cons → ClientStore CS Cons) (s : Ctx CS Cons μ) :
    Ctx CS Cons μ :=
  { s with store := { s.store with client := g s.store.client } }

/-- One more event. -/
@[simps store app env history]
def emitIbcEvent (e : IbcEvent) (s : Ctx CS Cons μ) : Ctx CS Cons μ :=
  { s with events := s.events ++ [e] }

/-- One more log line. -/
@[simps store app env history]
def logMessage (m : String) (s : Ctx CS Cons μ) : Ctx CS Cons μ := { s with logs := s.logs ++ [m] }

/-- The events and logs of a callback, after those of the handler. -/
@[simps store app env history]
def emitExtras (x : ModuleExtras) (s : Ctx CS Cons μ) : Ctx CS Cons μ :=
  { s with events := s.events ++ x.events.map .module, logs := s.logs ++ x.log }

/-- One more action in the history. -/
@[simps store app env history]
def record (a : Action) (s : Ctx CS Cons μ) : Ctx CS Cons μ :=
  { s with history := s.history ++ [a] }

@[simp] theorem onChannel_store (g : ChannelStore → ChannelStore) (s : Ctx CS Cons μ) :
    (s.onChannel g).store = { s.store with channel := g s.store.channel } := rfl

@[simp] theorem onConnection_store (g : ConnectionStore → ConnectionStore) (s : Ctx CS Cons μ) :
    (s.onConnection g).store = { s.store with connection := g s.store.connection } := rfl

@[simp] theorem onClient_store (g : ClientStore CS Cons → ClientStore CS Cons)
    (s : Ctx CS Cons μ) :
    (s.onClient g).store = { s.store with client := g s.store.client } := rfl

end Ctx

/-- A call of the core: it runs on a host's state and ends in a value, an error or a panic. -/
abbrev Handler (CS Cons μ α : Type) := Exec (Ctx CS Cons μ) ContextError α

section Handlers

variable {CS Cons μ α : Type}

/-- Runs a module's callback on the host's store and on the modules' state. -/
def runCallback (f : Callback (Store CS Cons) μ α) : Handler CS Cons μ α := fun s =>
  (.ok (f s.store s.app).1, { s with store := (f s.store s.app).2.1, app := (f s.store s.app).2.2 })

@[simp] theorem runCallback_bind {β : Type} (f : Callback (Store CS Cons) μ α)
    (g : α → Handler CS Cons μ β) (s : Ctx CS Cons μ) :
    (runCallback f >>= g) s = g (f s.store s.app).1
      { s with store := (f s.store s.app).2.1, app := (f s.store s.app).2.2 } := rfl

/-- Runs a client's operation on the host's client records. -/
def runClient (x : Exec (Clients CS Cons) ClientError α) : Handler CS Cons μ α :=
  Exec.zoom (·.store.client.clients) (fun s c => s.onClient fun cl => { cl with clients := c })
    (x.mapErr .clientError)

end Handlers

namespace ChannelStore

/-! ### Single writes to the channel store -/

/-- A channel end is stored. -/
@[simps]
def storeChannel (key : ChannelKey) (e : ChannelEnd) (c : ChannelStore) : ChannelStore :=
  { c with channels := Function.update c.channels key (some e) }

/-- The next sequence to send. -/
@[simps]
def storeNextSequenceSend (key : ChannelKey) (n : Sequence) (c : ChannelStore) : ChannelStore :=
  { c with nextSequenceSend := Function.update c.nextSequenceSend key (some n) }

/-- The next sequence to receive. -/
@[simps]
def storeNextSequenceRecv (key : ChannelKey) (n : Sequence) (c : ChannelStore) : ChannelStore :=
  { c with nextSequenceRecv := Function.update c.nextSequenceRecv key (some n) }

/-- The next sequence to acknowledge. -/
@[simps]
def storeNextSequenceAck (key : ChannelKey) (n : Sequence) (c : ChannelStore) : ChannelStore :=
  { c with nextSequenceAck := Function.update c.nextSequenceAck key (some n) }

/-- A packet goes into flight. -/
@[simps]
def storePacketCommitment (key : PacketKey) (x : PacketCommitment) (c : ChannelStore) :
    ChannelStore :=
  { c with packetCommitment := Function.update c.packetCommitment key (some x) }

/-- A packet is resolved. -/
@[simps]
def deletePacketCommitment (key : PacketKey) (c : ChannelStore) : ChannelStore :=
  { c with packetCommitment := Function.update c.packetCommitment key none }

/-- A packet was received. -/
@[simps]
def storePacketReceipt (key : PacketKey) (r : Receipt) (c : ChannelStore) : ChannelStore :=
  { c with packetReceipt := Function.update c.packetReceipt key (some r) }

/-- A packet was answered. -/
@[simps]
def storePacketAcknowledgement (key : PacketKey) (a : AcknowledgementCommitment)
    (c : ChannelStore) : ChannelStore :=
  { c with packetAcknowledgement := Function.update c.packetAcknowledgement key (some a) }

end ChannelStore

end Ibc
