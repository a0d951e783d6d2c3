import Ibc.Protocol.Handshake
import Ibc.Protocol.MockRun

/-!
# What the events say

Relayers and explorers do not read a chain's store, they read its events. `Index` is what such an
observer can keep: the state, the counterparty and the connection of every channel end, the ends of
the connections, the packets in flight and the packets answered. `Index.apply` takes in one event.

* **`Tells`**: a call that succeeded emits events that say what it wrote. One lemma per handler.
* **`events_index_store`**: on a chain that keeps only what successful calls wrote, the index of
  all events emitted so far shows the store.

Two things are in no event. The ordering and the version of a channel: an OpenInit announces no
ordering, and the version its module answered with rather than the one it stored. And a call that
fails: the events it emitted before failing are not about anything stored.
-/

namespace Ibc

open Exec

variable {CS Cons μ : Type}

/-! ### The index -/

/-- What the events say of a connection end. -/
structure ConnectionEntry where
  state : ConnectionState
  clientId : ClientId
  counterpartyClientId : ClientId
  counterpartyConnectionId : Option ConnectionId
deriving DecidableEq

/-- What the events say of a channel end. -/
structure ChannelEntry where
  state : ChannelState
  remote : Counterparty
  connectionId : ConnectionId
deriving DecidableEq

/-- What an observer of the events keeps. -/
structure Index where
  connections : ConnectionId → Option ConnectionEntry
  channels : ChannelKey → Option ChannelEntry
  inFlight : PacketKey → Option Packet
  answered : PacketKey → Option (Packet × Acknowledgement)

namespace Index

def empty : Index := ⟨fun _ => none, fun _ => none, fun _ => none, fun _ => none⟩

def setConnection (id : ConnectionId) (e : ConnectionEntry) (x : Index) : Index :=
  { x with connections := Function.update x.connections id (some e) }

def setChannel (key : ChannelKey) (e : ChannelEntry) (x : Index) : Index :=
  { x with channels := Function.update x.channels key (some e) }

def setInFlight (key : PacketKey) (p : Option Packet) (x : Index) : Index :=
  { x with inFlight := Function.update x.inFlight key p }

def setAnswered (p : Packet) (ack : Acknowledgement) (x : Index) : Index :=
  { x with answered := Function.update x.answered p.keyOnB (some (p, ack)) }

/-- One event is taken in. The events of clients and of modules, and the headings, say nothing of
connections, channels and packets; that a packet was received is said again by its
acknowledgement. -/
def apply (x : Index) : IbcEvent → Index
  | .openInitConnection connIdOnA clientIdOnA clientIdOnB =>
      x.setConnection connIdOnA ⟨.init, clientIdOnA, clientIdOnB, none⟩
  | .openTryConnection connIdOnB clientIdOnB connIdOnA clientIdOnA =>
      x.setConnection connIdOnB ⟨.tryOpen, clientIdOnB, clientIdOnA, some connIdOnA⟩
  | .openAckConnection connIdOnA clientIdOnA connIdOnB clientIdOnB =>
      x.setConnection connIdOnA ⟨.open, clientIdOnA, clientIdOnB, some connIdOnB⟩
  | .openConfirmConnection connIdOnB clientIdOnB connIdOnA clientIdOnA =>
      x.setConnection connIdOnB ⟨.open, clientIdOnB, clientIdOnA, some connIdOnA⟩
  | .openInitChannel port chan portOnB conn _ =>
      x.setChannel (port, chan) ⟨.init, ⟨portOnB, none⟩, conn⟩
  | .openTryChannel port chan portOnA chanOnA conn _ =>
      x.setChannel (port, chan) ⟨.tryOpen, ⟨portOnA, some chanOnA⟩, conn⟩
  | .openAckChannel port chan portOnB chanOnB conn =>
      x.setChannel (port, chan) ⟨.open, ⟨portOnB, some chanOnB⟩, conn⟩
  | .openConfirmChannel port chan portOnA chanOnA conn =>
      x.setChannel (port, chan) ⟨.open, ⟨portOnA, some chanOnA⟩, conn⟩
  | .closeInitChannel port chan portOnB chanOnB conn =>
      x.setChannel (port, chan) ⟨.closed, ⟨portOnB, some chanOnB⟩, conn⟩
  | .closeConfirmChannel port chan portOnA chanOnA conn =>
      x.setChannel (port, chan) ⟨.closed, ⟨portOnA, some chanOnA⟩, conn⟩
  | .channelClosed port chan portOnB chanOnB conn _ =>
      x.setChannel (port, chan) ⟨.closed, ⟨portOnB, chanOnB⟩, conn⟩
  | .sendPacket p _ _ => x.setInFlight p.keyOnA (some p)
  | .acknowledgePacket p _ _ => x.setInFlight p.keyOnA none
  | .timeoutPacket p _ => x.setInFlight p.keyOnA none
  | .writeAcknowledgement p ack _ => x.setAnswered p ack
  | _ => x

/-- The events taken in one after the other. -/
def after (x : Index) (events : List IbcEvent) : Index := events.foldl apply x

/-- The index of a chain's events. -/
def replay (events : List IbcEvent) : Index := empty.after events

variable {x : Index}

@[simp] theorem after_nil : x.after [] = x := rfl

@[simp] theorem after_append {events events' : List IbcEvent} :
    x.after (events ++ events') = (x.after events).after events' := List.foldl_append

@[simp] theorem after_modules (events : List ModuleEvent) : x.after (events.map .module) = x := by
  induction events with
  | nil => rfl
  | cons e events ih => exact ih

end Index

/-! ### An index that shows the store -/

def ConnectionEnd.entry (e : ConnectionEnd) : ConnectionEntry :=
  ⟨e.state, e.clientId, e.counterparty.clientId, e.counterparty.connectionId⟩

/-- The entry of a channel end, if it has a connection. -/
def ChannelEnd.entry (e : ChannelEnd) : Option ChannelEntry :=
  e.connectionHops.head?.map fun connectionId => ⟨e.state, e.remote, connectionId⟩

/-- The index agrees with the store. The store keeps hashes of packets and acknowledgements, the
index the packets and acknowledgements that hash to them. -/
structure Index.Shows (lib : Library) (x : Index) (st : Store CS Cons) : Prop where
  connections : ∀ id, x.connections id = (st.connection.connections id).map ConnectionEnd.entry
  channels : ∀ key, x.channels key = (st.channel.channels key).bind ChannelEnd.entry
  inFlight : ∀ key, Option.Rel (fun p cm => p.keyOnA = key ∧ p.CommitsTo lib cm) (x.inFlight key)
    (st.channel.packetCommitment key)
  answered : ∀ key, Option.Rel (fun a cm => a.1.keyOnB = key ∧ computeAckCommitment lib a.2 = cm)
    (x.answered key) (st.channel.packetAcknowledgement key)
  receipts : ∀ key, st.channel.packetReceipt key ≠ none → x.answered key ≠ none

namespace Index

variable {lib : Library} {x : Index} {st : Store CS Cons}

theorem shows_empty : Index.empty.Shows lib (Store.empty : Store CS Cons) :=
  ⟨fun _ => rfl, fun _ => rfl, fun _ => .none, fun _ => .none, fun _ h => absurd rfl h⟩

/-- A relation between two maps is kept by an update of both at one key. -/
theorem rel_update {κ α β : Type} [DecidableEq κ] {R : κ → α → β → Prop} {f : κ → Option α}
    {g : κ → Option β} (h : ∀ k, Option.Rel (R k) (f k) (g k)) (key : κ) {a : Option α}
    {b : Option β} (hab : Option.Rel (R key) a b) (k : κ) :
    Option.Rel (R k) (Function.update f key a k) (Function.update g key b k) := by
  by_cases hk : k = key
  · subst hk
    simpa only [Function.update_self] using hab
  · simpa only [Function.update_of_ne hk] using h k

theorem Shows.storeConnection (h : x.Shows lib st) (id : ConnectionId) (e : ConnectionEnd)
    {c : ConnectionStore}
    (hc : c.connections = Function.update st.connection.connections id (some e)) :
    (x.setConnection id e.entry).Shows lib { st with connection := c } := by
  refine { h with connections := fun k => ?_ }
  rw [hc]
  by_cases hk : k = id
  · subst hk
    simp [setConnection]
  · simpa [setConnection, hk] using h.connections k

theorem Shows.storeChannel (h : x.Shows lib st) {key : ChannelKey} {e : ChannelEnd}
    {entry : ChannelEntry} (he : e.entry = some entry) {c : ChannelStore}
    (hc : c = { st.channel with
      channels := Function.update st.channel.channels key (some e)
      nextSequenceSend := c.nextSequenceSend
      nextSequenceRecv := c.nextSequenceRecv
      nextSequenceAck := c.nextSequenceAck
      channelIdsCounter := c.channelIdsCounter }) :
    (x.setChannel key entry).Shows lib { st with channel := c } := by
  rw [hc]
  refine { h with channels := fun k => ?_ }
  by_cases hk : k = key
  · subst hk
    simp [setChannel, he]
  · simpa [setChannel, hk] using h.channels k

theorem Shows.sent (h : x.Shows lib st) {p : Packet} {cm : PacketCommitment}
    (hcm : p.CommitsTo lib cm) :
    (x.setInFlight p.keyOnA (some p)).Shows lib
      { st with channel := st.channel.sent p cm } :=
  { h with inFlight := rel_update h.inFlight p.keyOnA (.some ⟨rfl, hcm⟩) }

theorem Shows.deleteCommitment (h : x.Shows lib st) (key : PacketKey) :
    (x.setInFlight key none).Shows lib
      { st with channel := st.channel.deletePacketCommitment key } :=
  { h with inFlight := rel_update h.inFlight key .none }

/-- A packet that is not in flight can be taken out once more. -/
theorem Shows.notInFlight (h : x.Shows lib st) {key : PacketKey}
    (hn : st.channel.packetCommitment key = none) : (x.setInFlight key none).Shows lib st := by
  refine { h with inFlight := ?_ }
  have hupd := rel_update h.inFlight key .none
  rwa [← hn, Function.update_eq_self] at hupd

theorem Shows.received (h : x.Shows lib st) (ordering : Order) (p : Packet)
    (ack : Acknowledgement) :
    (x.setAnswered p ack).Shows lib { st with
      channel := st.channel.received ordering p (computeAckCommitment lib ack) } := by
  have hanswered := rel_update h.answered p.keyOnB (.some (a := (p, ack)) ⟨rfl, rfl⟩)
  have hreceipts (key : PacketKey) :
      key = p.keyOnB ∨ st.channel.packetReceipt key ≠ none →
        (x.setAnswered p ack).answered key ≠ none := by
    rintro (rfl | hk)
    · simp [setAnswered]
    · by_cases hkey : key = p.keyOnB
      · simp [setAnswered, hkey]
      · simpa [setAnswered, hkey] using h.receipts key hk
  cases ordering with
  | unordered =>
    refine { h with answered := hanswered, receipts := fun key hk => hreceipts key ?_ }
    by_cases hkey : key = p.keyOnB
    · exact .inl hkey
    · exact .inr (by simpa [ChannelStore.received, hkey] using hk)
  | ordered | none =>
    exact { h with answered := hanswered, receipts := fun key hk => hreceipts key (.inr hk) }

end Index

/-! ### Calls that tell what they write -/

/-- A call that succeeded emitted events that say what it wrote. -/
def Tells (lib : Library) (s : Ctx CS Cons μ) (r : Result ContextError Unit)
    (s' : Ctx CS Cons μ) : Prop :=
  r = .ok () → ∃ events, s'.events = s.events ++ events ∧
    ∀ x : Index, x.Shows lib s.store → (x.after events).Shows lib s'.store

section Handlers

variable {H : Host CS Cons μ} {s s' : Ctx CS Cons μ} {moduleId : ModuleId} {lib : Library}

theorem Tells.error {f : Fault ContextError} : Tells lib s (.error f) s' := fun h => by cases h

/-- The handler's own events, then those of a callback, which say nothing of the core. -/
theorem Tells.events {r : Result ContextError Unit} (events : List IbcEvent)
    (extras : ModuleExtras) (he : s'.events = s.events ++ events ++ extras.events.map .module)
    (h : ∀ x : Index, x.Shows lib s.store → (x.after events).Shows lib s'.store) :
    Tells lib s r s' := by
  refine fun _ => ⟨events ++ extras.events.map .module, ?_, fun x hx => ?_⟩
  · rw [he, List.append_assoc]
  · rw [Index.after_append, Index.after_modules]
    exact h x hx

/-- A heading, an event, and the events of a callback. -/
theorem Tells.event {r : Result ContextError Unit} (heading : MessageEvent) (event : IbcEvent)
    (extras : ModuleExtras)
    (he : s'.events = s.events ++ [.message heading] ++ [event] ++ extras.events.map .module)
    (h : ∀ x : Index, x.Shows lib s.store → (x.apply event).Shows lib s'.store) :
    Tells lib s r s' :=
  .events [.message heading, event] extras (by rw [he, List.append_assoc s.events]; rfl) h

/-- The same, of a call without a callback. -/
theorem Tells.event_only {r : Result ContextError Unit} (heading : MessageEvent) (event : IbcEvent)
    (he : s'.events = s.events ++ [.message heading] ++ [event])
    (h : ∀ x : Index, x.Shows lib s.store → (x.apply event).Shows lib s'.store) :
    Tells lib s r s' :=
  .event heading event ⟨[], []⟩ (by rw [he, List.map_nil, List.append_nil]) h

/-! ### Client messages -/

theorem createClient_tells (msg : MsgCreateClient) :
    Ensures (createClientExecute H msg) s (Tells lib s) := by
  unfold createClientExecute
  refine ensures_read_bind (Ensures.ofResult_bind (fun _ _ => .error) fun cs _ => ?_)
  refine Ensures.ofExcept_bind (fun _ _ => .error) fun id _ => ?_
  refine ensures_runClient (fun _ _ _ => .error) (fun _ _ => .error) fun _ c _ => ?_
  refine ensures_write_bind (ensures_write_bind ?_)
  refine increaseClientCounter_ensures (fun _ => .error) ?_
  exact .event_only .client _ rfl fun x hx => { hx with }

theorem updateClient_tells (msg : MsgUpdateOrMisbehaviour) :
    Ensures (updateClientExecute H msg) s (Tells lib s) := by
  unfold updateClientExecute
  refine ensures_read_bind (Ensures.ofExcept_bind (fun _ _ => .error) fun cs _ => ?_)
  refine Ensures.ofResult_bind (fun _ _ => .error) fun found _ => ?_
  refine Ensures.ite (fun _ => ?_) fun _ => ?_
  · refine ensures_runClient (fun _ _ _ => .error) (fun _ _ => .error) fun _ c _ => ?_
    exact .event_only .client _ rfl fun x hx => { hx with }
  · refine Ensures.ofExcept_bind (fun _ _ => .error) fun _ _ => ?_
    refine ensures_runClient (fun _ _ _ => .error) (fun _ _ => .error) fun heights c _ => ?_
    refine ensures_write_bind (Ensures.ofExcept_bind (fun _ _ => .error) fun height _ => ?_)
    exact .event_only .client _ rfl fun x hx => { hx with }

theorem upgradeClient_tells (msg : MsgUpgradeClient) :
    Ensures (upgradeClientExecute H msg) s (Tells lib s) := by
  unfold upgradeClientExecute
  refine ensures_read_bind (Ensures.ofExcept_bind (fun _ _ => .error) fun cs _ => ?_)
  refine ensures_runClient (fun _ _ _ => .error) (fun _ _ => .error) fun height c _ => ?_
  exact .event_only .client _ rfl fun x hx => { hx with }

/-! ### Connection messages -/

theorem connOpenInit_tells (msg : MsgConnectionOpenInit) :
    Ensures (connOpenInitExecute H msg) s (Tells lib s) := by
  unfold connOpenInitExecute
  refine ensures_read_bind (Ensures.ofExcept_bind (fun _ _ => .error) fun versions _ => ?_)
  refine Ensures.ofExcept_bind (fun _ _ => .error) fun e he => ?_
  refine ensures_write_bind (ensures_write_bind (ensures_write_bind ?_))
  refine increaseConnectionCounter_ensures (fun _ => .error) ?_
  refine .event_only .connection _ rfl fun x hx => ?_
  obtain ⟨rfl, -⟩ := ConnectionEnd.new_eq_ok.mp he
  exact hx.storeConnection _ ⟨_, _, ⟨_, none, _⟩, _, _⟩ rfl

theorem connOpenTry_tells (msg : MsgConnectionOpenTry) :
    Ensures (connOpenTryExecute H msg) s (Tells lib s) := by
  unfold connOpenTryExecute
  refine ensures_read_bind (Ensures.ofExcept_bind (fun _ _ => .error) fun vars hvars => ?_)
  have hvars : ConnOpenTryVars.new H s msg = .ok vars := hvars
  simp only [ConnOpenTryVars.new, Result.bind_eq_ok, ConnectionEnd.new_eq_ok,
    Result.pure_eq_ok] at hvars
  obtain ⟨version, -, _, ⟨rfl, -⟩, _, -, rfl⟩ := hvars
  refine Ensures.ofExcept_bind (fun _ _ => .error) fun connIdOnA hconn => ?_
  have hconn : msg.counterparty.connectionId = some connIdOnA := Result.okOr_eq_ok.mp hconn
  refine ensures_write_bind (ensures_write_bind (ensures_write_bind ?_))
  refine increaseConnectionCounter_ensures (fun _ => .error) ?_
  refine .event_only .connection _ rfl fun x hx => ?_
  rw [Index.apply, ← hconn]
  exact hx.storeConnection _ ⟨_, _, msg.counterparty, _, _⟩ rfl

theorem connOpenAck_tells (msg : MsgConnectionOpenAck) :
    Ensures (connOpenAckExecute msg) s (Tells lib s) := by
  unfold connOpenAckExecute
  refine ensures_read_bind (Ensures.ofExcept_bind (fun _ _ => .error) fun e _ => ?_)
  exact .event_only .connection _ rfl fun x hx =>
    hx.storeConnection _ (e.opened msg.version msg.connIdOnB) rfl

theorem connOpenConfirm_tells (msg : MsgConnectionOpenConfirm) :
    Ensures (connOpenConfirmExecute msg) s (Tells lib s) := by
  unfold connOpenConfirmExecute
  refine ensures_read_bind (Ensures.ofExcept_bind (fun _ _ => .error) fun e _ => ?_)
  refine Ensures.ofExcept_bind (fun _ _ => .error) fun connIdOnA hconn => ?_
  have hconn : e.counterparty.connectionId = some connIdOnA := Result.okOr_eq_ok.mp hconn
  refine .event_only .connection _ rfl fun x hx => ?_
  rw [Index.apply, ← hconn]
  exact hx.storeConnection _ { e with state := .open } rfl

/-! ### Channel messages -/

/-- The connection in an event is the first hop of the end. -/
theorem index_zero_bind_head {hops : List ConnectionId} {f : ConnectionId → Handler CS Cons μ Unit}
    {s₀ : Ctx CS Cons μ} (h : ∀ id, hops.head? = some id → Ensures (f id) s (Tells lib s₀)) :
    Ensures (ofResult (Result.index hops 0) >>= f) s (Tells lib s₀) :=
  Ensures.ofResult_bind (fun _ _ => .error) fun id hid => h id (Result.index_zero_eq_ok.mp hid)

theorem chanOpenInit_tells (iso : H.Isolated) {msg : MsgChannelOpenInit}
    (hl : H.lookupModuleByPort msg.portIdOnA = some moduleId) :
    Ensures (chanOpenInitExecute H moduleId msg) s (Tells lib s) := by
  refine Ensures.ofExcept_bind (fun _ _ => .error) fun m hm => ?_
  refine ensures_runCallback ((iso _ _ (moduleOf_eq hl hm)).openInit _ _ _ _ _ _)
    fun answer app _ => ?_
  refine Ensures.ofExcept_bind (fun _ _ => .error) fun agreed _ => ?_
  obtain ⟨extras, version⟩ := agreed
  refine index_zero_bind_head fun connId hconn => ?_
  refine Ensures.ofExcept_bind (fun _ _ => .error) fun e he => ?_
  obtain ⟨rfl, -⟩ := ChannelEnd.new_eq_ok.mp he
  refine openChannel_ensures (fun _ => .error) ?_
  exact .event .channel _ extras rfl fun x hx =>
    hx.storeChannel (by rw [ChannelEnd.entry, hconn, Option.map_some]) rfl

theorem chanOpenTry_tells (iso : H.Isolated) {msg : MsgChannelOpenTry}
    (hl : H.lookupModuleByPort msg.portIdOnB = some moduleId) :
    Ensures (chanOpenTryExecute H moduleId msg) s (Tells lib s) := by
  refine Ensures.ofExcept_bind (fun _ _ => .error) fun m hm => ?_
  refine ensures_runCallback ((iso _ _ (moduleOf_eq hl hm)).openTry _ _ _ _ _ _)
    fun answer app _ => ?_
  refine Ensures.ofExcept_bind (fun _ _ => .error) fun agreed _ => ?_
  obtain ⟨extras, version⟩ := agreed
  refine index_zero_bind_head fun connId hconn => ?_
  refine Ensures.ofExcept_bind (fun _ _ => .error) fun e he => ?_
  obtain ⟨rfl, -⟩ := ChannelEnd.new_eq_ok.mp he
  refine openChannel_ensures (fun _ => .error) ?_
  exact .event .channel _ extras rfl fun x hx =>
    hx.storeChannel (by rw [ChannelEnd.entry, hconn, Option.map_some]) rfl

theorem chanOpenAck_tells (iso : H.Isolated) {msg : MsgChannelOpenAck}
    (hl : H.lookupModuleByPort msg.portIdOnA = some moduleId) :
    Ensures (chanOpenAckExecute H moduleId msg) s (Tells lib s) := by
  refine Ensures.ofExcept_bind (fun _ _ => .error) fun m hm => ?_
  refine ensures_runCallback ((iso _ _ (moduleOf_eq hl hm)).openAck _ _ _) fun answer app _ => ?_
  refine Ensures.ofExcept_bind (fun _ _ => .error) fun extras _ => ?_
  refine Ensures.ofExcept_bind (fun _ _ => .error) fun e he => ?_
  refine ensures_write_bind (ensures_write_bind ?_)
  refine index_zero_bind_head fun connId hconn => ?_
  exact .event .channel _ extras rfl fun x hx =>
    hx.storeChannel (by rw [ChannelEnd.entry, ChannelEnd.opened, hconn, Option.map_some]) rfl

theorem chanOpenConfirm_tells (iso : H.Isolated) {msg : MsgChannelOpenConfirm}
    (hl : H.lookupModuleByPort msg.portIdOnB = some moduleId) :
    Ensures (chanOpenConfirmExecute H moduleId msg) s (Tells lib s) := by
  refine Ensures.ofExcept_bind (fun _ _ => .error) fun m hm => ?_
  refine ensures_runCallback ((iso _ _ (moduleOf_eq hl hm)).openConfirm _ _) fun answer app _ => ?_
  refine Ensures.ofExcept_bind (fun _ _ => .error) fun extras _ => ?_
  refine Ensures.ofExcept_bind (fun _ _ => .error) fun e he => ?_
  refine ensures_write_bind (ensures_write_bind ?_)
  refine index_zero_bind_head fun connId hconn => ?_
  refine Ensures.ofExcept_bind (fun _ _ => .error) fun chanId hchan => ?_
  have hremote : e.remote = ⟨e.remote.portId, some chanId⟩ := by
    rw [← Result.okOr_eq_ok.mp hchan]
  exact .event .channel _ extras rfl fun x hx =>
    hx.storeChannel (by rw [ChannelEnd.entry, hconn, Option.map_some, ← hremote]) rfl

/-- Both close handlers. -/
theorem chanClose_tells {key : ChannelKey} {log : String}
    {callback : Module (Store CS Cons) μ →
      Callback (Store CS Cons) μ (Except ChannelError ModuleExtras)}
    {event : PortId → ChannelId → ConnectionId → IbcEvent}
    (hl : H.lookupModuleByPort key.1 = some moduleId)
    (hkeep : ∀ m, H.moduleOf key.1 = some m → (callback m).KeepsStore)
    (hevent : ∀ (x : Index) port chan conn, x.apply (event port chan conn) =
      x.setChannel key ⟨.closed, ⟨port, some chan⟩, conn⟩) :
    Ensures (chanCloseExecute H moduleId key callback log event) s (Tells lib s) := by
  refine Ensures.ofExcept_bind (fun _ _ => .error) fun m hm => ?_
  refine ensures_runCallback (hkeep m (moduleOf_eq hl hm)) fun answer app _ => ?_
  refine Ensures.ofExcept_bind (fun _ _ => .error) fun extras _ => ?_
  refine Ensures.ofExcept_bind (fun _ _ => .error) fun e he => ?_
  refine ensures_write_bind (ensures_write_bind ?_)
  refine Ensures.ofExcept_bind (fun _ _ => .error) fun chanId hchan => ?_
  have hremote : e.remote = ⟨e.remote.portId, some chanId⟩ := by
    rw [← Result.okOr_eq_ok.mp hchan]
  refine index_zero_bind_head fun connId hconn => ?_
  refine .event .channel _ extras rfl fun x hx => ?_
  rw [hevent, ← hremote]
  exact hx.storeChannel (by rw [ChannelEnd.entry, hconn, Option.map_some]) rfl

/-! ### Packets -/

theorem sendPacketExecute_tells {p : Packet} {e : ChannelEnd} (hv : SendValid s p e) :
    Ensures (sendPacketExecute H p) s (Tells H.library s) := by
  refine Ensures.ofExcept_bind (fun _ _ => .error) fun n hn => ?_
  obtain rfl : n = p.seqOnA := Option.some.inj ((Result.okOr_eq_ok.mp hn).symm.trans hv.next)
  refine Ensures.addU64_bind .error fun _ => ?_
  refine ensures_write_bind (Ensures.ofResult_bind (fun _ _ => .error) fun cm hcm => ?_)
  refine ensures_write_bind (ensures_write_bind (ensures_read_bind ?_))
  refine Ensures.ofExcept_bind (fun _ _ => .error) fun e' _ => ?_
  refine index_zero_bind_head fun connId _ => ?_
  exact .event_only .channel _ rfl fun x hx => hx.sent hcm

theorem sendPacket_tells (p : Packet) : Ensures (sendPacket H p) s (Tells H.library s) := by
  refine Ensures.ofResult_bind (fun _ _ => .error) fun _ hv => ?_
  obtain ⟨e, hv⟩ := sendPacketValidate_shows hv
  exact sendPacketExecute_tells hv

theorem Tells.refl {r : Result ContextError Unit} : Tells lib s r s :=
  .events [] ⟨[], []⟩ (by simp) fun _ hx => hx

theorem recvPacket_tells (iso : H.Isolated) {msg : MsgRecvPacket}
    (hl : H.lookupModuleByPort msg.packet.portIdOnB = some moduleId)
    (hv : recvPacketValidate H s msg = .ok ()) :
    Ensures (recvPacketExecute H moduleId msg) s (Tells H.library s) := by
  obtain ⟨e, hv⟩ := recvPacketValidate_shows hv
  refine Ensures.ofExcept_ok_bind (channelEnd_eq_ok.mpr hv.channel) ?_
  obtain ⟨already, hal, hfresh⟩ := hv.alreadyReceived
  refine Ensures.ofExcept_ok_bind hal (Ensures.ite (fun _ => .refl) fun hnot => ?_)
  obtain ⟨hord, -⟩ := hfresh.mp (Bool.eq_false_of_not_eq_true hnot)
  refine Ensures.ofExcept_bind (fun _ _ => .error) fun m hm => ?_
  refine ensures_runCallback ((iso _ _ (moduleOf_eq hl hm)).recvPacket _ _) fun answer app _ => ?_
  obtain ⟨extras, ack⟩ := answer
  refine markReceived_ensures hord (fun _ _ _ => .error) fun _ => ?_
  refine ensures_write_bind (ensures_write_bind (index_zero_bind_head fun connId _ => ?_))
  refine .events [.message .channel, .receivePacket msg.packet e.ordering connId,
    .message .channel, .writeAcknowledgement msg.packet ack connId] extras ?_ fun x hx =>
      hx.received e.ordering msg.packet ack
  change s.events ++ [_] ++ [_] ++ [_] ++ [_] ++ _ = _
  simp only [List.append_assoc, List.cons_append, List.nil_append]

/-- A resolution of a packet that is no longer in flight is announced, and changes nothing. -/
theorem acknowledgementPacket_tells (iso : H.Isolated) {msg : MsgAcknowledgement}
    (hl : H.lookupModuleByPort msg.packet.portIdOnA = some moduleId) :
    Ensures (acknowledgementPacketExecute H moduleId msg) s (Tells lib s) := by
  refine Ensures.ofExcept_bind (fun _ _ => .error) fun e he => ?_
  refine index_zero_bind_head fun connId _ => ?_
  refine ensures_write_bind (ensures_write_bind ?_)
  cases hcm : s.store.channel.packetCommitment msg.packet.keyOnA with
  | none =>
    simp only [Ctx.getPacketCommitment, hcm, Result.okOr_none]
    exact .event_only .channel _ rfl fun x hx => hx.notInFlight hcm
  | some cm =>
    simp only [Ctx.getPacketCommitment, hcm, Result.okOr_some]
    refine Ensures.ofExcept_bind (fun _ _ => .error) fun m hm => ?_
    refine ensures_runCallback ((iso _ _ (moduleOf_eq hl hm)).acknowledgePacket _ _ _)
      fun answer app _ => ?_
    obtain ⟨extras, r⟩ := answer
    refine ensures_write_bind (Ensures.ofExcept_bind (fun _ _ => .error) fun _ _ => ?_)
    by_cases ho : e.ordering = .ordered
    · simp only [advanceNextSequenceAck, ho, if_true, Exec.bind_assoc]
      refine ensures_write_bind (Ensures.addU64_bind .error fun _ => ?_)
      exact .event .channel (.acknowledgePacket msg.packet e.ordering connId) extras
        (by rw [ho]; rfl) fun x hx => { hx.deleteCommitment msg.packet.keyOnA with }
    · simp only [advanceNextSequenceAck, ho, if_false]
      exact .event .channel (.acknowledgePacket msg.packet e.ordering connId) extras rfl
        fun x hx => { hx.deleteCommitment msg.packet.keyOnA with }

theorem timeoutPacket_tells (iso : H.Isolated) (msg : TimeoutMsgType)
    (hl : H.lookupModuleByPort msg.packet.portIdOnA = some moduleId) :
    Ensures (timeoutPacketExecute H moduleId msg) s (Tells lib s) := by
  refine Ensures.ofExcept_bind (fun _ _ => .error) fun e he => ?_
  refine ensures_write_bind (ensures_write_bind ?_)
  cases hcm : s.store.channel.packetCommitment msg.packet.keyOnA with
  | none =>
    simp only [Ctx.getPacketCommitment, hcm, Result.okOr_none]
    exact .event_only .channel _ rfl fun x hx => hx.notInFlight hcm
  | some cm =>
    simp only [Ctx.getPacketCommitment, hcm, Result.okOr_some]
    refine Ensures.ofExcept_bind (fun _ _ => .error) fun m hm => ?_
    refine ensures_runCallback ((iso _ _ (moduleOf_eq hl hm)).timeoutPacket _ _)
      fun answer app _ => ?_
    obtain ⟨extras, r⟩ := answer
    refine ensures_write_bind (Ensures.ofExcept_bind (fun _ _ => .error) fun _ _ => ?_)
    refine ensures_write_bind ?_
    by_cases ho : e.ordering = .ordered
    · simp only [closeIfOrdered, emitChannelClosed, ho, if_true, Exec.bind_assoc]
      refine ensures_write_bind (ensures_write_bind ?_)
      refine index_zero_bind_head fun connId hconn => ?_
      refine .events [.message .channel, .timeoutPacket msg.packet .ordered, .message .channel,
        .channelClosed msg.packet.portIdOnA msg.packet.chanIdOnA e.remote.portId
          e.remote.channelId connId .ordered] extras ?_ fun x hx => ?_
      · change s.events ++ [_] ++ [_] ++ [_] ++ [_] ++ _ = _
        simp only [List.append_assoc, List.cons_append, List.nil_append]
      · exact (hx.deleteCommitment msg.packet.keyOnA).storeChannel
          (by rw [ChannelEnd.entry, hconn, Option.map_some]) rfl
    · simp only [closeIfOrdered, emitChannelClosed, ho, if_false]
      exact .event .channel (.timeoutPacket msg.packet e.ordering) extras rfl
        fun x hx => hx.deleteCommitment msg.packet.keyOnA

/-! ### Every call -/

theorem channelMsg_tells (iso : H.Isolated) (msg : ChannelMsg)
    (hl : H.lookupModuleByPort msg.localPort = some moduleId) :
    Ensures (msg.execute H moduleId) s (Tells lib s) := by
  cases msg with
  | openInit msg => exact chanOpenInit_tells iso hl
  | openTry msg => exact chanOpenTry_tells iso hl
  | openAck msg => exact chanOpenAck_tells iso hl
  | openConfirm msg => exact chanOpenConfirm_tells iso hl
  | closeInit msg =>
    exact chanClose_tells hl (fun m hm => (iso _ m hm).closeInit _ _) fun _ _ _ _ => rfl
  | closeConfirm msg =>
    exact chanClose_tells hl (fun m hm => (iso _ m hm).closeConfirm _ _) fun _ _ _ _ => rfl

theorem packetMsg_tells (iso : H.Isolated) (msg : PacketMsg)
    (hl : H.lookupModuleByPort msg.localPort = some moduleId)
    (hv : msg.validate H s moduleId = .ok ()) :
    Ensures (msg.execute H moduleId) s (Tells H.library s) := by
  cases msg with
  | recv msg => exact recvPacket_tells iso hl hv
  | ack msg => exact acknowledgementPacket_tells iso hl
  | timeout msg => exact timeoutPacket_tells iso (.timeout msg) hl
  | timeoutOnClose msg => exact timeoutPacket_tells iso (.timeoutOnClose msg) hl

theorem execute_tells (iso : H.Isolated) (msg : MsgEnvelope) (hv : validate H s msg = .ok ()) :
    Ensures (execute H msg) s (Tells H.library s) := by
  cases msg with
  | client msg =>
    cases msg with
    | createClient msg => exact createClient_tells msg
    | updateClient msg => exact updateClient_tells msg.toUpdate
    | misbehaviour msg => exact updateClient_tells msg.toUpdate
    | upgradeClient msg => exact upgradeClient_tells msg
  | connection msg =>
    cases msg with
    | openInit msg => exact connOpenInit_tells msg
    | openTry msg => exact connOpenTry_tells msg
    | openAck msg => exact connOpenAck_tells msg
    | openConfirm msg => exact connOpenConfirm_tells msg
  | channel msg =>
    refine Ensures.ofExcept_bind (fun _ _ => .error) fun moduleId hl => ?_
    exact channelMsg_tells iso msg (Result.okOr_eq_ok.mp hl)
  | packet msg =>
    exact lookupModule_ensures hv fun _ hl hv => packetMsg_tells iso msg hl hv

/-- Every input that succeeds tells what it wrote. -/
theorem Input.run_tells (iso : H.Isolated) (i : Input Cons μ) :
    Ensures (i.run H) s (Tells H.library s) := by
  cases i with
  | dispatch msg =>
    refine ensures_read_bind (Ensures.ofResult_bind (fun _ _ => .error) fun _ hv => ?_)
    exact execute_tells iso msg hv
  | sendPacket p => exact sendPacket_tells p
  | newBlock env => exact .events [] ⟨[], []⟩ (by simp [Input.run]) fun _ hx => hx
  | application app => exact .events [] ⟨[], []⟩ (by simp [Input.run]) fun _ hx => hx

end Handlers

/-! ### Whole runs -/

/-- A host that keeps what a call wrote, and what it emitted, only if the call succeeds. -/
def Input.commit (H : Host CS Cons μ) (s : Ctx CS Cons μ) (i : Input Cons μ) : Ctx CS Cons μ :=
  match i.run H s with
  | (.ok (), s') => s'
  | (.error _, _) => s

/-- The inputs given to such a host, one after the other. -/
def commitAll (H : Host CS Cons μ) (inputs : List (Input Cons μ)) (s : Ctx CS Cons μ) :
    Ctx CS Cons μ :=
  inputs.foldl (Input.commit H) s

theorem Input.commit_shows {H : Host CS Cons μ} (iso : H.Isolated) (i : Input Cons μ)
    {s : Ctx CS Cons μ} (h : (Index.replay s.events).Shows H.library s.store) :
    (Index.replay (i.commit H s).events).Shows H.library (i.commit H s).store := by
  have htells := i.run_tells iso (s := s)
  unfold Input.commit
  rcases hrun : i.run H s with ⟨_ | ⟨⟩, s'⟩
  · exact h
  · rw [Ensures, hrun] at htells
    obtain ⟨events, hevents, hshows⟩ := htells rfl
    change (Index.replay s'.events).Shows H.library s'.store
    rw [hevents, Index.replay, Index.after_append]
    exact hshows _ h

/-- An index that shows the store still does after any inputs. -/
theorem commitAll_shows {H : Host CS Cons μ} (iso : H.Isolated) {s : Ctx CS Cons μ}
    (h : (Index.replay s.events).Shows H.library s.store) (inputs : List (Input Cons μ)) :
    (Index.replay (commitAll H inputs s).events).Shows H.library
      (commitAll H inputs s).store := by
  induction inputs generalizing s with
  | nil => exact h
  | cons i inputs ih => exact ih (i.commit_shows iso h)

/-- A chain that has done nothing yet. -/
structure Ctx.New (s : Ctx CS Cons μ) : Prop where
  store : s.store = Store.empty
  events : s.events = []

theorem Ctx.New.shows {lib : Library} {s : Ctx CS Cons μ} (h : s.New) :
    (Index.replay s.events).Shows lib s.store := by
  rw [h.store, h.events]
  exact Index.shows_empty

/-- **The events tell the store.** Whatever messages a chain is given, in any order, the index of
the events it emitted shows the connections, the channels, the packets in flight and the packets
answered, with nothing missing and nothing besides. -/
theorem events_index_store {H : Host CS Cons μ} (iso : H.Isolated) {s : Ctx CS Cons μ}
    (hs : s.New) (inputs : List (Input Cons μ)) :
    (Index.replay (commitAll H inputs s).events).Shows H.library
      (commitAll H inputs s).store :=
  commitAll_shows iso hs.shows inputs

namespace MockRun

/-- The sample channel is opened and the sample packet sent. Sending it once more fails, as its
sequence is used up, and leaves nothing. -/
def sending : List (Input MockConsensusState Unit) :=
  opening .unordered ++ [.sendPacket packet, .sendPacket packet]

/-- The observer of the sample chain knows of the channel and of the packet in flight. -/
theorem sent_packet_indexed :
    (Index.replay (commitAll host sending start).events).Shows library
        (commitAll host sending start).store ∧
      (Index.replay (commitAll host sending start).events).channels (.transfer, channelId) =
        some ⟨.open, ⟨.transfer, some channelId⟩, connectionId⟩ ∧
      (Index.replay (commitAll host sending start).events).inFlight packet.keyOnA = some packet :=
  ⟨events_index_store host_isolated ⟨rfl, rfl⟩ sending, by decide +kernel, by decide +kernel⟩

end MockRun

end Ibc
