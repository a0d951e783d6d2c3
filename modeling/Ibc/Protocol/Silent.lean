import Ibc.Protocol.Step

/-!
# Events and logs are only written

A host keeps the events and the logs of its calls, and no call of the core reads them: from two
states that differ only in these a step does the same (`Step.silent`). So what an application adds
to them is no concern of the core.
-/

namespace Ibc

variable {CS Cons μ : Type} (H : Host CS Cons μ)

/-- The state without its events and its logs. -/
def Ctx.silent (s : Ctx CS Cons μ) : Ctx CS Cons μ := { s with events := [], logs := [] }

/-- What is left without them. -/
theorem Ctx.silent_eq_silent {s t : Ctx CS Cons μ} : s.silent = t.silent ↔
    s.store = t.store ∧ s.app = t.app ∧ s.env = t.env ∧ s.history = t.history := by
  simp [silent]

/-- The call reads neither events nor logs. -/
abbrev Blind {α : Type} (x : Handler CS Cons μ α) : Prop := Exec.Ignores Ctx.silent x

section Handlers

open Exec Exec.Ignores

variable {α β : Type} {f : α → Handler CS Cons μ β}

/-! ### Parts of handlers -/

/-- A result reads nothing. -/
theorem blind_pure (a : α) : Blind (pure a : Handler CS Cons μ α) := fun _ => ⟨rfl, rfl⟩

/-- Neither does a computation without the state. -/
theorem blind_ofResult_bind {r : Result ContextError α} (hf : ∀ a, Blind (f a)) :
    Blind (ofResult r >>= f) := Ignores.bind (fun _ => ⟨rfl, rfl⟩) hf

/-- A callback is given the store and the application. -/
theorem blind_runCallback_bind {x : Callback (Store CS Cons) μ α} (hf : ∀ a, Blind (f a)) :
    Blind (runCallback x >>= f) := Ignores.bind (fun _ => ⟨rfl, rfl⟩) hf

/-- An operation of the light client is given the client records. -/
theorem blind_runClient_bind {x : Exec (Clients CS Cons) ClientError α} (hf : ∀ a, Blind (f a)) :
    Blind (runClient x >>= f) := Ignores.bind (fun _ => ⟨rfl, rfl⟩) hf

/-- An event is added unseen. -/
theorem blind_emitIbcEvent_bind {e : IbcEvent} {g : Unit → Handler CS Cons μ β}
    (hg : Blind (g ())) : Blind (write (·.emitIbcEvent e) >>= g) := write_bind (fun _ => rfl) hg

/-- A log line is added unseen. -/
theorem blind_logMessage_bind {m : String} {g : Unit → Handler CS Cons μ β}
    (hg : Blind (g ())) : Blind (write (·.logMessage m) >>= g) := write_bind (fun _ => rfl) hg

theorem increaseClientCounter_blind : Blind (increaseClientCounter : Handler CS Cons μ Unit) :=
  read_bind (fun _ => rfl) fun _ => blind_ofResult_bind fun _ _ => ⟨rfl, rfl⟩

theorem increaseConnectionCounter_blind :
    Blind (increaseConnectionCounter : Handler CS Cons μ Unit) :=
  read_bind (fun _ => rfl) fun _ => blind_ofResult_bind fun _ _ => ⟨rfl, rfl⟩

/-- The writes of a new channel. -/
theorem openChannel_blind (key : ChannelKey) (e : ChannelEnd) :
    Blind (openChannel key e : Handler CS Cons μ Unit) := by
  have hcount : Blind (increaseChannelCounter : Handler CS Cons μ Unit) :=
    read_bind (fun _ => rfl) fun _ => blind_ofResult_bind fun _ _ => ⟨rfl, rfl⟩
  exact write_bind (fun _ => rfl) <| hcount.bind fun _ _ => ⟨rfl, rfl⟩

/-- The mark of a received packet. -/
theorem markReceived_blind (ordering : Order) (p : Packet) :
    Blind (markReceived ordering p : Handler CS Cons μ Unit) := by
  cases ordering with
  | none | unordered => exact fun _ => ⟨rfl, rfl⟩
  | ordered =>
    refine read_bind (fun _ => rfl) fun s => ?_
    exact blind_ofResult_bind fun _ => blind_ofResult_bind fun _ _ => ⟨rfl, rfl⟩

theorem advanceNextSequenceAck_blind (ordering : Order) (p : Packet) :
    Blind (advanceNextSequenceAck ordering p : Handler CS Cons μ Unit) :=
  Ignores.ite (blind_ofResult_bind fun _ _ => ⟨rfl, rfl⟩) (blind_pure ())

theorem closeIfOrdered_blind (p : Packet) (e : ChannelEnd) :
    Blind (closeIfOrdered p e : Handler CS Cons μ Unit) :=
  Ignores.ite (fun _ => ⟨rfl, rfl⟩) (blind_pure ())

theorem emitChannelClosed_blind (p : Packet) (e : ChannelEnd) :
    Blind (emitChannelClosed p e : Handler CS Cons μ Unit) :=
  Ignores.ite (blind_ofResult_bind fun _ _ => ⟨rfl, rfl⟩) (blind_pure ())

/-! ### Clients and connections -/

/-- Creating a client. -/
theorem createClient_blind (msg : MsgCreateClient) : Blind (createClientExecute H msg) := by
  refine read_bind (fun _ => rfl) fun s => ?_
  refine blind_ofResult_bind fun cs => blind_ofResult_bind fun id => ?_
  refine blind_runClient_bind fun _ => ?_
  refine write_bind (fun _ => rfl) <| write_bind (fun _ => rfl) ?_
  exact increaseClientCounter_blind.bind fun _ _ => ⟨rfl, rfl⟩

/-- Updating a client, or freezing it. -/
theorem updateClient_blind (msg : MsgUpdateOrMisbehaviour) : Blind (updateClientExecute H msg) := by
  refine read_bind (fun _ => rfl) fun s => ?_
  refine blind_ofResult_bind fun cs => blind_ofResult_bind fun found => Ignores.ite ?_ ?_
  · exact blind_runClient_bind fun _ _ => ⟨rfl, rfl⟩
  · refine blind_ofResult_bind fun _ => blind_runClient_bind fun heights => ?_
    exact write_bind (fun _ => rfl) <| blind_ofResult_bind fun _ _ => ⟨rfl, rfl⟩

/-- Upgrading a client. -/
theorem upgradeClient_blind (msg : MsgUpgradeClient) : Blind (upgradeClientExecute H msg) := by
  refine read_bind (fun _ => rfl) fun s => ?_
  exact blind_ofResult_bind fun cs => blind_runClient_bind fun _ _ => ⟨rfl, rfl⟩

/-- The first step of a connection. -/
theorem connOpenInit_blind (msg : MsgConnectionOpenInit) : Blind (connOpenInitExecute H msg) := by
  refine read_bind (fun _ => rfl) fun s => ?_
  refine blind_ofResult_bind fun versions => blind_ofResult_bind fun connEnd => ?_
  refine blind_logMessage_bind <| blind_emitIbcEvent_bind <| blind_emitIbcEvent_bind ?_
  exact increaseConnectionCounter_blind.bind fun _ _ => ⟨rfl, rfl⟩

/-- The second step. -/
theorem connOpenTry_blind (msg : MsgConnectionOpenTry) : Blind (connOpenTryExecute H msg) := by
  refine read_bind (fun _ => rfl) fun s => ?_
  refine blind_ofResult_bind fun vars => blind_ofResult_bind fun connId => ?_
  refine blind_emitIbcEvent_bind <| blind_emitIbcEvent_bind <| blind_logMessage_bind ?_
  exact increaseConnectionCounter_blind.bind fun _ _ => ⟨rfl, rfl⟩

/-- The third step. -/
theorem connOpenAck_blind (msg : MsgConnectionOpenAck) :
    Blind (connOpenAckExecute msg : Handler CS Cons μ Unit) :=
  read_bind (fun _ => rfl) fun _ => blind_ofResult_bind fun _ _ => ⟨rfl, rfl⟩

/-- The last step. -/
theorem connOpenConfirm_blind (msg : MsgConnectionOpenConfirm) :
    Blind (connOpenConfirmExecute msg : Handler CS Cons μ Unit) := by
  refine read_bind (fun _ => rfl) fun s => ?_
  exact blind_ofResult_bind fun _ => blind_ofResult_bind fun _ _ => ⟨rfl, rfl⟩

/-! ### Channels -/

/-- The first step of a channel. -/
theorem chanOpenInit_blind (moduleId : ModuleId) (msg : MsgChannelOpenInit) :
    Blind (chanOpenInitExecute H moduleId msg) := by
  refine read_bind (fun _ => rfl) fun s => ?_
  refine blind_ofResult_bind fun m => blind_runCallback_bind fun answer => ?_
  refine blind_ofResult_bind fun agreed => ?_
  refine blind_ofResult_bind fun connId => blind_ofResult_bind fun e => ?_
  exact (openChannel_blind _ e).bind fun _ _ => ⟨rfl, rfl⟩

/-- The second step. -/
theorem chanOpenTry_blind (moduleId : ModuleId) (msg : MsgChannelOpenTry) :
    Blind (chanOpenTryExecute H moduleId msg) := by
  refine read_bind (fun _ => rfl) fun s => ?_
  refine blind_ofResult_bind fun m => blind_runCallback_bind fun answer => ?_
  refine blind_ofResult_bind fun agreed => ?_
  refine blind_ofResult_bind fun connId => blind_ofResult_bind fun e => ?_
  exact (openChannel_blind _ e).bind fun _ _ => ⟨rfl, rfl⟩

/-- The third step. -/
theorem chanOpenAck_blind (moduleId : ModuleId) (msg : MsgChannelOpenAck) :
    Blind (chanOpenAckExecute H moduleId msg) := by
  refine blind_ofResult_bind fun m => blind_runCallback_bind fun answer => ?_
  refine blind_ofResult_bind fun extras => read_bind (fun _ => rfl) fun s => ?_
  refine blind_ofResult_bind fun e => write_bind (fun _ => rfl) <| blind_logMessage_bind ?_
  exact blind_ofResult_bind fun connId _ => ⟨rfl, rfl⟩

/-- The last step. -/
theorem chanOpenConfirm_blind (moduleId : ModuleId) (msg : MsgChannelOpenConfirm) :
    Blind (chanOpenConfirmExecute H moduleId msg) := by
  refine blind_ofResult_bind fun m => blind_runCallback_bind fun answer => ?_
  refine blind_ofResult_bind fun extras => read_bind (fun _ => rfl) fun s => ?_
  refine blind_ofResult_bind fun e => write_bind (fun _ => rfl) <| blind_logMessage_bind ?_
  exact blind_ofResult_bind fun connId => blind_ofResult_bind fun chanId _ => ⟨rfl, rfl⟩

/-- Closing a channel, on either side. -/
theorem chanClose_blind (moduleId : ModuleId) (key : ChannelKey)
    (callback : Module (Store CS Cons) μ →
      Callback (Store CS Cons) μ (Except ChannelError ModuleExtras))
    (log : String) (event : PortId → ChannelId → ConnectionId → IbcEvent) :
    Blind (chanCloseExecute H moduleId key callback log event) := by
  refine blind_ofResult_bind fun m => blind_runCallback_bind fun answer => ?_
  refine blind_ofResult_bind fun extras => read_bind (fun _ => rfl) fun s => ?_
  refine blind_ofResult_bind fun e => write_bind (fun _ => rfl) <| blind_logMessage_bind ?_
  exact blind_ofResult_bind fun chanId => blind_ofResult_bind fun connId _ => ⟨rfl, rfl⟩

/-! ### Packets -/

/-- Sending a packet. -/
theorem sendPacket_blind (p : Packet) : Blind (sendPacket H p) := by
  refine read_bind (fun _ => rfl) fun s => blind_ofResult_bind fun _ => ?_
  refine read_bind (fun _ => rfl) fun s => blind_ofResult_bind fun next => ?_
  refine blind_ofResult_bind fun seq => write_bind (fun _ => rfl) ?_
  refine blind_ofResult_bind fun cm => write_bind (fun _ => rfl) <| write_bind (fun _ => rfl) ?_
  refine read_bind (fun _ => rfl) fun s => blind_ofResult_bind fun e => ?_
  exact blind_ofResult_bind fun connId _ => ⟨rfl, rfl⟩

/-- Receiving a packet. -/
theorem recvPacket_blind (moduleId : ModuleId) (msg : MsgRecvPacket) :
    Blind (recvPacketExecute H moduleId msg) := by
  refine read_bind (fun _ => rfl) fun s => ?_
  refine blind_ofResult_bind fun e => blind_ofResult_bind fun already => ?_
  refine Ignores.ite (blind_pure ()) (blind_ofResult_bind fun m => ?_)
  refine blind_runCallback_bind fun answer => write_bind (fun _ => rfl) ?_
  refine (markReceived_blind _ _).bind fun _ => write_bind (fun _ => rfl) ?_
  refine blind_logMessage_bind <| blind_logMessage_bind ?_
  exact blind_ofResult_bind fun connId _ => ⟨rfl, rfl⟩

/-- Taking an acknowledgement. -/
theorem acknowledgementPacket_blind (moduleId : ModuleId) (msg : MsgAcknowledgement) :
    Blind (acknowledgementPacketExecute H moduleId msg) := by
  refine read_bind (fun _ => rfl) fun s => ?_
  refine blind_ofResult_bind fun e => blind_ofResult_bind fun connId => ?_
  refine blind_emitIbcEvent_bind <| blind_emitIbcEvent_bind ?_
  split
  · exact blind_pure ()
  · refine blind_ofResult_bind fun m => blind_runCallback_bind fun answer => ?_
    refine write_bind (fun _ => rfl) <| blind_ofResult_bind fun _ => write_bind (fun _ => rfl) ?_
    exact (advanceNextSequenceAck_blind _ _).bind fun _ _ => ⟨rfl, rfl⟩

/-- A timeout, of either kind. -/
theorem timeoutPacket_blind (moduleId : ModuleId) (msg : TimeoutMsgType) :
    Blind (timeoutPacketExecute H moduleId msg) := by
  refine read_bind (fun _ => rfl) fun s => blind_ofResult_bind fun e => ?_
  refine blind_emitIbcEvent_bind <| blind_emitIbcEvent_bind ?_
  split
  · exact blind_pure ()
  · refine blind_ofResult_bind fun m => blind_runCallback_bind fun answer => ?_
    refine write_bind (fun _ => rfl) <| blind_ofResult_bind fun _ => write_bind (fun _ => rfl) ?_
    refine (closeIfOrdered_blind _ _).bind fun _ => blind_logMessage_bind ?_
    exact (emitChannelClosed_blind _ _).bind fun _ _ => ⟨rfl, rfl⟩

/-! ### Whole inputs -/

/-- The execution of any message. -/
theorem execute_blind (msg : MsgEnvelope) : Blind (execute H msg) := by
  cases msg with
  | client msg =>
    cases msg with
    | createClient msg => exact createClient_blind H msg
    | updateClient msg => exact updateClient_blind H msg.toUpdate
    | misbehaviour msg => exact updateClient_blind H msg.toUpdate
    | upgradeClient msg => exact upgradeClient_blind H msg
  | connection msg =>
    cases msg with
    | openInit msg => exact connOpenInit_blind H msg
    | openTry msg => exact connOpenTry_blind H msg
    | openAck msg => exact connOpenAck_blind msg
    | openConfirm msg => exact connOpenConfirm_blind msg
  | channel msg =>
    refine blind_ofResult_bind fun moduleId => ?_
    cases msg with
    | openInit msg => exact chanOpenInit_blind H moduleId msg
    | openTry msg => exact chanOpenTry_blind H moduleId msg
    | openAck msg => exact chanOpenAck_blind H moduleId msg
    | openConfirm msg => exact chanOpenConfirm_blind H moduleId msg
    | closeInit msg => exact chanClose_blind H moduleId _ _ _ _
    | closeConfirm msg => exact chanClose_blind H moduleId _ _ _ _
  | packet msg =>
    refine blind_ofResult_bind fun moduleId => ?_
    cases msg with
    | recv msg => exact recvPacket_blind H moduleId msg
    | ack msg => exact acknowledgementPacket_blind H moduleId msg
    | timeout msg => exact timeoutPacket_blind H moduleId (.timeout msg)
    | timeoutOnClose msg => exact timeoutPacket_blind H moduleId (.timeoutOnClose msg)

/-- Validation does not look at events and logs either. -/
theorem validate_silent (s : Ctx CS Cons μ) (msg : MsgEnvelope) :
    validate H s msg = validate H s.silent msg := by
  rcases msg with msg | msg | msg | msg <;> cases msg <;> rfl

/-- So no input reads them. -/
theorem Input.run_blind (i : Input Cons μ) : Blind (i.run H) := by
  cases i with
  | dispatch msg =>
    refine read_bind (fun s => ?_) fun s => blind_ofResult_bind fun _ => execute_blind H msg
    rw [validate_silent H s msg]
  | sendPacket p => exact sendPacket_blind H p
  | newBlock env => exact fun _ => ⟨rfl, rfl⟩
  | application app => exact fun _ => ⟨rfl, rfl⟩

end Handlers

/-- **A step does not depend on events and logs.** -/
theorem Step.silent {H : Host CS Cons μ} {i : Input Cons μ} {s s' t : Ctx CS Cons μ}
    (h : Step H i s s') (hst : s.silent = t.silent) :
    ∃ t', Step H i t t' ∧ s'.silent = t'.silent := by
  obtain ⟨r, hrun, hr⟩ := h
  obtain ⟨hresult, hstate⟩ := (i.run_blind H).congr hst
  rw [hrun] at hresult hstate
  exact ⟨(i.run H t).2, ⟨r, Prod.ext hresult.symm rfl, hr⟩, hstate⟩

end Ibc
