import Ibc.Protocol.Closed
import Ibc.Protocol.Delay
import Ibc.Tendermint.Resubmit
import Ibc.Tendermint.Stored
import Ibc.Tendermint.World

/-!
# How long a consensus state has been stored

A connection's delay gives people time to stop a wrong consensus state before packets are proved
with it. The host notes its time and height when a client is created and when a header comes in, for
the height of the header (`ClientStore.noted`), and a packet is checked against the note for the
height of its proof (`Step.delay_checked`).

* **`packet_proofs_seasoned`**: as long as headers come in order, what a packet is proved with has
  been stored, and not changed, since a block that is at least the delay ago. But a header that is
  older than the client's latest height is stored at the latest height, where the note stays as it
  was. So the delay has passed for the new consensus state as soon as it has for the old one.
-/

namespace Ibc

open Exec

/-! ### The delay check of a packet -/

section Checked

variable {CS Cons μ : Type} {H : Host CS Cons μ} {s s' : Ctx CS Cons μ} {moduleId : ModuleId}

/-- The height of the other chain that the proofs of a message are for. -/
def PacketMsg.proofHeight : PacketMsg → Height
  | .recv msg => msg.proofHeightOnA
  | .ack msg => msg.proofHeightOnB
  | .timeout msg => msg.proofHeightOnB
  | .timeoutOnClose msg => msg.proofHeightOnB

/-- The delay of the connection under a channel end has passed for a height. -/
def DelayChecked (H : Host CS Cons μ) (s : Ctx CS Cons μ) (key : ChannelKey) (h : Height) : Prop :=
  ∃ e conn, s.store.channel.channels key = some e ∧
    s.store.connectionUnder e.connectionHops = some conn ∧
    verifyConnDelayPassed H s h conn = .ok ()

theorem recvPacketValidate_delay {msg : MsgRecvPacket} (h : recvPacketValidate H s msg = .ok ()) :
    DelayChecked H s msg.packet.chanOnB msg.proofHeightOnA := by
  obtain ⟨e, conn, client, hv⟩ := recvPacketValidate_eq_ok.mp h
  exact ⟨e, conn, hv.channel, hv.connection, verifyConnDelayPassed_iff.mpr hv.delay⟩

theorem acknowledgementPacketValidate_delay {msg : MsgAcknowledgement} {cm : PacketCommitment}
    (h : acknowledgementPacketValidate H s moduleId msg = .ok ())
    (hcm : s.store.channel.packetCommitment msg.packet.keyOnA = some cm) :
    DelayChecked H s msg.packet.chanOnA msg.proofHeightOnB := by
  obtain ⟨m, hm⟩ := acknowledgement_route h
  obtain ⟨e, conn, client, hv⟩ := (acknowledgementPacketValidate_eq_ok hm hcm).mp h
  exact ⟨e, conn, hv.channel, hv.connection, verifyConnDelayPassed_iff.mpr hv.delay⟩

theorem timeoutPacketValidate_delay {msg : MsgTimeout} {cm : PacketCommitment}
    (h : timeoutPacketValidate H s moduleId (.timeout msg) = .ok ())
    (hcm : s.store.channel.packetCommitment msg.packet.keyOnA = some cm) :
    DelayChecked H s msg.packet.chanOnA msg.proofHeightOnB := by
  obtain ⟨m, hm⟩ := timeout_route h
  obtain ⟨e, conn, client, hv⟩ := (timeoutPacketValidate_eq_ok hm hcm).mp h
  exact ⟨e, conn, hv.channel, hv.connection, verifyConnDelayPassed_iff.mpr hv.delay⟩

theorem timeoutOnClosePacketValidate_delay {msg : MsgTimeoutOnClose} {cm : PacketCommitment}
    (h : timeoutPacketValidate H s moduleId (.timeoutOnClose msg) = .ok ())
    (hcm : s.store.channel.packetCommitment msg.packet.keyOnA = some cm) :
    DelayChecked H s msg.packet.chanOnA msg.proofHeightOnB := by
  obtain ⟨m, hm⟩ := timeout_route h
  obtain ⟨e, conn, _, client, hv⟩ := (timeoutOnClosePacketValidate_eq_ok hm hcm).mp h
  exact ⟨e, conn, hv.channel, hv.connection, verifyConnDelayPassed_iff.mpr hv.delay⟩

/-- An acknowledgement or a timeout of a packet that is not in flight is not recorded. -/
theorem acknowledgementPacketExecute_quiet {msg : MsgAcknowledgement}
    (hcm : s.store.channel.packetCommitment msg.packet.keyOnA = none) :
    Ensures (acknowledgementPacketExecute H moduleId msg) s fun _ s' => s'.history = s.history := by
  refine ensures_read_bind (Ensures.ofExcept_bind (fun _ _ => rfl) fun e _ => ?_)
  refine Ensures.index_zero_bind rfl fun _ => ?_
  refine ensures_write_bind (ensures_write_bind ?_)
  simp only [Ctx.getPacketCommitment, hcm, Result.okOr_none]
  rfl

theorem timeoutPacketExecute_quiet {msg : TimeoutMsgType}
    (hcm : s.store.channel.packetCommitment msg.packet.keyOnA = none) :
    Ensures (timeoutPacketExecute H moduleId msg) s fun _ s' => s'.history = s.history := by
  refine ensures_read_bind (Ensures.ofExcept_bind (fun _ _ => rfl) fun e _ => ?_)
  refine ensures_write_bind (ensures_write_bind ?_)
  simp only [Ctx.getPacketCommitment, hcm, Result.okOr_none]
  rfl

/-- **A packet message that does something has passed the delay check** for the height of its
proofs. -/
theorem Step.delay_checked {msg : PacketMsg} (h : Step H (.dispatch (.packet msg)) s s')
    (hh : s'.history ≠ s.history) : DelayChecked H s msg.localChannel msg.proofHeight := by
  have hends : Ensures (dispatch H (.packet msg)) s fun _ s' => s'.history ≠ s.history →
      DelayChecked H s msg.localChannel msg.proofHeight := by
    refine ensures_read_bind (Ensures.ofResult_bind (fun _ _ hne => absurd rfl hne) fun _ hv => ?_)
    obtain ⟨id, hl, hv⟩ := Result.bind_eq_ok.mp hv
    refine Ensures.ofExcept_bind (fun _ _ hne => absurd rfl hne) fun id' hl' => ?_
    cases msg with
    | recv msg => exact fun _ => recvPacketValidate_delay hv
    | ack msg =>
      cases hcm : s.store.channel.packetCommitment msg.packet.keyOnA with
      | none =>
        exact (acknowledgementPacketExecute_quiet hcm).mono fun _ _ heq hne => absurd heq hne
      | some cm => exact fun _ => acknowledgementPacketValidate_delay hv hcm
    | timeout msg =>
      cases hcm : s.store.channel.packetCommitment msg.packet.keyOnA with
      | none => exact (timeoutPacketExecute_quiet hcm).mono fun _ _ heq hne => absurd heq hne
      | some cm => exact fun _ => timeoutPacketValidate_delay hv hcm
    | timeoutOnClose msg =>
      cases hcm : s.store.channel.packetCommitment msg.packet.keyOnA with
      | none => exact (timeoutPacketExecute_quiet hcm).mono fun _ _ heq hne => absurd heq hne
      | some cm => exact fun _ => timeoutOnClosePacketValidate_delay hv hcm
  obtain ⟨r, hrun, -⟩ := h
  rw [Ensures, show dispatch H (.packet msg) s = (r, s') from hrun] at hends
  exact hends hh

end Checked

/-! ### What the host notes -/

section Noted

variable {CS Cons μ : Type}

/-- The time and the height of the host that are noted for a client and a height. -/
def ClientStore.noted (c : ClientStore CS Cons) (k : ClientId × Height) :
    Option Timestamp × Option Height :=
  (c.clientProcessedTimes k, c.clientProcessedHeights k)

/-- What the host notes in a block. -/
def HostEnv.note (env : HostEnv Cons) : Option Timestamp × Option Height :=
  (some env.hostTimestamp, some env.hostHeight)

theorem ClientStore.noted_storeUpdate (c : ClientStore CS Cons) (id : ClientId) (h : Height)
    (env : HostEnv Cons) :
    ((c.storeUpdateTime id h env.hostTimestamp).storeUpdateHeight id h env.hostHeight).noted =
      Function.update c.noted (id, h) env.note := by
  funext k
  simp only [noted, storeUpdateTime, storeUpdateHeight, Function.update_apply, HostEnv.note]
  split_ifs <;> rfl

variable {H : Host CS Cons μ} {s : Ctx CS Cons μ} {conn : ConnectionEnd} {env : HostEnv Cons}
  {h : Height}

/-- The delay of the connection has passed since a block of the host, in time and in blocks. -/
structure DelayPassed (H : Host CS Cons μ) (s : Ctx CS Cons μ) (conn : ConnectionEnd)
    (env : HostEnv Cons) : Prop where
  time : ∀ t, env.hostTimestamp.time = some t → TimePassed s conn t
  blocks : BlocksPassed H s conn env.hostHeight

/-- The check counts from the block that was noted. -/
theorem verifyConnDelayPassed_since (hn : s.store.client.noted (conn.clientId, h) = env.note)
    (hok : verifyConnDelayPassed H s h conn = .ok ()) : DelayPassed H s conn env := by
  obtain ⟨htime, hheight⟩ := Prod.mk.inj hn
  obtain ⟨_, _, earliest, ht, hh, hadd, hlt, -, hle⟩ := verifyConnDelayPassed_iff.mp hok
  cases htime.symm.trans ht
  cases hheight.symm.trans hh
  refine ⟨fun t ht => timePassed_iff.mpr ⟨earliest, ?_, hlt⟩, hle⟩
  rwa [show env.hostTimestamp = ⟨some t⟩ from congrArg Timestamp.mk ht] at hadd

/-- The check fails for a height that nothing is noted for. -/
theorem noted_of_verifyConnDelayPassed (hok : verifyConnDelayPassed H s h conn = .ok ()) :
    s.store.client.noted (conn.clientId, h) ≠ (none, none) := by
  intro hn
  obtain ⟨htime, -⟩ := Prod.mk.inj hn
  obtain ⟨_, _, _, ht, -⟩ := verifyConnDelayPassed_iff.mp hok
  cases htime.symm.trans ht

end Noted

/-! ### One step -/

section Tendermint

variable {μ : Type} {lib : TmLibrary} {H : TmHost μ}
  {s s' : TmCtx μ} {i : Input TmConsensusState μ}

/-- What a message for a client does to consensus states and notes. Either it notes the block for
the one consensus state that it may change, or it notes nothing and changes no consensus state that
was there. -/
inductive Notes (s : TmCtx μ)
    (c : ClientStore TmClientState TmConsensusState) : Prop where
  | quiet (hn : c.noted = s.store.client.noted)
      (hc : ∀ id h cons, s.store.client.clients.consensusState id h = some cons →
        c.clients.consensusState id h = some cons)
  | notes (id : ClientId) (h : Height) (cons : TmConsensusState)
      (hn : c.noted = Function.update s.store.client.noted (id, h) s.env.note)
      (hcons : c.clients.consensusState id h = some cons)
      (hc : ∀ id' h', (id', h') ≠ (id, h) →
        c.clients.consensusState id' h' = s.store.client.clients.consensusState id' h')

/-- A handler ends in what is noted, or panics. -/
def EndsNoted (s : TmCtx μ) (r : Result ContextError Unit)
    (s' : TmCtx μ) : Prop := r.Returns → Notes s s'.store.client

theorem EndsNoted.refl {r : Result ContextError Unit} : EndsNoted s r s :=
  fun _ => .quiet rfl fun _ _ _ h => h

theorem EndsNoted.panic {c : Panic} : EndsNoted s (.error (.panic c)) s' :=
  fun h => absurd h Result.not_returns_panic

/-- The rule for an operation of the client that fails safely. -/
theorem runClient_endsNoted {α : Type} {x : Exec TmClientState.Records ClientError α}
    {f : α → Handler TmClientState TmConsensusState μ Unit}
    {P : Result ClientError α → TmClientState.Records → Prop} (hx : x.Atomic)
    (hP : Ensures x s.store.client.clients P)
    (hf : ∀ a c, P (.ok a) c →
      Ensures (f a) (s.onClient fun cl => { cl with clients := c }) (EndsNoted s)) :
    Ensures (runClient x >>= f) s (EndsNoted s) := by
  refine ensures_runClient (fun e c hr => ?_) (fun _ _ => .panic) fun a c hr => hf a c ?_
  · have hatomic := hx s.store.client.clients
    rw [Ensures, hr] at hatomic
    obtain rfl : c = s.store.client.clients := hatomic e rfl
    exact .refl
  · rw [Ensures, hr] at hP
    exact hP

theorem createClient_endsNoted (tm : H.Tendermint lib) {msg : MsgCreateClient} :
    Ensures (createClientExecute H msg) s (EndsNoted s) := by
  unfold createClientExecute
  refine ensures_read_bind (Ensures.ofResult_bind (fun _ _ => .refl) fun cs _ => ?_)
  refine Ensures.ofExcept_bind (fun _ _ => .refl) fun id _ => ?_
  rw [tm.lightClient]
  refine runClient_endsNoted ((tmClient_failSafe lib).initialise _ _ _) initialise_ensures
    fun _ c hc => ?_
  obtain ⟨cons, rfl⟩ := hc rfl
  refine ensures_write_bind (ensures_write_bind ?_)
  refine increaseClientCounter_ensures (fun _ => .panic) fun _ => ?_
  have hstored (id' : ClientId) (h' : Height) :
      Clients.consensusState ((s.store.client.clients.storeClientState id cs).storeConsensusState id
        cs.latestHeight cons) id' h' =
      if id' = id ∧ h' = cs.latestHeight then some cons
      else s.store.client.clients.consensusState id' h' := by simp
  exact .notes id cs.latestHeight cons (ClientStore.noted_storeUpdate _ _ _ _)
    ((hstored _ _).trans (if_pos ⟨rfl, rfl⟩)) fun id' h' hne =>
      (hstored id' h').trans (if_neg fun heq => hne (Prod.ext heq.1 heq.2))

/-- An update with a header that is older than the latest height of its client, and not stored. -/
structure LateHeader (lib : TmLibrary) (c : TmClientState.Records) (msg : MsgUpdateClient)
    (cs : TmClientState) (header : TmHeader) (h : Height) : Prop where
  client : c.clientState msg.clientId = some cs
  decoded : lib.headerOf msg.header = .ok header
  hasHeight : header.HasHeight lib h
  absent : c.consensusState msg.clientId h = none
  older : h < cs.latestHeight

/-- The input brings no late header. -/
def Input.InOrder (lib : TmLibrary) (s : TmCtx μ)
    (i : Input TmConsensusState μ) : Prop :=
  ∀ msg cs header h, i = .dispatch (.client (.updateClient msg)) →
    ¬ LateHeader lib s.store.client.clients msg cs header h

/-- A header that is not late and not flagged is the consensus state at its height, and changes no
other one. -/
theorem takeHeader_inOrder {c : TmClientState.Records} {msg : MsgUpdateClient} {cs : TmClientState}
    {header : TmHeader} {h : Height} (horder : ¬ LateHeader lib c msg cs header h)
    (hcs : c.clientState msg.clientId = some cs) (hd : lib.headerOf msg.header = .ok header)
    (hh : header.HasHeight lib h) :
    (∃ cons, (TmClientState.takeHeader c msg.clientId cs header h false).consensusState msg.clientId
      h = some cons) ∧
    ∀ id' h', (id', h') ≠ (msg.clientId, h) →
      (TmClientState.takeHeader c msg.clientId cs header h false).consensusState id' h' =
        c.consensusState id' h' := by
  by_cases hnew : c.consensusState msg.clientId h = none
  · have hle : cs.latestHeight ≤ h := not_lt.mp fun hlt => horder ⟨hcs, hd, hh, hnew, hlt⟩
    have hrec : RecordsHeader c _ msg.clientId cs header h := recordsHeader_of_latest_le hnew hle
    exact ⟨⟨_, hrec.recorded⟩, fun id' h' hne =>
      hrec.otherHeights id' h' fun heq => hne (Prod.ext heq.1 heq.2)⟩
  · rw [TmClientState.takeHeader, if_neg Bool.false_ne_true, if_pos hnew]
    exact ⟨Option.ne_none_iff_exists'.mp hnew, fun _ _ _ => rfl⟩

/-- An update notes the block for the height of the header that it takes. A flagged header is not
taken. -/
theorem updateClient_takes (tm : H.Tendermint lib) {msg : MsgUpdateClient} :
    Ensures (updateClientExecute H msg.toUpdate) s fun r s' => r.Returns →
      (s'.store.client.noted = s.store.client.noted ∧
        s'.store.client.clients.consensusState = s.store.client.clients.consensusState) ∨
      ∃ cs header h, s.store.client.clients.clientState msg.clientId = some cs ∧
        lib.headerOf msg.header = .ok header ∧ header.HasHeight lib h ∧
        s'.store.client.noted =
          Function.update s.store.client.noted (msg.clientId, h) s.env.note ∧
        s'.store.client.clients =
          TmClientState.takeHeader s.store.client.clients msg.clientId cs header h false := by
  refine ensures_read_bind (Ensures.ofExcept_bind (fun _ _ _ => .inl ⟨rfl, rfl⟩) fun cs hcs => ?_)
  rw [tm.lightClient]
  refine Ensures.ofResult_bind (fun _ _ _ => .inl ⟨rfl, rfl⟩) fun flagged _ => ?_
  refine Ensures.ite (fun _ _ => .inl ⟨rfl, ?_⟩) fun _ => ?_
  · funext id h
    exact Clients.consensusState_storeClientState ..
  · refine Ensures.ofExcept_bind (fun _ _ _ => .inl ⟨rfl, rfl⟩) fun _ _ => ?_
    refine ensures_runClient (fun e c hrun _ => ?_)
      (fun _ _ hr => absurd hr Result.not_returns_panic) fun heights c hrun => ?_
    · have hatomic := (tmClient_failSafe lib).updateState cs msg.clientId msg.header
        s.store.client.clients
      rw [Ensures, show (tmClient lib).updateState cs msg.clientId msg.header _ = _ from hrun]
        at hatomic
      obtain rfl : c = s.store.client.clients := hatomic e rfl
      exact .inl ⟨rfl, rfl⟩
    · have htakes : Ensures (cs.updateState lib msg.clientId msg.header) s.store.client.clients _ :=
        updateState_ensures
      rw [Ensures, show cs.updateState lib msg.clientId msg.header _ = _ from hrun] at htakes
      obtain ⟨header, h, hd, hh, rfl, rfl⟩ := htakes heights rfl
      exact fun _ => .inr ⟨cs, header, h, Result.okOr_eq_ok.mp hcs, hd, hh,
        ClientStore.noted_storeUpdate _ _ _ _, rfl⟩

theorem updateClient_endsNoted (tm : H.Tendermint lib) {msg : MsgUpdateClient}
    (horder : ∀ cs header h, ¬ LateHeader lib s.store.client.clients msg cs header h) :
    Ensures (updateClientExecute H msg.toUpdate) s (EndsNoted s) := by
  refine (updateClient_takes tm).mono fun r s' htakes hr => ?_
  obtain ⟨hn, hc⟩ | ⟨cs, header, h, hcs, hd, hh, hn, hc⟩ := htakes hr
  · exact .quiet hn fun id h cons hcons => (congrFun (congrFun hc id) h).trans hcons
  · obtain ⟨⟨cons, hcons⟩, hother⟩ := takeHeader_inOrder (horder cs header h) hcs hd hh
    rw [← hc] at hcons hother
    exact .notes _ h cons hn hcons hother

theorem misbehaviour_endsNoted (tm : H.Tendermint lib) {msg : MsgSubmitMisbehaviour} :
    Ensures (updateClientExecute H msg.toUpdate) s (EndsNoted s) := by
  unfold updateClientExecute
  refine ensures_read_bind (Ensures.ofExcept_bind (fun _ _ => .refl) fun cs _ => ?_)
  rw [tm.lightClient]
  refine Ensures.ofResult_bind (fun _ _ => .refl) fun flagged _ => ?_
  refine Ensures.ite (fun _ => ?_) fun _ => Ensures.ofExcept_bind (fun _ _ => .refl) nofun
  refine fun _ => .quiet rfl fun id h cons hcons => ?_
  exact (Clients.consensusState_storeClientState ..).trans hcons

/-- An upgrade stores above every height that has a consensus state. -/
theorem EndsInChange.upgrade_keeps {c : TmClientState.Records} {msg : MsgUpgradeClient}
    {r : Result ContextError Unit} (hbelow : BelowLatest c)
    (hchange : EndsInChange lib c (.upgradeClient msg) r s') (hr : r.Returns) {id : ClientId}
    {h : Height} {cons : TmConsensusState} (hcons : c.consensusState id h = some cons) :
    s'.store.client.clients.consensusState id h = some cons := by
  rcases r with (e | p) | _
  · rw [show s'.store.client.clients = c from hchange, hcons]
  · exact absurd hr Result.not_returns_panic
  · simp only [EndsInChange] at hchange
    generalize s'.store.client.clients = c' at hchange ⊢
    cases hchange with
    | @upgraded _ cs cs' _ hcs hlt =>
      have hne : ¬ (id = msg.clientId ∧ h = cs'.latestHeight) := by
        rintro ⟨rfl, rfl⟩
        obtain ⟨cs₁, hcs₁, hle⟩ := hbelow _ _ _ hcons
        cases hcs.symm.trans hcs₁
        exact absurd hlt (not_lt.mpr hle)
      simp [hne, hcons]

theorem upgradeClient_endsNoted (tm : H.Tendermint lib) {msg : MsgUpgradeClient}
    (hbelow : BelowLatest s.store.client.clients) (hv : upgradeClientValidate H s msg = .ok ()) :
    Ensures (upgradeClientExecute H msg) s (EndsNoted s) := by
  have hnoted : Ensures (upgradeClientExecute H msg) s fun r s' =>
      r.Returns → s'.store.client.noted = s.store.client.noted := by
    refine ensures_read_bind (Ensures.ofExcept_bind (fun _ _ _ => rfl) fun cs _ => ?_)
    exact ensures_runClient (fun _ _ _ _ => rfl)
      (fun _ _ hr => absurd hr Result.not_returns_panic) fun _ _ _ _ => rfl
  have hchange := upgradeClient_endsInChange tm hv
  exact fun hr => .quiet (hnoted hr) fun _ _ _ hcons => hchange.upgrade_keeps hbelow hr hcons

/-- A step with headers in order notes a block for what it changes. -/
theorem Step.notes (iso : H.Isolated) (tm : H.Tendermint lib) (hr : Reachable H s)
    (hs : Step H i s s') (horder : i.InOrder lib s) : Notes s s'.store.client := by
  by_cases hi : i.isClient = true
  · obtain ⟨msg, rfl⟩ := Input.isClient_eq_true.mp hi
    have hends : Ensures (dispatch H (.client msg)) s (EndsNoted s) := by
      refine ensures_read_bind (Ensures.ofResult_bind (fun _ _ => .refl) fun _ hv => ?_)
      cases msg with
      | createClient msg => exact createClient_endsNoted tm
      | updateClient msg =>
        exact updateClient_endsNoted tm fun cs header h => horder msg cs header h rfl
      | misbehaviour msg => exact misbehaviour_endsNoted tm
      | upgradeClient msg => exact upgradeClient_endsNoted tm (hr.belowLatest iso tm) hv
    obtain ⟨r, hrun, hret⟩ := hs
    rw [Ensures, show dispatch H (.client msg) s = (r, s') from hrun] at hends
    exact hends hret
  · rw [hs.client_eq iso (by simpa using hi)]
    exact .quiet rfl fun _ _ _ h => h

/-! ### Whole runs -/

/-- The states that runs without late headers reach from an empty store. -/
inductive ReachableInOrder (lib : TmLibrary) (H : TmHost μ) :
    TmCtx μ → Prop where
  | init (s : TmCtx μ) (hst : s.store = Store.empty)
      (hh : s.history = []) : ReachableInOrder lib H s
  | step {s s' : TmCtx μ} (i : Input TmConsensusState μ)
      (hr : ReachableInOrder lib H s) (hi : i.InOrder lib s) (hs : Step H i s s') :
      ReachableInOrder lib H s'

theorem ReachableInOrder.reachable (h : ReachableInOrder lib H s) : Reachable H s := by
  induction h with
  | init s hst hh => exact .init s hst hh
  | step i _ _ hs ih => exact ih.step i hs

/-- A consensus state is stored for a client at a height. -/
def Ctx.Stores (s : TmCtx μ) (id : ClientId) (h : Height)
    (cons : TmConsensusState) : Prop := s.store.client.clients.consensusState id h = some cons

/-- The run that led to `s` took a step in the block `env` after which the consensus state was
stored, and it has been stored in every state since. -/
def StoredSince (H : TmHost μ) (env : HostEnv TmConsensusState)
    (id : ClientId) (h : Height) (cons : TmConsensusState)
    (s : TmCtx μ) : Prop :=
  ∃ a b i, Reachable H a ∧ Step H i a b ∧ a.env = env ∧ b.Stores id h cons ∧
    Relation.ReflTransGen (fun x y => (∃ i, Step H i x y) ∧ y.Stores id h cons) b s

/-- What is noted for a height is the block since which its consensus state has been stored. -/
def NotesTell (H : TmHost μ)
    (s : TmCtx μ) : Prop :=
  ∀ id h, s.store.client.noted (id, h) = (none, none) ∨
    ∃ cons env, s.Stores id h cons ∧ s.store.client.noted (id, h) = env.note ∧
      StoredSince H env id h cons s

theorem Notes.notesTell (hr : Reachable H s) (hs : Step H i s s') (h : Notes s s'.store.client)
    (ht : NotesTell H s) : NotesTell H s' := by
  -- What is kept has been stored one step longer.
  have kept {id : ClientId} {h : Height} (hn : s'.store.client.noted (id, h) =
      s.store.client.noted (id, h)) (hc : ∀ cons, s.Stores id h cons → s'.Stores id h cons) :
      s'.store.client.noted (id, h) = (none, none) ∨
        ∃ cons env, s'.Stores id h cons ∧ s'.store.client.noted (id, h) = env.note ∧
          StoredSince H env id h cons s' := by
    rw [hn]
    refine (ht id h).imp_right ?_
    rintro ⟨cons, env, hstored, hnote, a, b, j, ha, hab, henv, hb, hrun⟩
    exact ⟨cons, env, hc cons hstored, hnote, a, b, j, ha, hab, henv, hb,
      hrun.tail ⟨⟨i, hs⟩, hc cons hstored⟩⟩
  intro id h'
  cases h with
  | quiet hn hc => exact kept (congrFun hn _) (hc id h')
  | notes id₀ h₀ cons hn hcons hc =>
    by_cases hkey : (id, h') = (id₀, h₀)
    · cases hkey
      refine .inr ⟨cons, s.env, hcons, ?_, s, s', i, hr, hs, rfl, hcons, .refl⟩
      rw [hn, Function.update_self]
    · refine kept ?_ fun cons hstored => (hc id h' hkey).trans hstored
      rw [hn, Function.update_of_ne hkey]

theorem ReachableInOrder.notesTell (iso : H.Isolated) (tm : H.Tendermint lib)
    (h : ReachableInOrder lib H s) : NotesTell H s := by
  induction h with
  | init s hst _ =>
    intro id h
    rw [hst]
    exact .inl rfl
  | step i hr hi hs ih => exact (hs.notes iso tm hr.reachable hi).notesTell hr.reachable hs ih

/-! ### A late header -/

/-- A late header that is not flagged is stored at the latest height, where nothing is noted. -/
theorem LateHeader.dispatch (tm : H.Tendermint lib) {msg : MsgUpdateClient} {cs : TmClientState}
    {header : TmHeader} {h : Height} (hlate : LateHeader lib s.store.client.clients msg cs header h)
    (hok : dispatch H (.client (.updateClient msg)) s = (.ok (), s'))
    (hcheck : cs.checkForMisbehaviourUpdateClient lib s.store.client.clients msg.clientId header =
      .ok false) :
    s'.Stores msg.clientId cs.latestHeight (.ofHeader header) ∧
      s'.store.client.noted (msg.clientId, cs.latestHeight) =
        s.store.client.noted (msg.clientId, cs.latestHeight) := by
  constructor
  · obtain ⟨cs', header', h', flagged, hup⟩ := updatesTo_of_dispatch tm hok
    obtain rfl : cs' = cs := Option.some.inj (hup.stored.symm.trans hlate.client)
    obtain rfl : header' = header := Except.ok.inj (hup.decoded.symm.trans hlate.decoded)
    obtain rfl : h' = h := Except.ok.inj (hup.hasHeight.symm.trans hlate.hasHeight)
    obtain rfl : flagged = false := Except.ok.inj (hup.check.symm.trans hcheck)
    rw [Ctx.Stores, hup.records, consensusState_takeHeader hlate.absent]
    exact if_pos ⟨rfl, (max_eq_right hlate.older.le).symm⟩
  · have htakes : Ensures (Ibc.dispatch H (.client (.updateClient msg))) s fun r s' => r.Returns →
        s'.store.client.noted (msg.clientId, cs.latestHeight) =
          s.store.client.noted (msg.clientId, cs.latestHeight) := by
      refine ensures_read_bind (Ensures.ofResult_bind (fun _ _ _ => rfl) fun _ _ => ?_)
      refine (updateClient_takes tm).mono fun r s' htakes hr => ?_
      obtain ⟨hn, -⟩ | ⟨cs', header', h', -, hd, hh, hn, -⟩ := htakes hr
      · rw [hn]
      · obtain rfl : header' = header := Except.ok.inj (hd.symm.trans hlate.decoded)
        obtain rfl : h' = h := Except.ok.inj (hh.symm.trans hlate.hasHeight)
        rw [hn, Function.update_of_ne]
        exact fun heq => hlate.older.ne' (Prod.mk.inj heq).2
    rw [Ensures, hok] at htakes
    exact htakes Result.returns_ok

/-- **Packet proofs are seasoned while headers come in order.** In every state that a run without
late headers reaches, a packet message that does something is checked with a consensus state that
has been stored, unchanged, since a block after which the delay of the connection has passed. A late
header breaks this: it becomes the consensus state at the client's latest height, and the delay
check for that height answers as it did before. -/
theorem packet_proofs_seasoned (iso : H.Isolated) (tm : H.Tendermint lib) :
    (∀ s s' msg, ReachableInOrder lib H s → Step H (.dispatch (.packet msg)) s s' →
      s'.history ≠ s.history →
      ∃ e conn cons env, s.store.channel.channels msg.localChannel = some e ∧
        s.store.connectionUnder e.connectionHops = some conn ∧
        s.Stores conn.clientId msg.proofHeight cons ∧
        StoredSince H env conn.clientId msg.proofHeight cons s ∧ DelayPassed H s conn env) ∧
    ∀ s s' msg cs header h, dispatch H (.client (.updateClient msg)) s = (.ok (), s') →
      LateHeader lib s.store.client.clients msg cs header h →
      cs.checkForMisbehaviourUpdateClient lib s.store.client.clients msg.clientId header =
        .ok false →
      s'.Stores msg.clientId cs.latestHeight (.ofHeader header) ∧
        ∀ conn, conn.clientId = msg.clientId →
          verifyConnDelayPassed H s' cs.latestHeight conn =
            verifyConnDelayPassed H s cs.latestHeight conn := by
  constructor
  · intro s s' msg hr hs hh
    obtain ⟨e, conn, he, hconn, hok⟩ := hs.delay_checked hh
    obtain hnone | ⟨cons, env, hstored, hnote, hsince⟩ :=
      hr.notesTell iso tm conn.clientId msg.proofHeight
    · exact absurd hnone (noted_of_verifyConnDelayPassed hok)
    · exact ⟨e, conn, cons, env, he, hconn, hstored, hsince, verifyConnDelayPassed_since hnote hok⟩
  · intro s s' msg cs header h hok hlate hcheck
    obtain ⟨hstored, hnoted⟩ := hlate.dispatch tm hok hcheck
    refine ⟨hstored, fun conn hid => ?_⟩
    have hstep : Step H (.dispatch (.client (.updateClient msg))) s s' :=
      ⟨.ok (), hok, Result.returns_ok⟩
    have henv : s'.env = s.env := (hstep.env_eq iso).resolve_right nofun
    obtain ⟨htime, hheight⟩ := Prod.mk.inj hnoted
    simp only [verifyConnDelayPassed, Ctx.clientUpdateTime, Ctx.clientUpdateHeight, hid, henv,
      htime, hheight]

end Tendermint

/-! ### A packet proved in time, and one that need not wait -/

namespace DelayRun

section Runs

variable {μ : Type} {lib : TmLibrary} {H : TmHost μ}
  {s s' : TmCtx μ}

/-- Whether an input brings no late header. -/
def inOrder (lib : TmLibrary) (s : TmCtx μ) :
    Input TmConsensusState μ → Bool
  | .dispatch (.client (.updateClient msg)) =>
      match s.store.client.clients.clientState msg.clientId, lib.headerOf msg.header with
      | some cs, .ok header =>
          match (header.height lib : Result ClientError Height) with
          | .ok h => decide (cs.latestHeight ≤ h)
          | .error _ => true
      | _, _ => true
  | _ => true

theorem inOrder_of_check {i : Input TmConsensusState μ} (h : inOrder lib s i = true) :
    i.InOrder lib s := by
  rintro msg cs header height rfl hlate
  rw [inOrder, hlate.client, hlate.decoded] at h
  simp only [hlate.hasHeight.eq_ok, decide_eq_true_eq] at h
  exact absurd hlate.older (not_lt.mpr h)

/-- Runs the inputs; `none` when one of them panics or brings a late header. -/
def runInOrder (lib : TmLibrary) (H : TmHost μ) :
    List (Input TmConsensusState μ) → TmCtx μ →
      Option (TmCtx μ)
  | [], s => some s
  | i :: is, s =>
      if inOrder lib s i then
        match i.run H s with
        | (.error (.panic _), _) => none
        | (_, s') => runInOrder lib H is s'
      else none

theorem reachableInOrder_of_run {is : List (Input TmConsensusState μ)}
    (h : ReachableInOrder lib H s) (hrun : runInOrder lib H is s = some s') :
    ReachableInOrder lib H s' := by
  induction is generalizing s with
  | nil =>
    cases hrun
    exact h
  | cons i is ih =>
    rw [runInOrder] at hrun
    split_ifs at hrun with hi
    split at hrun
    · cases hrun
    · next r s₁ hne heq => exact ih (h.step i (inOrder_of_check hi) ⟨_, heq, hne⟩) hrun

end Runs

open MockRun (connectionId channelId signer proof)
open TmRun (block blocks clientId consensusState connOpenInit library update updateMsg)

/-- The sample library, whose verifier takes every proof under the root of block 10. -/
def provingLibrary : TmLibrary :=
  { library blocks with
    decodeClientState := fun b =>
      if b = TmWorldRun.clientState.toRaw.encode then .ok TmWorldRun.clientState.toRaw
      else .error .decode
    decodeProof := fun _ => .ok TmWorldRun.merkleProof
    ics23 := ⟨fun p => some p.ops, fun _ _ _ _ _ => true, fun _ _ _ _ => true⟩ }

def provingHost : TmHost Unit :=
  { TmRun.host blocks with
    lightClient := tmClient provingLibrary
    decodeClientState := fun any =>
      Result.ofExcept .clientError (provingLibrary.clientStateOf any) }

theorem provingHost_isolated : provingHost.Isolated := TmRun.host_isolated blocks

theorem provingHost_tendermint : provingHost.Tendermint provingLibrary := ⟨rfl, fun _ => rfl⟩

/-- A block of a host that takes every client for one of its own chain. -/
def trustingEnv (height : ℕ) (nanoseconds : ℕ) : HostEnv TmConsensusState where
  hostHeight := ⟨0, height⟩
  hostTimestamp := .fromNanoseconds nanoseconds
  hostConsensusState _ := .ok consensusState
  validateSelfClient _ := .ok ()

def trustingStart : TmCtx Unit :=
  ⟨.empty, (), trustingEnv 5 1600003600000000000, [], [], []⟩

def connOpenAck : Input TmConsensusState Unit :=
  .dispatch (.connection (.openAck
    ⟨connectionId, connectionId, ⟨"/ibc.mock.ClientState", []⟩, proof, proof, proof, ⟨0, 10⟩,
      ⟨0, 1⟩, .default, signer⟩))

def chanOpenInit : Input TmConsensusState Unit :=
  .dispatch (.channel (.openInit
    ⟨.transfer, [connectionId], .transfer, .unordered, signer, MockRun.version⟩))

def chanOpenAck : Input TmConsensusState Unit :=
  .dispatch (.channel (.openAck
    ⟨.transfer, channelId, channelId, MockRun.version, proof, ⟨0, 10⟩, signer⟩))

/-- A channel over a connection with a delay of five seconds is opened with block 10, and ten
seconds pass. -/
def waiting : List (Input TmConsensusState Unit) :=
  [TmWorldRun.createClient, update 10, connOpenInit, connOpenAck, chanOpenInit, chanOpenAck,
    .newBlock (trustingEnv 6 1600003610000000000)]

def recvMsg : PacketMsg := .recv ⟨MockRun.packet, proof, ⟨0, 10⟩, signer⟩

/-- What the witness reads off the state after the wait: how the packet is received and whether this
is recorded, how block 5 is taken and whether it is flagged, the client, and then the consensus
state at height 10 and the delay check for it. -/
structure WaitOutcome where
  received : Result ContextError Unit
  recorded : Bool
  updated : Result ContextError Unit
  flagged : Result ClientError Bool
  client : Option TmClientState
  atFive : Option TmConsensusState
  checked : Option (ClientId × Result ContextError Unit)
deriving DecidableEq

/-- The client of the sample after block 10. -/
def provedState : TmClientState := TmWorldRun.clientState.withHeader ⟨0, 10⟩

def waitOutcome (s : TmCtx Unit) : WaitOutcome :=
  let received := dispatch provingHost (.packet recvMsg) s
  let updated := dispatch provingHost (.client (.updateClient (updateMsg 5))) s
  { received := received.1
    recorded := received.2.history != s.history
    updated := updated.1
    flagged := provedState.checkForMisbehaviourUpdateClient provingLibrary s.store.client.clients
      clientId (block 5)
    client := s.store.client.clients.clientState clientId
    atFive := s.store.client.clients.consensusState clientId ⟨0, 5⟩
    checked := (s.store.connection.connections connectionId).map fun conn =>
      (conn.clientId, verifyConnDelayPassed provingHost s ⟨0, 10⟩ conn) }

end DelayRun

open TmRun (block blocks clientId library updateMsg)
open DelayRun

/-- Ten seconds after block 10 came in, a packet is received over a connection with a delay of five
seconds. If block 5 is taken at that time, proofs under its root need not wait at all. -/
theorem late_header_skips_delay : ∃ s, ReachableInOrder provingLibrary provingHost s ∧
    (∃ s' conn cons env, Step provingHost (.dispatch (.packet recvMsg)) s s' ∧
      StoredSince provingHost env conn.clientId ⟨0, 10⟩ cons s ∧
      DelayPassed provingHost s conn env) ∧
    ∃ s' conn, dispatch provingHost (.client (.updateClient (updateMsg 5))) s = (.ok (), s') ∧
      s'.Stores conn.clientId ⟨0, 10⟩ (.ofHeader (block 5)) ∧
      verifyConnDelayPassed provingHost s' ⟨0, 10⟩ conn = .ok () := by
  obtain ⟨s, hrun, h⟩ := Option.map_eq_some_iff.mp (by decide +kernel :
    (runInOrder provingLibrary provingHost waiting trustingStart).map waitOutcome =
      some ⟨.ok (), true, .ok (), .ok false, some provedState, none, some (clientId, .ok ())⟩)
  have hs : ReachableInOrder provingLibrary provingHost s :=
    reachableInOrder_of_run (.init trustingStart rfl rfl) hrun
  simp only [waitOutcome, WaitOutcome.mk.injEq, bne_iff_ne] at h
  obtain ⟨hrecv, hrecorded, hupdate, hflag, hcs, hfive, hcheck⟩ := h
  obtain ⟨conn, -, hconn⟩ := Option.map_eq_some_iff.mp hcheck
  obtain ⟨hid, hdelay⟩ := Prod.mk.inj hconn
  have hseasoned := packet_proofs_seasoned provingHost_isolated provingHost_tendermint
  refine ⟨s, hs, ?_, ?_⟩
  · have hstep : Step provingHost (.dispatch (.packet recvMsg)) s
        (dispatch provingHost (.packet recvMsg) s).2 :=
      ⟨.ok (), Prod.ext hrecv rfl, Result.returns_ok⟩
    obtain ⟨_, conn, cons, env, -, -, -, hsince, hpassed⟩ := hseasoned.1 s _ _ hs hstep hrecorded
    exact ⟨_, conn, cons, env, hstep, hsince, hpassed⟩
  · have hheight : (block 5).HasHeight (library blocks) ⟨0, 5⟩ :=
      TmRun.header_hasHeight (by decide) TmRun.validatorsHash blocks
    have hlate : LateHeader provingLibrary s.store.client.clients (updateMsg 5) provedState
        (block 5) ⟨0, 5⟩ := ⟨hcs, by decide +kernel, hheight, hfive, by decide⟩
    obtain ⟨hstored, hsame⟩ := hseasoned.2 s _ _ _ _ _ (Prod.ext hupdate rfl) hlate hflag
    rw [show (updateMsg 5).clientId = conn.clientId from hid.symm] at hstored
    exact ⟨_, conn, Prod.ext hupdate rfl, hstored, (hsame conn hid).trans hdelay⟩

end Ibc
