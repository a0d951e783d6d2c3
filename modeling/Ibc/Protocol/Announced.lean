import Ibc.Model.Raw
import Ibc.Protocol.FailSafe
import Ibc.Transfer.Application

/-!
# The version of a new channel

A channel OpenInit has two versions: the one the message proposes, which is stored, and the one the
module answers with, which is announced in the event. They are the same exactly when the module
keeps to the proposal (`openInit_version`). The transfer module answers a blank proposal with its
own version.
-/

namespace Ibc

open Exec

variable {CS Cons μ : Type} {H : Host CS Cons μ} {s s' : Ctx CS Cons μ} {msg : MsgChannelOpenInit}

/-- The channel that an OpenInit makes. -/
def MsgChannelOpenInit.newChannel (msg : MsgChannelOpenInit) (s : Ctx CS Cons μ) : ChannelKey :=
  (msg.portIdOnA, .new s.store.channel.channelIdsCounter)

/-- What an accepted OpenInit did: the module answered with `version`, the event carries it, and
the end `e` is stored, over the connection `connId`. -/
structure OpenedInit (H : Host CS Cons μ) (msg : MsgChannelOpenInit) (s s' : Ctx CS Cons μ)
    (e : ChannelEnd) (connId : ConnectionId) (version : ChannelVersion) : Prop where
  announced : ∃ m extras, H.moduleOf msg.portIdOnA = some m ∧
    (m.onChanOpenInitExecute msg.ordering msg.connectionHopsOnA msg.portIdOnA (msg.newChannel s).2
      ⟨msg.portIdOnB, none⟩ msg.versionProposal s.store s.app).1 = .ok (extras, version) ∧
    s'.events = s.events ++ [.message .channel, .openInitChannel msg.portIdOnA (msg.newChannel s).2
      msg.portIdOnB connId version] ++ extras.events.map .module
  stored : s'.store.channel.channels (msg.newChannel s) = some e
  isEnd : e = ⟨.init, msg.ordering, ⟨msg.portIdOnB, none⟩, msg.connectionHopsOnA,
    msg.versionProposal⟩
  ordering : msg.ordering ≠ .none
  hops : msg.connectionHopsOnA = [connId]

/-- What a successful OpenInit leaves. -/
def OpensInit (H : Host CS Cons μ) (msg : MsgChannelOpenInit) (s : Ctx CS Cons μ)
    (r : Result ContextError Unit) (s' : Ctx CS Cons μ) : Prop :=
  r = .ok () → ∃ e connId version, OpenedInit H msg s s' e connId version

theorem OpensInit.error {f : Fault ContextError} : OpensInit H msg s (.error f) s' :=
  fun h => by cases h

theorem chanOpenInitExecute_opens {moduleId : ModuleId} {connId : ConnectionId}
    (hl : H.lookupModuleByPort msg.portIdOnA = some moduleId)
    (hhops : msg.connectionHopsOnA = [connId]) :
    Ensures (chanOpenInitExecute H moduleId msg) s (OpensInit H msg s) := by
  refine Ensures.ofExcept_bind (fun _ _ => .error) fun m hm => ?_
  refine callback_ensures (Ensures.ofExcept_bind (fun _ _ => .error) fun agreed hagreed => ?_)
  obtain ⟨extras, version⟩ := agreed
  rw [hhops]
  refine Ensures.ofExcept_bind (fun _ _ => .error) fun e he => ?_
  obtain ⟨rfl, -, ho⟩ := ChannelEnd.new_eq_ok.mp he
  refine openChannel_ensures (fun _ => .error) fun _ =>
    ⟨_, connId, version, ?_, Function.update_self .., by rw [hhops], ho, hhops⟩
  refine ⟨m, extras, moduleOf_eq hl hm, hagreed, ?_⟩
  change s.events ++ [_] ++ [_] ++ _ = s.events ++ [_, _] ++ _
  rw [List.append_assoc s.events]
  rfl

/-- An accepted OpenInit stores a channel end and announces a version. -/
theorem dispatch_openInit (h : dispatch H (.channel (.openInit msg)) s = (.ok (), s')) :
    ∃ e connId version, OpenedInit H msg s s' e connId version := by
  obtain ⟨hv, hx⟩ := dispatch_eq_ok_iff.mp h
  obtain ⟨m, -, conn, cs, hvalid⟩ := validate_channel_eq_ok.mp hv
  obtain ⟨connId, hhops⟩ := List.length_eq_one_iff.mp hvalid.hops
  have hopens : Ensures (execute H (.channel (.openInit msg))) s (OpensInit H msg s) := by
    refine Ensures.ofExcept_bind (fun _ _ => .error) fun moduleId hl => ?_
    exact chanOpenInitExecute_opens (Result.okOr_eq_ok.mp hl) hhops
  rw [Ensures, hx] at hopens
  exact hopens rfl

/-- **The stored version is the announced one exactly when the module keeps to the proposal.** Then
also an OpenTry that takes its version from the event, for the other end of the channel over this
connection, names the stored end; otherwise it names another one. -/
theorem openInit_version (h : dispatch H (.channel (.openInit msg)) s = (.ok (), s')) :
    ∃ e connId version, OpenedInit H msg s s' e connId version ∧
      (e.version = version ↔ version = msg.versionProposal) ∧
      ∀ t : MsgChannelOpenTry, t.ordering = msg.ordering → t.portIdOnB = msg.portIdOnB →
        t.versionSupportedOnA = version →
        (ChannelEnd.new .init t.ordering ⟨t.portIdOnB, none⟩ [connId] t.versionSupportedOnA =
            .ok e ↔
          version = msg.versionProposal) := by
  obtain ⟨e, connId, version, hopened⟩ := dispatch_openInit h
  obtain rfl := hopened.isEnd
  refine ⟨_, connId, version, hopened, eq_comm, ?_⟩
  intro t ho hp hversion
  rw [ChannelEnd.new_eq_ok, ho, hp, hversion, hopened.hops, ChannelEnd.mk.injEq]
  constructor
  · rintro ⟨⟨-, -, -, -, hv⟩, -⟩
    exact hv.symm
  · rintro rfl
    exact ⟨⟨rfl, rfl, rfl, rfl, rfl⟩, ChannelState.noConfusion, hopened.ordering⟩

/-! ### A transfer channel with a blank proposal -/

namespace MockRun

/-- A codec for packet data. The handshake reads none, so any one will do. -/
def packetDataCodec : Proto.Codec RawPacketData :=
  .ofRows ((Wire.string 1).and ((Wire.string 2).and ((Wire.string 3).and ((Wire.string 4).and
      (Wire.string 5) (by decide)) (by decide)) (by decide)) (by decide))
    (fun d => (d.denom, d.amount, d.sender, d.receiver, d.memo))
    (fun f => ⟨f.1, f.2.1, f.2.2.1, f.2.2.2.1, f.2.2.2.2⟩) (fun _ => rfl) (by decide)

/-- A bank without accounts. -/
def noBank : Bank Empty Unit where
  account _ := none
  getPort _ := .ok .transfer
  getEscrowAccount _ _ _ := .error .parseAccountFailure
  canSendCoins _ := .ok ()
  canReceiveCoins _ := .ok ()
  sendCoinsValidate _ _ _ _ := .ok ()
  mintCoinsValidate _ _ _ := .ok ()
  burnCoinsValidate _ _ _ := .ok ()
  denomHashString _ _ := none
  sendCoinsExecute _ _ _ := fun a => (.ok (), a)
  mintCoinsExecute _ _ := fun a => (.ok (), a)
  burnCoinsExecute _ _ := fun a => (.ok (), a)

def transfer : TransferHost Empty Unit where
  bank := noBank
  json := packetDataCodec
  texts := ⟨fun _ => "", fun _ => "", fun _ => ""⟩
  isAlphanumeric := Char.isAlphanum

/-- The mock host with the transfer module. -/
def transferHost : Host MockClientState MockConsensusState Unit :=
  { host with getRoute := fun id => if id = ⟨"transfer"⟩ then some transfer.toModule else none }

/-- A proposal for an unordered transfer channel. -/
def openInitWith (version : String) : MsgChannelOpenInit :=
  ⟨.transfer, [connectionId], .transfer, .unordered, signer, ⟨version⟩⟩

/-- The transfer module accepts a proposal of its own version, and a blank one. -/
theorem openInitWith_accepted (version : String) (hversion : version ∈ ["", "ics20-1"]) :
    ∃ s s', Reachable transferHost s ∧
      dispatch transferHost (.channel (.openInit (openInitWith version))) s = (.ok (), s') := by
  obtain ⟨s, hs, hok⟩ := Reachable.exists_of_runAll (H := transferHost) (s := start)
    [createClient, connOpenInit] (fun s => ["", "ics20-1"].all fun version =>
      (dispatch transferHost (.channel (.openInit (openInitWith version))) s).1.isOk) (a := true)
    rfl rfl (by decide +kernel)
  have hok := List.all_eq_true.mp hok version hversion
  rcases hrun : dispatch transferHost (.channel (.openInit (openInitWith version))) s with
    ⟨_ | u, s'⟩
  · rw [hrun] at hok
    cases hok
  · exact ⟨s, s', hs, hrun⟩

/-- The transfer module announces its own version, whatever is proposed. -/
theorem announced_transferVersion {version : String}
    {s s' : MockCtx Unit} {e : ChannelEnd} {connId : ConnectionId}
    {announced : ChannelVersion}
    (h : OpenedInit transferHost (openInitWith version) s s' e connId announced) :
    announced = transferVersion := by
  obtain ⟨m, extras, hm, hanswer, -⟩ := h.announced
  obtain rfl : transfer.toModule = m := Option.some.inj hm
  exact (Prod.mk.inj (Except.ok.inj hanswer)).2.symm

end MockRun

/-- With its own version for a proposal, the transfer module announces what is stored. -/
theorem transfer_version_announced :
    ∃ s s',
      dispatch MockRun.transferHost (.channel (.openInit (MockRun.openInitWith "ics20-1"))) s =
        (.ok (), s') ∧
      ∃ e connId version, OpenedInit MockRun.transferHost (MockRun.openInitWith "ics20-1") s s' e
        connId version ∧ e.version = version := by
  obtain ⟨s, s', -, hrun⟩ := MockRun.openInitWith_accepted "ics20-1" (by decide)
  obtain ⟨e, connId, version, hopened, hversion, -⟩ := openInit_version hrun
  refine ⟨s, s', hrun, e, connId, version, hopened, hversion.mpr ?_⟩
  exact MockRun.announced_transferVersion hopened

/-- With a blank proposal, it announces a version that is not stored. -/
theorem transfer_version_not_stored :
    ∃ s s', Reachable MockRun.transferHost s ∧
      dispatch MockRun.transferHost (.channel (.openInit (MockRun.openInitWith ""))) s =
        (.ok (), s') ∧
      ∃ e connId version, OpenedInit MockRun.transferHost (MockRun.openInitWith "") s s' e connId
        version ∧ e.version ≠ version := by
  obtain ⟨s, s', hs, hrun⟩ := MockRun.openInitWith_accepted "" (by decide)
  obtain ⟨e, connId, version, hopened⟩ := dispatch_openInit hrun
  refine ⟨s, s', hs, hrun, e, connId, version, hopened, ?_⟩
  rw [hopened.isEnd, MockRun.announced_transferVersion hopened]
  decide

end Ibc
