import Ibc.Protocol.Announced
import Ibc.Protocol.Closed
import Ibc.Transfer.Solvency

/-!
# Channels of the transfer application

On two chains whose ports are all bound to the transfer application, with sound clients of each
other:

* **`transfer_channels`**: every channel end is unordered, none is ever closed, and an end past
  `init` has the version of the application. An end that was proposed without a version stays as it
  was proposed: the application of the other chain refuses it, so no end there ever answers it.

Closing needs either the application, which refuses, or a proof that the other end is closed.
-/

namespace Ibc

open Exec

variable {CS Cons μ Account CS' Cons' μ' Account' : Type}

/-- Every port of the host is bound to the application. -/
def TransferHost.RunsOn (T : TransferHost Account μ) (H : Host CS Cons μ) : Prop :=
  ∀ port m, H.moduleOf port = some m → m = T.toModule

/-! ### What the application checks -/

/-- What the application demands of a channel message. -/
def ChannelMsg.FitsTransfer : ChannelMsg → Prop
  | .openInit msg => msg.ordering = .unordered ∧
      (msg.versionProposal = .empty ∨ msg.versionProposal = transferVersion)
  | .openTry msg => msg.ordering = .unordered ∧ msg.versionSupportedOnA = transferVersion
  | .openAck msg => msg.versionOnB = transferVersion
  | .openConfirm _ => True
  | .closeInit _ => False
  | .closeConfirm _ => True

section OneChain

variable {T : TransferHost Account μ} {H : Host CS Cons μ} {s s' : Ctx CS Cons μ}
  {i : Input Cons μ} {msg : ChannelMsg}

theorem TransferHost.RunsOn.isolated (runs : T.RunsOn H) : H.Isolated := by
  intro port m hm
  rw [runs port m hm]
  exact T.toModule_isolated

/-- A message that passes validation is one the application allows. -/
theorem validate_channel_fits (runs : T.RunsOn H) (h : validate H s (.channel msg) = .ok ()) :
    msg.FitsTransfer := by
  obtain ⟨m, hm, hv⟩ := validate_channel_eq_ok.mp h
  obtain rfl := runs _ m hm
  cases msg with
  | openInit msg =>
    obtain ⟨conn, cs, hv⟩ := hv
    obtain ⟨version, hfits⟩ := hv.module
    simp only [TransferHost.toModule, TransferHost.onChanOpenInitValidate, Result.bind_eq_ok,
      Result.mapError_eq_ok, Result.ensure_eq_ok] at hfits
    obtain ⟨_, ⟨_, ho, _, -, _, -, hversion⟩, -⟩ := hfits
    refine ⟨ho, ?_⟩
    split_ifs at hversion with hblank
    · exact .inl hblank
    · exact .inr (Result.ensure_eq_ok.mp hversion)
  | openTry msg =>
    obtain ⟨conn, connIdOnA, client, hv⟩ := hv
    obtain ⟨version, hfits⟩ := hv.module
    simp only [TransferHost.toModule, TransferHost.onChanOpenTryValidate,
      TransferHost.verifyVersion, Result.bind_eq_ok, Result.mapError_eq_ok,
      Result.ensure_eq_ok] at hfits
    obtain ⟨_, ⟨_, ho, hversion⟩, -⟩ := hfits
    exact ⟨ho, hversion⟩
  | openAck msg =>
    obtain ⟨e, conn, connIdOnB, client, hv⟩ := hv
    have hfits := hv.module
    simp only [TransferHost.toModule, TransferHost.verifyVersion, Result.mapError_eq_ok,
      Result.ensure_eq_ok] at hfits
    exact hfits
  | openConfirm msg | closeConfirm msg => trivial
  | closeInit msg =>
    obtain ⟨e, conn, cs, hv⟩ := hv
    cases hv.module

/-- An end that an OpenTry stores has the version that the application answers with. -/
theorem Step.openTry_version (runs : T.RunsOn H) {msg : MsgChannelOpenTry}
    (h : Step H (.dispatch (.channel (.openTry msg))) s s') {key : ChannelKey} {e : ChannelEnd}
    (he : s'.store.channel.channels key = some e) :
    s.store.channel.channels key = some e ∨ e.version = transferVersion := by
  have hends : Ensures (dispatch H (.channel (.openTry msg))) s fun r s' => r.Returns →
      ∀ key e, s'.store.channel.channels key = some e →
        s.store.channel.channels key = some e ∨ e.version = transferVersion := by
    refine ensures_read_bind (Ensures.ofResult_bind (fun _ _ _ _ _ he => .inl he) fun _ _ => ?_)
    refine Ensures.ofExcept_bind (fun _ _ _ _ _ he => .inl he) fun id hl => ?_
    refine ensures_read_bind (Ensures.ofExcept_bind (fun _ _ _ _ _ he => .inl he) fun m hm => ?_)
    obtain rfl := runs _ m (moduleOf_eq (lookupModule_eq_ok.mp hl) hm)
    refine ensures_runCallback (fun _ _ => rfl) fun answer app hcb => ?_
    cases hcb
    refine Ensures.index_zero_bind (fun hr => absurd hr Result.not_returns_panic) fun connId => ?_
    refine Ensures.ofExcept_bind (fun _ _ _ _ _ he => .inl he) fun e he => ?_
    obtain ⟨rfl, -⟩ := ChannelEnd.new_eq_ok.mp he
    refine openChannel_ensures (fun _ hr => absurd hr Result.not_returns_panic) ?_
    intro _ k e' he'
    have he' : Function.update s.store.channel.channels
        (msg.portIdOnB, .new s.store.channel.channelIdsCounter)
        (some ⟨.tryOpen, msg.ordering, ⟨msg.portIdOnA, some msg.chanIdOnA⟩, msg.connectionHopsOnB,
          transferVersion⟩) k = some e' := he'
    rw [Function.update_apply] at he'
    split_ifs at he'
    · cases he'
      exact .inr rfl
    · exact .inl he'
  obtain ⟨r, hrun, hr⟩ := h
  rw [Ensures, show dispatch H _ s = (r, s') from hrun] at hends
  exact hends hr key e he

/-! ### One chain -/

/-- An end of a transfer channel. -/
structure ChannelEnd.IsTransfer (e : ChannelEnd) : Prop where
  ordering : e.ordering = .unordered
  version : e.version = transferVersion ∨ e.version = .empty ∧ e.state = .init

/-- Past `init` the version is settled. -/
theorem ChannelEnd.IsTransfer.settled {e : ChannelEnd} (h : e.IsTransfer) (hs : e.state ≠ .init) :
    e.version = transferVersion :=
  h.version.resolve_right fun hblank => hs hblank.2

/-- What a step on a chain of transfer channels does to the channel ends. -/
theorem Step.transfer_cases (runs : T.RunsOn H) (h : Step H i s s')
    (hends : ∀ key e, s.store.channel.channels key = some e → e.IsTransfer) :
    s'.store.channel.channels = s.store.channel.channels ∨
      ∃ msg key e, i = .dispatch (.channel msg) ∧ msg.Stores H s key e ∧ msg.FitsTransfer ∧
        s'.store.channel.channels = Function.update s.store.channel.channels key (some e) := by
  obtain heq | ⟨msg, key, e, rfl, hst, hc⟩ | ⟨msg, -, -, e, he, ho, -⟩ := h.channels runs.isolated
  · exact .inl heq
  · rcases h.validated with rfl | hv
    · exact .inl rfl
    · exact .inr ⟨msg, key, e, rfl, hst, validate_channel_fits runs hv, hc⟩
  · -- Only an ordered channel is closed by a timeout.
    rw [(hends _ e he).ordering] at ho
    cases ho

theorem Step.isTransfer (runs : T.RunsOn H) (hr : Reachable H s) (h : Step H i s s')
    (hends : ∀ key e, s.store.channel.channels key = some e → e.IsTransfer) :
    ∀ key e, s'.store.channel.channels key = some e → e.IsTransfer := by
  intro key e he
  obtain heq | ⟨msg, key', e', rfl, hst, hfits, hc⟩ := h.transfer_cases runs hends
  · exact hends key e (heq ▸ he)
  have he₀ := he
  rw [hc, Function.update_apply] at he
  split_ifs at he with hkey
  · cases he
    cases hst with
    | openInit => exact ⟨hfits.1, hfits.2.symm.imp_right fun hblank => ⟨hblank, rfl⟩⟩
    | openTry =>
      refine (h.openTry_version runs he₀).elim (hends key _) fun hversion => ?_
      exact ⟨hfits.1, .inl hversion⟩
    | openAck hold => exact ⟨(hends _ _ hold).ordering, .inl hfits⟩
    | openConfirm hold hs =>
      have hend := hends _ _ hold
      exact ⟨hend.ordering, .inl (hend.settled (by simp [hs]))⟩
    | closeInit => exact hfits.elim
    | closeConfirm hold hs hid =>
      have hend := hends _ _ hold
      refine ⟨hend.ordering, .inl (hend.settled fun hinit => ?_)⟩
      rw [(hr.channelEnd_wf runs.isolated hold).unanswered hinit] at hid
      cases hid
  · exact hends key e he

theorem Reachable.isTransfer (runs : T.RunsOn H) (h : Reachable H s) :
    ∀ key e, s.store.channel.channels key = some e → e.IsTransfer := by
  induction h with
  | init s hst =>
    rw [hst]
    exact nofun
  | step i hr hs ih => exact hs.isTransfer runs hr ih

/-- A version that is settled stays. -/
theorem Step.version_kept (runs : T.RunsOn H) (hr : Reachable H s) (h : Step H i s s')
    {key : ChannelKey} {e : ChannelEnd} (he : s.store.channel.channels key = some e)
    (hv : e.version = transferVersion) :
    ∃ e', s'.store.channel.channels key = some e' ∧ e'.version = transferVersion := by
  obtain heq | ⟨msg, key', e', rfl, hst, hfits, hc⟩ := h.transfer_cases runs (hr.isTransfer runs)
  · exact ⟨e, heq ▸ he, hv⟩
  rw [hc]
  by_cases hkey : key = key'
  · subst hkey
    refine ⟨e', Function.update_self .., ?_⟩
    have hfresh (port : PortId) (hk : key = (port, .new s.store.channel.channelIdsCounter)) :
        False := by
      rw [hk, (hr.numbered runs.isolated).next_absent port] at he
      cases he
    cases hst with
    | openInit | openTry => exact (hfresh _ rfl).elim
    | openAck => exact hfits
    | openConfirm hold | closeInit hold | closeConfirm hold =>
      cases he.symm.trans hold
      exact hv
  · exact ⟨e, (Function.update_of_ne hkey _ _).trans he, hv⟩

end OneChain

/-! ### Two chains -/

section World

variable {TA : TransferHost Account μ} {TB : TransferHost Account' μ'} {HA : Host CS Cons μ}
  {HB : Host CS' Cons' μ'} {okA : Input Cons μ → Prop} {okB : Input Cons' μ' → Prop}
  {w : Duo (Ctx CS Cons μ) (Ctx CS' Cons' μ')}

/-- No channel end is closed. -/
def Ctx.NoneClosed (s : Ctx CS Cons μ) : Prop :=
  ∀ key e, s.store.channel.channels key = some e → e.state ≠ .closed

/-- A chain does not close an end while the other one has closed none. -/
theorem SoundStep.noneClosed (runs : TA.RunsOn HA) {s s' : Ctx CS Cons μ}
    {seen : List (Ctx CS' Cons' μ')} (hr : Reachable HA s) (h : SoundStep HA okA seen s s')
    (hseen : ∀ b ∈ seen, b.NoneClosed) (hs : s.NoneClosed) : s'.NoneClosed := by
  obtain ⟨hsound, i, -, hstep⟩ := h
  intro key e he
  obtain heq | ⟨msg, key', e', rfl, hst, hfits, hc⟩ :=
    hstep.transfer_cases runs (hr.isTransfer runs)
  · exact hs key e (heq ▸ he)
  rw [hc, Function.update_apply] at he
  split_ifs at he with hkey
  · cases he
    cases hst with
    | openInit | openTry | openAck | openConfirm => exact ChannelState.noConfusion
    | closeInit => exact hfits.elim
    | closeConfirm hold hopen hid hroute hv =>
      obtain ⟨b, hb, hheld⟩ := hsound.attested hv
      exact absurd rfl (hseen b hb _ _ hheld.channelEnd)
  · exact hs key e he

variable (runsA : TA.RunsOn HA) (runsB : TB.RunsOn HB)
  (h : (world HA HB okA okB).Reachable w)

include runsA runsB h

theorem World.noneClosed :
    (∀ a ∈ w.lefts, a.NoneClosed) ∧ ∀ b ∈ w.rights, b.NoneClosed := by
  have hempty {CS Cons μ : Type} {s : Ctx CS Cons μ} (hs : s.Fresh) : s.NoneClosed := by
    intro key e he
    rw [hs.1] at he
    cases he
  induction h with
  | start ha hb =>
    exact ⟨fun _ h => List.mem_singleton.mp h ▸ hempty ha,
      fun _ h => List.mem_singleton.mp h ▸ hempty hb⟩
  | @left w a hw hs ih =>
    refine ⟨fun a' ha' => ?_, ih.2⟩
    rcases List.mem_cons.mp ha' with rfl | ha'
    · exact hs.noneClosed runsA (World.left_reachable hw) ih.2 (ih.1 _ w.left_mem_lefts)
    · exact ih.1 a' ha'
  | @right w b hw hs ih =>
    refine ⟨ih.1, fun b' hb' => ?_⟩
    rcases List.mem_cons.mp hb' with rfl | hb'
    · exact hs.noneClosed runsB (World.right_reachable hw) ih.1 (ih.2 _ w.right_mem_rights)
    · exact ih.2 b' hb'

/-- An end that names its counterparty names one whose version is settled. -/
theorem World.named_version {a : Ctx CS Cons μ} (ha : a ∈ w.lefts) {key remote : ChannelKey}
    {e : ChannelEnd} (he : a.store.channel.channels key = some e)
    (hr : e.remote = ⟨remote.1, some remote.2⟩) :
    ∃ e', w.right.store.channel.channels remote = some e' ∧ e'.version = transferVersion := by
  refine h.attested
    (C := fun a (x : ChannelKey × ChannelKey) => ∃ e, a.store.channel.channels x.1 = some e ∧
      e.remote = ⟨x.2.1, some x.2.2⟩)
    (F := fun b x => ∃ e', b.store.channel.channels x.2 = some e' ∧ e'.version = transferVersion)
    (x := (key, remote)) ?_ ?_ ?_ ha ⟨e, he, hr⟩
  · rintro a x ⟨hst, -⟩ ⟨e, he, -⟩
    rw [hst] at he
    cases he
  · rintro w a ⟨key, remote⟩ hw ⟨hsound, i, -, hstep⟩ ⟨e, he, hr⟩
    have hreach := World.left_reachable hw
    obtain heq | ⟨msg, key', e', rfl, hst, hfits, hc⟩ :=
      hstep.transfer_cases runsA (hreach.isTransfer runsA)
    · exact .inl ⟨e, heq ▸ he, hr⟩
    rw [hc, Function.update_apply] at he
    split_ifs at he with hkey
    · obtain rfl : key = key' := hkey
      cases he
      have hheld {port : PortId} {chan : ChannelId} {e' : ChannelEnd}
          (hremote : (⟨port, some chan⟩ : Counterparty) = ⟨remote.1, some remote.2⟩)
          (hb : ∃ b ∈ w.rights, b.store.Holds (.channelEnd port chan) e'.toRaw.encode)
          (hv : e'.version = transferVersion) :
          ∃ b ∈ w.rights, ∃ e', b.store.channel.channels remote = some e' ∧
            e'.version = transferVersion := by
        obtain ⟨b, hb, hheld⟩ := hb
        simp only [Counterparty.mk.injEq, Option.some.injEq] at hremote
        obtain ⟨rfl, rfl⟩ := hremote
        exact ⟨b, hb, e', hheld.channelEnd, hv⟩
      cases hst with
      | openInit => simp at hr
      | openTry _ _ _ hv => exact .inr (hheld hr (hsound.attested hv) hfits.2)
      | openAck _ _ _ hv => exact .inr (hheld hr (hsound.attested hv) hfits)
      | openConfirm hold | closeConfirm hold => exact .inl ⟨_, hold, hr⟩
      | closeInit => exact hfits.elim
    · exact .inl ⟨e, he, hr⟩
  · rintro w b ⟨key, remote⟩ hw ⟨-, i, -, hstep⟩ ⟨e', he', hv⟩
    exact hstep.version_kept runsB (World.right_reachable hw) he' hv

/-- Nothing happens to an end without a version. -/
theorem World.blank_kept {a : Ctx CS Cons μ} (hs : SoundStep HA okA w.rights w.left a)
    {key : ChannelKey} {e : ChannelEnd} (he : w.left.store.channel.channels key = some e)
    (hv : e.version ≠ transferVersion) : a.store.channel.channels key = some e := by
  obtain ⟨hsound, i, -, hstep⟩ := hs
  have hr := World.left_reachable h
  have hinit : e.state = .init :=
    ((hr.isTransfer runsA key e he).version.resolve_left hv).2
  obtain heq | ⟨msg, key', e', rfl, hst, hfits, hc⟩ :=
    hstep.transfer_cases runsA (hr.isTransfer runsA)
  · exact heq ▸ he
  rw [hc]
  by_cases hkey : key = key'
  · subst hkey
    cases hst with
    | openInit | openTry =>
      rw [(hr.numbered runsA.isolated).next_absent] at he
      cases he
    | @openAck msg _ _ _ _ _ _ hack =>
      -- The end that is shown names this one, which then has a version.
      obtain ⟨b, hb, hheld⟩ := hsound.attested hack
      obtain ⟨e', he', hv'⟩ : ∃ e', w.left.store.channel.channels (msg.portIdOnA, msg.chanIdOnA) =
          some e' ∧ e'.version = transferVersion :=
        World.named_version runsB runsA (World.swap h) hb hheld.channelEnd rfl
      cases he.symm.trans he'
      exact absurd hv' hv
    | openConfirm hold htry =>
      cases he.symm.trans hold
      rw [hinit] at htry
      cases htry
    | closeInit => exact hfits.elim
    | closeConfirm hold _ hid =>
      cases he.symm.trans hold
      rw [(hr.channelEnd_wf runsA.isolated hold).unanswered hinit] at hid
      cases hid
  · exact (Function.update_of_ne hkey _ _).trans he

/-- **Channels of the transfer application.** Every end is unordered, none is ever closed, and past
`init` the version is settled. An end that ever had another version is still as it was proposed, and
no end of the other chain ever named it. -/
theorem transfer_channels :
    (∀ key e, w.left.store.channel.channels key = some e → e.ordering = .unordered ∧
      e.state ≠ .closed ∧ (e.state ≠ .init → e.version = transferVersion)) ∧
    ∀ a ∈ w.lefts, ∀ key e, a.store.channel.channels key = some e → e.version ≠ transferVersion →
      e.state = .init ∧ e.version = .empty ∧ w.left.store.channel.channels key = some e ∧
        ∀ b ∈ w.rights, ∀ key' e', b.store.channel.channels key' = some e' →
          e'.remote ≠ ⟨key.1, some key.2⟩ := by
  refine ⟨fun key e he => ?_, fun a ha key e he hv => ?_⟩
  · have hend := (World.left_reachable h).isTransfer runsA key e he
    exact ⟨hend.ordering, (World.noneClosed runsA runsB h).1 _ w.left_mem_lefts key e he,
      hend.settled⟩
  · have hend := (World.lefts_reachable h a ha).isTransfer runsA key e he
    obtain ⟨hblank, hinit⟩ := hend.version.resolve_left hv
    have hkept : w.left.store.channel.channels key = some e := by
      refine (World.swap h).right_kept (F := fun a => a.store.channel.channels key = some e)
        (fun w a hw hs he => ?_) a ha he
      exact World.blank_kept runsA runsB (World.swap hw) hs he hv
    refine ⟨hinit, hblank, hkept, fun b hb key' e' he' hremote => ?_⟩
    obtain ⟨e'', hnamed, hv''⟩ := World.named_version runsB runsA (World.swap h) hb he' hremote
    cases hkept.symm.trans hnamed
    exact hv hv''

end World

/-! ### Two proposals -/

namespace WorldRun

/-- A chain with the transfer application that is shown what the other one holds. -/
def showingHost (facts : ℕ → List (Path × Bytes)) :
    Host MockClientState MockConsensusState (Ledger String PrefixedDenom) :=
  transferHost facts fun _ => []

theorem mockLike_showingHost (facts : ℕ → List (Path × Bytes)) :
    MockLike (showingHost facts) facts := (transferChain_showing facts fun _ => []).toMockLike

/-- A second end, proposed without a version. -/
def blankEnd : ChannelEnd :=
  ⟨.init, .unordered, ⟨.transfer, none⟩, [MockRun.connectionId], .empty⟩

def provedBlank : Path × Bytes := (.channelEnd .transfer (.new 1), blankEnd.toRaw.encode)

/-- The first channel, and at height 20 the second proposal. -/
def proposedFacts : ℕ → List (Path × Bytes) := factsA 0 .unordered [provedBlank]

/-- A second channel is proposed without a version while the first one is opened. The right chain is
then shown the proposal and given an answer to it, and the left chain learns of height 20. -/
def proposals : List TransferMove :=
  acknowledging .unordered ++
    [.tellLeft (.channel (.openInit (MockRun.openInitWith ""))),
      .tellRight (Msg.updateClient 20), .tellRight (Msg.chanOpenConfirm .unordered),
      .tellRight (.channel (.openTry ⟨.transfer, [MockRun.connectionId], .transfer, .new 1, .empty,
        proofOf provedBlank, ⟨0, 20⟩, .unordered, MockRun.signer, .empty⟩)),
      .tellLeft (Msg.updateClient 20)]

end WorldRun

open WorldRun

/-- The first channel is open, and the second one is still as it was proposed, in a later state of
the left chain and with no end on the right that names it. -/
theorem second_proposal_unanswered :
    ∃ w, (world (showingHost (factsB 0 .unordered [])) (showingHost proposedFacts) (fun _ => True)
      fun _ => True).Reachable w ∧
      w.left.store.channel.channels (.transfer, .new 0) =
        some (chanEnd .open (some (.new 0)) .unordered) ∧
      (∃ a ∈ w.lefts, a.store.channel.channels (.transfer, .new 1) = some blankEnd ∧
        a.store.client.clients.consensusState MockRun.clientId ⟨0, 20⟩ = none) ∧
      (w.left.store.client.clients.consensusState MockRun.clientId ⟨0, 20⟩).isSome ∧
      w.left.store.channel.channels (.transfer, .new 1) = some blankEnd ∧
      ∀ b ∈ w.rights, ∀ key e, b.store.channel.channels key = some e →
        e.remote ≠ ⟨.transfer, some (.new 1)⟩ := by
  have fresh : receiverStart.Fresh := ⟨rfl, rfl⟩
  obtain ⟨w, hw, h⟩ := exists_of_runMoves
    (C := worldChecks (mockLike_showingHost (factsB 0 .unordered []))
      (mockLike_showingHost proposedFacts) (fun _ => True) fun _ => True)
    (mockLike_showingHost _) (mockLike_showingHost _)
    (Sample.valid_start fresh fresh fresh fresh) proposals
    (fun w => (w.left.store.channel.channels (.transfer, .new 0),
      (w.left.store.client.clients.consensusState MockRun.clientId ⟨0, 20⟩).isSome,
      w.lefts[1]?.map fun a => (a.store.channel.channels (.transfer, .new 1),
        a.store.client.clients.consensusState MockRun.clientId ⟨0, 20⟩)))
    (by decide +kernel : _ = some (some (chanEnd .open (some (.new 0)) .unordered), true,
      some (some blankEnd, none)))
  simp only [Prod.mk.injEq] at h
  obtain ⟨hfirst, hknown, hearlier⟩ := h
  obtain ⟨a, hget, ha⟩ := Option.map_eq_some_iff.mp hearlier
  obtain ⟨hsecond, hunknown⟩ := Prod.mk.inj ha
  have hmem : a ∈ w.lefts := List.mem_of_getElem? hget
  have hruns (facts) : TransferRun.transfer.RunsOn (showingHost facts) := transferHost_runs _ _
  have hends := transfer_channels (hruns (factsB 0 .unordered [])) (hruns proposedFacts) hw
  obtain ⟨-, -, hkept, hunnamed⟩ := hends.2 a hmem _ _ hsecond (by decide)
  exact ⟨w, hw, hfirst, ⟨a, hmem, hsecond, hunknown⟩, hknown, hkept, hunnamed⟩

end Ibc
