import Ibc.Tendermint.Update

/-!
# A header that is submitted again

The Tendermint client takes a header at a height that has its consensus state already for a no-op.
The handler of updates does not know about that. It stores the time and the height of the host for
every height the client names, and the client names the height of the header either way. So the
connection delay of proofs at that height starts anew.

**`resubmission_noop_iff`**: the store is the same after the update just when the time and the
height that the host stored with the header are the ones it has now.
-/

namespace Ibc

open Exec

section Resubmission

variable {μ : Type} {lib : TmLibrary} {H : TmHost μ}
  {s s' : TmCtx μ} {msg : MsgUpdateClient} {header : TmHeader}
  {h : Height}

/-- The store after a header that was there already: only the time and the height of the host at
the update are new. -/
def Ctx.resubmitted (s : TmCtx μ) (id : ClientId) (h : Height) :
    ClientStore TmClientState TmConsensusState :=
  (s.store.client.storeUpdateTime id h s.env.hostTimestamp).storeUpdateHeight id h s.env.hostHeight

/-- Left by a success. -/
def EndsResubmitted (s : TmCtx μ) (id : ClientId) (h : Height)
    (r : Result ContextError Unit) (s' : TmCtx μ) : Prop :=
  r = .ok () → s'.store.client = s.resubmitted id h

theorem not_flagged_of_stored {cs : TmClientState} {c : TmClientState.Records} {id : ClientId}
    (hh : header.HasHeight lib h) (hstored : c.consensusState id h = some (.ofHeader header)) :
    cs.checkForMisbehaviourUpdateClient lib c id header = .ok false := by
  rw [TmClientState.checkForMisbehaviourUpdateClient, hh.eq_ok, Result.ok_bind]
  simp [hstored]

theorem updateClientExecute_resubmitted (tm : H.Tendermint lib)
    (hd : lib.headerOf msg.header = .ok header) (hh : header.HasHeight lib h)
    (hstored : s.store.client.clients.consensusState msg.clientId h = some (.ofHeader header)) :
    Ensures (updateClientExecute H msg.toUpdate) s (EndsResubmitted s msg.clientId h) := by
  unfold updateClientExecute
  refine ensures_read_bind (Ensures.ofExcept_bind (fun _ _ => nofun) fun cs _ => ?_)
  rw [tm.lightClient]
  refine Ensures.ofResult_bind (fun _ _ => nofun) fun flagged hflagged => ?_
  -- The consensus state of the header is the stored one, so there is no misbehaviour.
  obtain ⟨header', hheader, hcheck⟩ := Result.bind_eq_ok.mp (Result.mapErr_eq_ok.mp hflagged)
  obtain rfl : header' = header := Except.ok.inj ((Result.ofExcept_eq_ok.mp hheader).symm.trans hd)
  obtain rfl : flagged = false :=
    Except.ok.inj (hcheck.symm.trans (not_flagged_of_stored hh hstored))
  refine Ensures.ite (fun hflag => absurd hflag Bool.false_ne_true) fun _ => ?_
  refine Ensures.ofExcept_bind (fun _ _ => nofun) fun _ _ => ?_
  refine ensures_runClient (fun _ _ _ => nofun) (fun _ _ => nofun) fun heights c hrun => ?_
  have hupdate : Ensures (cs.updateState lib msg.clientId msg.header) s.store.client.clients _ :=
    updateState_ensures
  rw [Ensures, show cs.updateState lib msg.clientId msg.header _ = (.ok heights, c) from hrun]
    at hupdate
  obtain ⟨header₁, h₁, hd₁, hh₁, rfl, rfl⟩ := hupdate heights rfl
  obtain rfl : header₁ = header' := Except.ok.inj (hd₁.symm.trans hd)
  obtain rfl : h₁ = h := Except.ok.inj (hh₁.symm.trans hh)
  intro _
  have hsame : TmClientState.takeHeader s.store.client.clients msg.clientId cs header₁ h₁ false =
      s.store.client.clients := by
    rw [TmClientState.takeHeader, if_neg Bool.false_ne_true, if_pos (by simp [hstored])]
  rw [hsame]
  rfl

theorem dispatch_resubmitted (tm : H.Tendermint lib)
    (hok : dispatch H (.client (.updateClient msg)) s = (.ok (), s'))
    (hd : lib.headerOf msg.header = .ok header) (hh : header.HasHeight lib h)
    (hstored : s.store.client.clients.consensusState msg.clientId h = some (.ofHeader header)) :
    s'.store = { s.store with client := s.resubmitted msg.clientId h } := by
  have hclient : Ensures (dispatch H (.client (.updateClient msg))) s
      (EndsResubmitted s msg.clientId h) :=
    ensures_read_bind (Ensures.ofResult_bind (fun _ _ => nofun) fun _ _ =>
      updateClientExecute_resubmitted tm hd hh hstored)
  have hbeside := dispatch_client_preserves H (.updateClient msg) s
  rw [Ensures, hok] at hclient
  rw [hok] at hbeside
  simp only [Ctx.besideClients, Prod.mk.injEq] at hbeside
  obtain ⟨hconn, hchan, -⟩ := hbeside
  obtain ⟨⟨client, connection, channel⟩, app, env, history, events, logs⟩ := s'
  simp only at hconn hchan
  rw [hconn, hchan, show client = _ from hclient rfl]

/-- The time and the height that the host stored with an update are those it has now. -/
structure UpdatedNow (s : TmCtx μ) (id : ClientId) (h : Height) :
    Prop where
  time : s.store.client.clientProcessedTimes (id, h) = some s.env.hostTimestamp
  height : s.store.client.clientProcessedHeights (id, h) = some s.env.hostHeight

theorem resubmitted_eq_iff {id : ClientId} :
    s.resubmitted id h = s.store.client ↔ UpdatedNow s id h := by
  constructor
  · intro heq
    have htimes := congrArg (fun c => c.clientProcessedTimes (id, h)) heq
    have hheights := congrArg (fun c => c.clientProcessedHeights (id, h)) heq
    simp only [Ctx.resubmitted, ClientStore.storeUpdateTime, ClientStore.storeUpdateHeight,
      Function.update_self] at htimes hheights
    exact ⟨htimes.symm, hheights.symm⟩
  · rintro ⟨htime, hheight⟩
    rw [Ctx.resubmitted, ClientStore.storeUpdateTime, ClientStore.storeUpdateHeight, ← htime,
      ← hheight, Function.update_eq_self, Function.update_eq_self]

/-- **When a header that is submitted again changes nothing.** The store is the same after the
update just when the header was stored at the current time and height of the host; the connection
delay is then counted as before. -/
theorem resubmission_noop_iff (tm : H.Tendermint lib)
    (hok : dispatch H (.client (.updateClient msg)) s = (.ok (), s'))
    (hd : lib.headerOf msg.header = .ok header) (hh : header.HasHeight lib h)
    (hstored : s.store.client.clients.consensusState msg.clientId h = some (.ofHeader header)) :
    (s'.store = s.store ↔ UpdatedNow s msg.clientId h) ∧
    (UpdatedNow s msg.clientId h → ∀ (env : HostEnv TmConsensusState) (conn : ConnectionEnd),
      verifyConnDelayPassed H { s with env := env } h conn = .ok () →
        verifyConnDelayPassed H { s' with env := env } h conn = .ok ()) := by
  have hnoop : s'.store = s.store ↔ UpdatedNow s msg.clientId h := by
    rw [dispatch_resubmitted tm hok hd hh hstored, ← resubmitted_eq_iff]
    constructor
    · exact fun heq => congrArg Store.client heq
    · exact fun heq => by rw [heq]
  refine ⟨hnoop, fun hnow env conn hpassed => ?_⟩
  simp only [verifyConnDelayPassed, Ctx.clientUpdateTime, Ctx.clientUpdateHeight] at hpassed ⊢
  rw [hnoop.mpr hnow]
  exact hpassed

end Resubmission

namespace TmRun

/-- Ten seconds later. -/
def laterEnv : HostEnv TmConsensusState :=
  { env with hostHeight := ⟨0, 6⟩, hostTimestamp := .fromNanoseconds 1600003610000000000 }

/-- A connection over the client, with a delay of five seconds. -/
def connOpenInit : Input TmConsensusState Unit :=
  .dispatch (.connection (.openInit
    ⟨clientId, ⟨clientId, none, ⟨Proto.utf8 "ibc"⟩⟩, none, 5000000000, MockRun.signer⟩))

/-- The client takes a header, and ten seconds pass. -/
def delayed : List (Input TmConsensusState Unit) :=
  [createClient, update 10, connOpenInit, .newBlock laterEnv]

/-- How the delay check for proofs at height 10 ends on a connection. -/
def delayCheck (s : TmCtx Unit) (id : ConnectionId) :
    Option (Result ContextError Unit) :=
  (s.store.connection.connections id).map (verifyConnDelayPassed (host blocks) s ⟨0, 10⟩)

/-- How the block at height 10 is taken, its consensus state and update time before and the update
time after it, and the delay check before and after it. -/
structure DelayOutcome where
  result : Result ContextError Unit
  stored : Option TmConsensusState
  timeBefore : Option Timestamp
  timeAfter : Option Timestamp
  checkBefore : Option (Result ContextError Unit)
  checkAfter : Option (Result ContextError Unit)
deriving DecidableEq

def delayOutcome (s : TmCtx Unit) : DelayOutcome :=
  let s' := dispatch (host blocks) (.client (.updateClient (updateMsg 10))) s
  { result := s'.1
    stored := s.store.client.clients.consensusState clientId ⟨0, 10⟩
    timeBefore := s.store.client.clientProcessedTimes (clientId, ⟨0, 10⟩)
    timeAfter := s'.2.store.client.clientProcessedTimes (clientId, ⟨0, 10⟩)
    checkBefore := delayCheck s MockRun.connectionId
    checkAfter := delayCheck s'.2 MockRun.connectionId }

/-- The check fails five seconds too early. -/
def tooEarly : Result ContextError Unit :=
  .error (.err (.connectionError (.notEnoughTimeElapsed (.fromNanoseconds 1600003610000000000)
    (.fromNanoseconds 1600003615000000000))))

end TmRun

/-- In the same block, a header that is submitted again changes nothing. -/
theorem same_block_noop : ∃ s s', Reachable (TmRun.host TmRun.blocks) s ∧
    dispatch (TmRun.host TmRun.blocks) (.client (.updateClient (TmRun.updateMsg 10))) s =
      (.ok (), s') ∧ s'.store = s.store := by
  obtain ⟨s, hs, h⟩ := Reachable.exists_of_runAll (H := TmRun.host TmRun.blocks) (s := TmRun.start)
    [TmRun.createClient, TmRun.update 10]
    (fun s => ((dispatch (TmRun.host TmRun.blocks)
        (.client (.updateClient (TmRun.updateMsg 10))) s).1,
      s.store.client.clients.consensusState TmRun.clientId ⟨0, 10⟩,
      decide (s.store.client.clientProcessedTimes (TmRun.clientId, ⟨0, 10⟩) =
        some s.env.hostTimestamp),
      decide (s.store.client.clientProcessedHeights (TmRun.clientId, ⟨0, 10⟩) =
        some s.env.hostHeight))) rfl rfl
    (by decide +kernel : _ = some (.ok (), some (.ofHeader (TmRun.block 10)), true, true))
  simp only [Prod.mk.injEq, decide_eq_true_eq] at h
  obtain ⟨hok, hstored, htime, hheight⟩ := h
  have hnoop := (resubmission_noop_iff (TmRun.host_tendermint TmRun.blocks) (Prod.ext hok rfl)
    (by decide +kernel) (TmRun.header_hasHeight (by decide) _ _) hstored).1
  exact ⟨s, _, hs, Prod.ext hok rfl, hnoop.mpr ⟨htime, hheight⟩⟩

/-- Ten seconds after the header was taken the delay of five seconds has passed. The header is
submitted again, and the delay has not passed any more. -/
theorem resubmission_restarts_delay : ∃ s s', Reachable (TmRun.host TmRun.blocks) s ∧
    dispatch (TmRun.host TmRun.blocks) (.client (.updateClient (TmRun.updateMsg 10))) s =
      (.ok (), s') ∧
    s.store.client.clients.consensusState TmRun.clientId ⟨0, 10⟩ =
      some (.ofHeader (TmRun.block 10)) ∧
    s'.store.client.clientProcessedTimes (TmRun.clientId, ⟨0, 10⟩) ≠
      s.store.client.clientProcessedTimes (TmRun.clientId, ⟨0, 10⟩) ∧
    TmRun.delayCheck s MockRun.connectionId = some (.ok ()) ∧
    TmRun.delayCheck s' MockRun.connectionId = some TmRun.tooEarly := by
  obtain ⟨s, hs, h⟩ := Reachable.exists_of_runAll (H := TmRun.host TmRun.blocks) (s := TmRun.start)
    TmRun.delayed TmRun.delayOutcome rfl rfl
    (by decide +kernel : _ = some ⟨.ok (), some (.ofHeader (TmRun.block 10)), some TmRun.now,
      some (.fromNanoseconds 1600003610000000000), some (.ok ()), some TmRun.tooEarly⟩)
  have hok := congrArg TmRun.DelayOutcome.result h
  have hstored := congrArg TmRun.DelayOutcome.stored h
  have hbefore := congrArg TmRun.DelayOutcome.timeBefore h
  have hafter := congrArg TmRun.DelayOutcome.timeAfter h
  have hpassed := congrArg TmRun.DelayOutcome.checkBefore h
  have hnot := congrArg TmRun.DelayOutcome.checkAfter h
  refine ⟨s, _, hs, Prod.ext hok rfl, hstored, fun heq => ?_, hpassed, hnot⟩
  exact absurd (hafter.symm.trans (heq.trans hbefore)) (by decide)

end Ibc
