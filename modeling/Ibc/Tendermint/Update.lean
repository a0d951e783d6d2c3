import Ibc.Protocol.MockRun
import Ibc.Tendermint.Records

/-!
# Where a header is recorded

An accepted header should be recorded at its own height, and nowhere else (`RecordsHeader`). The
client stores it at the latest height of the new client state instead. The two heights agree exactly
when the header is not older than the latest height; a header that is already stored writes nothing
(**`header_recorded_iff`**). A header that fills a gap in the past overwrites the newest consensus
state (`late_header_overwrites`).
-/

namespace Ibc

/-- The header is recorded at its own height `h` of the client `id`, the rest is as before, and the
client's latest height takes `h` into account. -/
structure RecordsHeader (c c' : TmClientState.Records) (id : ClientId) (cs : TmClientState)
    (header : TmHeader) (h : Height) : Prop where
  recorded : c'.consensusState id h = some (.ofHeader header)
  otherHeights : ∀ id' h', ¬ (id' = id ∧ h' = h) →
    c'.consensusState id' h' = c.consensusState id' h'
  client : c'.clientState id = some { cs with latestHeight := max cs.latestHeight h }
  otherClients : ∀ id', id' ≠ id → c'.clientState id' = c.clientState id'

section Dispatch

variable {μ : Type} {lib : TmLibrary} {H : TmHost μ}
  {s s' : TmCtx μ}

/-- A successful update takes its header. -/
theorem updatesTo_of_dispatch (tm : H.Tendermint lib) {msg : MsgUpdateClient}
    (hok : dispatch H (.client (.updateClient msg)) s = (.ok (), s')) :
    ∃ cs header height flagged, UpdatesTo lib s.store.client.clients msg cs header height flagged
      s'.store.client.clients := by
  obtain _ | h := tmChange_of_dispatch tm hok
  exact ⟨_, _, _, _, h⟩

section Records

variable {c c' : TmClientState.Records} {id : ClientId} {cs : TmClientState} {header : TmHeader}
  {h : Height}

/-- A header that is not flagged agrees with what is stored at its height. -/
theorem consensusState_of_not_flagged (hh : header.HasHeight lib h)
    (hcheck : cs.checkForMisbehaviourUpdateClient lib c id header = .ok false)
    (hstored : c.consensusState id h ≠ none) : c.consensusState id h = some (.ofHeader header) := by
  obtain ⟨existing, hexisting⟩ := Option.ne_none_iff_exists'.mp hstored
  rw [TmClientState.checkForMisbehaviourUpdateClient, hh.eq_ok, Result.ok_bind] at hcheck
  simp only [hexisting, Result.pure_eq_ok, decide_eq_false_iff_not, not_not] at hcheck
  rw [hexisting, hcheck]

/-- What a header that is not flagged, and not yet stored, writes: at the larger of the heights. -/
theorem consensusState_takeHeader (hnew : c.consensusState id h = none) (id' : ClientId)
    (h' : Height) :
    (TmClientState.takeHeader c id cs header h false).consensusState id' h' =
      if id' = id ∧ h' = max h cs.latestHeight then some (.ofHeader header)
      else c.consensusState id' h' := by
  simp [TmClientState.takeHeader, hnew]

theorem clientState_takeHeader (hnew : c.consensusState id h = none) (id' : ClientId) :
    (TmClientState.takeHeader c id cs header h false).clientState id' =
      if id' = id then some (cs.withHeader h) else c.clientState id' := by
  simp [TmClientState.takeHeader, hnew]

/-- Nothing is written for a stored header, and that is right. -/
theorem recordsHeader_of_stored (hbelow : BelowLatest c) (hcs : c.clientState id = some cs)
    (hstored : c.consensusState id h = some (.ofHeader header)) :
    RecordsHeader c c id cs header h := by
  obtain ⟨cs', hcs', hle⟩ := hbelow id h _ hstored
  obtain rfl : cs' = cs := Option.some.inj (hcs'.symm.trans hcs)
  refine ⟨hstored, fun _ _ _ => rfl, ?_, fun _ _ => rfl⟩
  rw [hcs, max_eq_left hle]

/-- A header that is new is recorded at its own height when no later header was taken. -/
theorem recordsHeader_of_latest_le (hnew : c.consensusState id h = none)
    (hle : cs.latestHeight ≤ h) :
    RecordsHeader c (TmClientState.takeHeader c id cs header h false) id cs header h where
  recorded := by rw [consensusState_takeHeader hnew, if_pos ⟨rfl, (max_eq_left hle).symm⟩]
  otherHeights id' h' hne := by rw [consensusState_takeHeader hnew, max_eq_left hle, if_neg hne]
  client := by
    rw [clientState_takeHeader hnew, if_pos rfl, TmClientState.withHeader, max_comm]
  otherClients id' hne := by rw [clientState_takeHeader hnew, if_neg hne]

/-- A header older than the latest height is lost from its own height. -/
theorem not_recordsHeader_of_lt (hnew : c.consensusState id h = none) (hlt : h < cs.latestHeight) :
    ¬ RecordsHeader c (TmClientState.takeHeader c id cs header h false) id cs header h := by
  intro hrec
  have hself := hrec.recorded
  rw [consensusState_takeHeader hnew, max_eq_right hlt.le, if_neg fun hh => hlt.ne hh.2, hnew]
    at hself
  cases hself

end Records

/-- **Where an accepted header is recorded.** A successful update with a header that is not flagged
records it at its own height, and changes nothing else, exactly when the height has a consensus
state already or is not below the latest height. -/
theorem header_recorded_iff (iso : H.Isolated) (tm : H.Tendermint lib) (hs : Reachable H s)
    {msg : MsgUpdateClient} {cs : TmClientState} {header : TmHeader} {h : Height}
    (hok : dispatch H (.client (.updateClient msg)) s = (.ok (), s'))
    (hcs : s.store.client.clients.clientState msg.clientId = some cs)
    (hd : lib.headerOf msg.header = .ok header) (hh : header.HasHeight lib h)
    (hcheck : cs.checkForMisbehaviourUpdateClient lib s.store.client.clients msg.clientId header =
      .ok false) :
    RecordsHeader s.store.client.clients s'.store.client.clients msg.clientId cs header h ↔
      s.store.client.clients.consensusState msg.clientId h ≠ none ∨ cs.latestHeight ≤ h := by
  obtain ⟨cs', header', h', flagged, hup⟩ := updatesTo_of_dispatch tm hok
  -- The message determines the header and its height, and the records the rest.
  obtain rfl : cs' = cs := Option.some.inj (hup.stored.symm.trans hcs)
  obtain rfl : header' = header := Except.ok.inj (hup.decoded.symm.trans hd)
  obtain rfl : h' = h := Except.ok.inj (hup.hasHeight.symm.trans hh)
  obtain rfl : flagged = false := Except.ok.inj (hup.check.symm.trans hcheck)
  rw [hup.records]
  by_cases hnew : s.store.client.clients.consensusState msg.clientId h' = none
  · rw [or_iff_right (not_not_intro hnew)]
    refine ⟨fun hrec => ?_, recordsHeader_of_latest_le hnew⟩
    by_contra hlt
    exact not_recordsHeader_of_lt hnew (not_le.mp hlt) hrec
  · refine iff_of_true ?_ (.inl hnew)
    rw [TmClientState.takeHeader, if_neg Bool.false_ne_true, if_pos hnew]
    exact recordsHeader_of_stored (hs.belowLatest iso tm) hcs
      (consensusState_of_not_flagged hh hcheck hnew)

end Dispatch

/-! ### A chain with a Tendermint client -/

namespace TmRun

/-- A host whose clients are Tendermint clients of the sample library. -/
def host (headers : List TmHeader) : TmHost Unit where
  library := MockRun.library
  lightClient := tmClient (library headers)
  getRoute id := if id = ⟨"transfer"⟩ then some dummyTransferModule else none
  lookupModuleByPort port := if port = .transfer then some ⟨"transfer"⟩ else none
  decodeClientState any := Result.ofExcept .clientError ((library headers).clientStateOf any)
  validateMessageSigner _ := .ok ()
  commitmentPrefix := ⟨Proto.utf8 "mock"⟩
  blockDelay _ := 0

def env : HostEnv TmConsensusState where
  hostHeight := ⟨0, 5⟩
  hostTimestamp := now
  hostConsensusState h := .error (.connectionError (.client (.missingLocalConsensusState h)))
  validateSelfClient _ :=
    .error (.connectionError (.invalidClientState "client must be a mock client"))

theorem host_isolated (headers : List TmHeader) : (host headers).Isolated := by
  refine Host.isolated_of_dummy fun id m hm => ?_
  simp only [host] at hm
  split_ifs at hm
  · exact (Option.some.inj hm).symm

theorem host_tendermint (headers : List TmHeader) : (host headers).Tendermint (library headers) :=
  ⟨rfl, fun _ => rfl⟩

def start : TmCtx Unit := ⟨.empty, (), env, [], [], []⟩

def createClient : Input TmConsensusState Unit :=
  .dispatch (.client (.createClient
    ⟨⟨"/ibc.lightclients.tendermint.v1.ClientState", clientState.toRaw.encode⟩,
      ⟨"/ibc.lightclients.tendermint.v1.ConsensusState", consensusState.encode⟩, MockRun.signer⟩))

/-- The header of the block at a height, of a chain that keeps its validators. -/
def block (height : ℕ) : TmHeader := header height validatorsHash

def updateMsg (height : ℕ) : MsgUpdateClient :=
  ⟨clientId, ⟨"/ibc.lightclients.tendermint.v1.Header", (block height).encode⟩, MockRun.signer⟩

def update (height : ℕ) : Input TmConsensusState Unit :=
  .dispatch (.client (.updateClient (updateMsg height)))

/-- The blocks of the sample runs. -/
def blocks : List TmHeader := [block 10, block 5]

def sampleLibrary : TmLibrary := library blocks

/-- How an update with a block ends, whether the block is flagged, the client before the update, and
the consensus states after it at heights 5 and 10. -/
structure Outcome where
  result : Result ContextError Unit
  flagged : Result ClientError Bool
  client : Option TmClientState
  atFive : Option TmConsensusState
  atTen : Option TmConsensusState
deriving DecidableEq

def outcome (height : ℕ) (cs : TmClientState) (s : TmCtx Unit) :
    Outcome :=
  let s' := dispatch (host blocks) (.client (.updateClient (updateMsg height))) s
  { result := s'.1
    flagged := cs.checkForMisbehaviourUpdateClient sampleLibrary s.store.client.clients clientId
      (block height)
    client := s.store.client.clients.clientState clientId
    atFive := s'.2.store.client.clients.consensusState clientId ⟨0, 5⟩
    atTen := s'.2.store.client.clients.consensusState clientId ⟨0, 10⟩ }

end TmRun

/-- The next header of a chain is recorded at its own height. -/
theorem next_header_recorded : ∃ s s', Reachable (TmRun.host TmRun.blocks) s ∧
    dispatch (TmRun.host TmRun.blocks) (.client (.updateClient (TmRun.updateMsg 10))) s =
      (.ok (), s') ∧
    RecordsHeader s.store.client.clients s'.store.client.clients TmRun.clientId TmRun.clientState
      (TmRun.block 10) ⟨0, 10⟩ := by
  obtain ⟨s, hs, h⟩ := Reachable.exists_of_runAll (H := TmRun.host TmRun.blocks) (s := TmRun.start)
    [TmRun.createClient] (TmRun.outcome 10 TmRun.clientState) rfl rfl
    (by decide +kernel : _ = some ⟨.ok (), .ok false, some TmRun.clientState, none,
      some (.ofHeader (TmRun.block 10))⟩)
  have hok := congrArg TmRun.Outcome.result h
  have hcheck := congrArg TmRun.Outcome.flagged h
  have hcs := congrArg TmRun.Outcome.client h
  refine ⟨s, _, hs, Prod.ext hok rfl, ?_⟩
  exact (header_recorded_iff (TmRun.host_isolated _) (TmRun.host_tendermint _) hs
    (Prod.ext hok rfl) hcs (by decide +kernel) (TmRun.header_hasHeight (by decide) _ _) hcheck).mpr
    (.inr (by decide))

/-- A header that fills a gap is stored at the latest height, over the newest consensus state. -/
theorem late_header_overwrites : ∃ s s' cs, Reachable (TmRun.host TmRun.blocks) s ∧
    dispatch (TmRun.host TmRun.blocks) (.client (.updateClient (TmRun.updateMsg 5))) s =
      (.ok (), s') ∧
    s.store.client.clients.clientState TmRun.clientId = some cs ∧
    TmRun.sampleLibrary.headerOf (TmRun.updateMsg 5).header = .ok (TmRun.block 5) ∧
    (TmRun.block 5).HasHeight TmRun.sampleLibrary ⟨0, 5⟩ ∧
    cs.checkForMisbehaviourUpdateClient TmRun.sampleLibrary s.store.client.clients TmRun.clientId
      (TmRun.block 5) = .ok false ∧
    s'.store.client.clients.consensusState TmRun.clientId ⟨0, 10⟩ =
      some (.ofHeader (TmRun.block 5)) ∧
    ¬ RecordsHeader s.store.client.clients s'.store.client.clients TmRun.clientId cs
      (TmRun.block 5) ⟨0, 5⟩ := by
  let cs := TmRun.clientState.withHeader ⟨0, 10⟩
  obtain ⟨s, hs, h⟩ := Reachable.exists_of_runAll (H := TmRun.host TmRun.blocks) (s := TmRun.start)
    [TmRun.createClient, TmRun.update 10] (TmRun.outcome 5 cs) rfl rfl
    (by decide +kernel :
      _ = some ⟨.ok (), .ok false, some cs, none, some (.ofHeader (TmRun.block 5))⟩)
  have hok := congrArg TmRun.Outcome.result h
  have hcheck := congrArg TmRun.Outcome.flagged h
  have hcs := congrArg TmRun.Outcome.client h
  have hlost := congrArg TmRun.Outcome.atFive h
  have hoverwritten := congrArg TmRun.Outcome.atTen h
  refine ⟨s, _, _, hs, Prod.ext hok rfl, hcs, by decide +kernel,
    TmRun.header_hasHeight (by decide) _ _, hcheck, hoverwritten, fun hrec => ?_⟩
  exact Option.some_ne_none _ (hrec.recorded.symm.trans hlost)

end Ibc
