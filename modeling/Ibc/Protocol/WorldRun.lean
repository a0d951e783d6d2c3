import Ibc.Protocol.Clients
import Ibc.Protocol.ProofSystem
import Ibc.Protocol.World

/-!
# Running two chains

A concrete pair of chains is run input by input (`WorldRun.runMoves`), and each step is checked to
be one of a system (`Checks`). What such a run reaches is reachable (`WorldRun.exists_of_runMoves`),
so a concrete run can be evaluated.

That the clients are sound is read off the headers the chain has been given, since nothing else is
ever stored in a consensus state of the mock client (`knows_of_step`).

The sample world has two mock chains whose identifiers happen to be the same on both sides.
`WorldRun.connecting` opens a connection between them, and `WorldRun.opening` a channel.
-/

namespace Ibc

namespace WorldRun

open ProofRun Exec

/-! ### What a mock chain knows -/

/-- A header, and the height at which a chain stores it. -/
abbrev Known := List (Height × MockHeader)

/-- Every stored consensus state is one of these headers, at its height. -/
def Knows (known : Known) (c : MockClientState.Records) : Prop :=
  ∀ id h cons, c.consensusState id h = some cons → (h, cons.header) ∈ known

/-- What a message brings that has a client state and a consensus state in it. -/
def statesIn (clientState consensusState : Any) : Known :=
  match codec.clientStateOf clientState, codec.consensusStateOf consensusState with
  | .ok cs, .ok cons => [(cs.latestHeight, cons.header)]
  | _, _ => []

/-- The headers that an input brings. -/
def headersOf {μ : Type} : Input MockConsensusState μ → Known
  | .dispatch (.client (.createClient msg)) => statesIn msg.clientState msg.consensusState
  | .dispatch (.client (.updateClient msg)) =>
      ((codec.headerOf msg.header).toOption.map fun h => (h.height, h)).toList
  | .dispatch (.client (.upgradeClient msg)) =>
      statesIn msg.upgradedClientState msg.upgradedConsensusState
  | _ => []

section Knows

variable {known : Known} {c : MockClientState.Records}

theorem knows_empty :
    Knows [] (Store.empty : Store MockClientState MockConsensusState).client.clients := by
  intro id height cons hc
  simp [Store.empty, Clients.consensusState] at hc

theorem Knows.mono (h : Knows known c) (new : Known) : Knows (new ++ known) c :=
  fun id height cons hc => List.mem_append_right new (h id height cons hc)

theorem Knows.storeClientState (h : Knows known c) (id : ClientId) (cs : MockClientState) :
    Knows known (c.storeClientState id cs) := by
  intro id' height cons hc
  rw [Clients.consensusState_storeClientState] at hc
  exact h id' height cons hc

theorem Knows.storeConsensusState (h : Knows known c) (id : ClientId) {height : Height}
    {cons : MockConsensusState} (hcons : (height, cons.header) ∈ known) :
    Knows known (c.storeConsensusState id height cons) := by
  intro id' height' cons' hc
  rw [Clients.consensusState_storeConsensusState] at hc
  split_ifs at hc with heq
  · cases hc
    rw [heq.2]
    exact hcons
  · exact h id' height' cons' hc

theorem mem_statesIn {clientState consensusState : Any} {cs : MockClientState}
    {cons : MockConsensusState} (hcs : codec.clientStateOf clientState = .ok cs)
    (hcons : codec.consensusStateOf consensusState = .ok cons) :
    (cs.latestHeight, cons.header) ∈ statesIn clientState consensusState := by
  simp [statesIn, hcs, hcons]

end Knows

/-- The host decodes and stores as the mock host does, and is shown only the facts under the root of
a consensus state. -/
structure MockLike {μ : Type} (H : Host MockClientState MockConsensusState μ)
    (facts : ℕ → List (Path × Bytes)) : Prop where
  isolated : H.Isolated
  decode : ∀ any cs, H.decodeClientState any = .ok cs → codec.clientStateOf any = .ok cs
  initialise : H.lightClient.initialise = (mockClient codec).initialise
  updateState : H.lightClient.updateState = (mockClient codec).updateState
  updateStateOnMisbehaviour :
    H.lightClient.updateStateOnMisbehaviour = (mockClient codec).updateStateOnMisbehaviour
  updateStateOnUpgrade :
    H.lightClient.updateStateOnUpgrade = (mockClient codec).updateStateOnUpgrade
  shown : ∀ cs cons pfx path value, H.lightClient.Accepts cs cons pfx path (some value) →
    storeUnder facts (rootAt cons.header.height.revisionHeight) path = some value

theorem mockLike_host (facts : ℕ → List (Path × Bytes)) : MockLike (ProofRun.host facts) facts where
  isolated := host_isolated facts
  decode _ _ h := Result.mapErr_eq_ok.mp h
  initialise := rfl
  updateState := rfl
  updateStateOnMisbehaviour := rfl
  updateStateOnUpgrade := rfl
  shown cs _ pfx path value h := (LightClient.complete_withStore cs pfx _ path (some value)).mp h

section Sound

variable {μ CS' Cons' μ' : Type} {facts : ℕ → List (Path × Bytes)}
  {H : Host MockClientState MockConsensusState μ} {i : Input MockConsensusState μ}
  {s s' : MockCtx μ} {known : Known}

theorem MockLike.leaves_knows (hH : MockLike H facts) (hk : Knows known s.store.client.clients)
    (msg : ClientMsg) :
    msg.Leaves H (Knows (headersOf (.dispatch (.client msg) : Input MockConsensusState μ) ++ known))
      s.store.client.clients := by
  have hk := hk.mono (headersOf (.dispatch (.client msg) : Input MockConsensusState μ))
  cases msg with
  | createClient msg =>
    intro cs id hcs
    rw [hH.initialise]
    refine Ensures.ofExcept_bind (fun _ _ => hk) fun cons hcons => ?_
    exact (hk.storeClientState id cs).storeConsensusState id
      (List.mem_append_left known (mem_statesIn (hH.decode _ _ hcs) hcons))
  | updateClient msg =>
    intro cs
    rw [hH.updateState, hH.updateStateOnMisbehaviour]
    refine ⟨Ensures.ofExcept_bind (fun _ _ => hk) fun header hheader => ?_,
      hk.storeClientState _ _⟩
    have hmem : (header.height, header) ∈
        headersOf (.dispatch (.client (.updateClient msg)) : Input MockConsensusState μ) := by
      simp [headersOf, hheader, Except.toOption]
    have hstored : Knows _ (s.store.client.clients.storeConsensusState msg.clientId header.height
      (MockConsensusState.new header)) :=
      hk.storeConsensusState _ (List.mem_append_left known hmem)
    exact hstored.storeClientState _ _
  | misbehaviour msg =>
    intro cs
    rw [hH.updateStateOnMisbehaviour]
    exact hk.storeClientState _ _
  | upgradeClient msg =>
    intro cs
    rw [hH.updateStateOnUpgrade]
    refine Ensures.ofResult_bind (fun _ _ => hk) fun upgraded hcs => ?_
    refine Ensures.ofExcept_bind (fun _ _ => hk) fun cons hcons => ?_
    exact (hk.storeConsensusState _
      (List.mem_append_left known (mem_statesIn hcs hcons))).storeClientState _ _

/-- **A mock chain knows only the headers it was given.** -/
theorem MockLike.knows_of_step (hH : MockLike H facts) (h : Step H i s s')
    (hk : Knows known s.store.client.clients) :
    Knows (headersOf i ++ known) s'.store.client.clients := by
  refine h.clients_leave hH.isolated (hk.mono _) ?_
  rintro msg rfl
  exact hH.leaves_knows hk msg

/-- What the other chain holds under a root. -/
def factsUnder (facts : ℕ → List (Path × Bytes)) (root : CommitmentRoot) : List (Path × Bytes) :=
  (heights.find? fun h => rootAt h = root).elim [] facts

theorem mem_factsUnder {root : CommitmentRoot} {path : Path} {value : Bytes}
    (h : storeUnder facts root path = some value) : (path, value) ∈ factsUnder facts root := by
  unfold storeUnder at h
  unfold factsUnder
  cases hfind : heights.find? fun h => rootAt h = root with
  | none => simp [hfind] at h
  | some height =>
    rw [hfind, Option.bind_some] at h
    obtain ⟨before, after, hsplit, -⟩ := List.lookup_eq_some_iff.mp h
    rw [Option.elim_some, hsplit]
    exact List.mem_append_right before List.mem_cons_self

/-- The facts that a header can be used to show. -/
def factsAt (facts : ℕ → List (Path × Bytes)) (header : MockHeader) : List (Path × Bytes) :=
  factsUnder facts (rootAt header.height.revisionHeight)

theorem MockLike.mem_factsAt (hH : MockLike H facts) {cs : MockClientState}
    {cons : MockConsensusState} {pfx : CommitmentPrefix} {path : Path} {value : Bytes}
    (h : H.lightClient.Accepts cs cons pfx path (some value)) :
    (path, value) ∈ factsAt facts cons.header := mem_factsUnder (hH.shown cs cons pfx path value h)

/-- All that can be shown with a known header was held in one of the states. -/
def soundCheck (facts : ℕ → List (Path × Bytes)) (known : Known)
    (seen : List (Ctx CS' Cons' μ')) : Bool :=
  known.all fun k => (factsAt facts k.2).all fun fact =>
    seen.any fun b => decide (b.store.Holds fact.1 fact.2)

theorem MockLike.sound_of_check (hH : MockLike H facts) {seen : List (Ctx CS' Cons' μ')}
    (hk : Knows known s.store.client.clients) (h : soundCheck facts known seen = true) :
    Sound H seen s := by
  intro id cs height cons pfx path value _ hcons hacc
  have hfacts := List.all_eq_true.mp h _ (hk id height cons hcons)
  have hseen := List.all_eq_true.mp hfacts _ (hH.mem_factsAt hacc)
  obtain ⟨b, hb, hheld⟩ := List.any_eq_true.mp hseen
  exact ⟨b, hb, of_decide_eq_true hheld⟩

end Sound

/-! ### Checked runs -/

/-- Checks that a step of one of two chains is a step of the system `S`. They see the headers that
the chain was given, and the states of the other one. -/
structure Checks {μ μ' : Type} (S : Duo.System (MockCtx μ) (MockCtx μ'))
    (HA : Host MockClientState MockConsensusState μ)
    (HB : Host MockClientState MockConsensusState μ') where
  left : Known → List (MockCtx μ') → MockCtx μ → Input MockConsensusState μ → Bool
  right : Known → List (MockCtx μ) → MockCtx μ' → Input MockConsensusState μ' → Bool
  left_step : ∀ known seen a i a', left known seen a i = true →
    Knows known a.store.client.clients → Step HA i a a' → S.stepLeft seen a a'
  right_step : ∀ known seen b i b', right known seen b i = true →
    Knows known b.store.client.clients → Step HB i b b' → S.stepRight seen b b'

/-- An input for one of the two chains. -/
inductive Move (μ μ' : Type) where
  | left (i : Input MockConsensusState μ)
  | right (i : Input MockConsensusState μ')

/-- Two chains with the headers each was given. -/
structure Sample (μ μ' : Type) where
  duo : Duo (MockCtx μ) (MockCtx μ')
  leftKnown : Known
  rightKnown : Known

section Runs

variable {μ μ' : Type} {HA : Host MockClientState MockConsensusState μ}
  {HB : Host MockClientState MockConsensusState μ'} {S : Duo.System (MockCtx μ) (MockCtx μ')}

def Sample.start (a : MockCtx μ) (b : MockCtx μ') : Sample μ μ' := ⟨⟨a, b, [], []⟩, [], []⟩

/-- Takes the input, if the check passes and it does not panic. -/
def Sample.move (C : Checks S HA HB) (x : Sample μ μ') : Move μ μ' → Option (Sample μ μ')
  | .left i =>
      if C.left x.leftKnown x.duo.rights x.duo.left i then
        match i.run HA x.duo.left with
        | (.error (.panic _), _) => none
        | (_, a) => some ⟨x.duo.moveLeft a, headersOf i ++ x.leftKnown, x.rightKnown⟩
      else none
  | .right i =>
      if C.right x.rightKnown x.duo.lefts x.duo.right i then
        match i.run HB x.duo.right with
        | (.error (.panic _), _) => none
        | (_, b) => some ⟨x.duo.moveRight b, x.leftKnown, headersOf i ++ x.rightKnown⟩
      else none

def runMoves (C : Checks S HA HB) (x : Sample μ μ') : List (Move μ μ') → Option (Sample μ μ')
  | [] => some x
  | m :: ms => (x.move C m).bind (runMoves C · ms)

/-- A sample whose pair of chains is reachable, and whose headers are all the chains know. -/
structure Sample.Valid (S : Duo.System (MockCtx μ) (MockCtx μ')) (x : Sample μ μ') : Prop where
  reachable : S.Reachable x.duo
  left : Knows x.leftKnown x.duo.left.store.client.clients
  right : Knows x.rightKnown x.duo.right.store.client.clients

variable {C : Checks S HA HB} {factsA factsB : ℕ → List (Path × Bytes)} {x x' : Sample μ μ'}
  {a : MockCtx μ} {b : MockCtx μ'}

/-- A checked move of the left chain is a step of the system. -/
theorem Sample.Valid.step_left (h : x.Valid S) {i : Input MockConsensusState μ}
    (hm : x.move C (.left i) = some x') :
    x' = ⟨x.duo.moveLeft x'.duo.left, headersOf i ++ x.leftKnown, x.rightKnown⟩ ∧
      S.stepLeft x.duo.rights x.duo.left x'.duo.left ∧ Step HA i x.duo.left x'.duo.left := by
  simp only [Sample.move] at hm
  split_ifs at hm with hok
  split at hm
  · cases hm
  · next r a hne heq =>
    cases hm
    have hstep : Step HA i x.duo.left a := ⟨_, heq, hne⟩
    exact ⟨rfl, C.left_step _ _ _ _ _ hok h.left hstep, hstep⟩

theorem Sample.Valid.step_right (h : x.Valid S) {i : Input MockConsensusState μ'}
    (hm : x.move C (.right i) = some x') :
    x' = ⟨x.duo.moveRight x'.duo.right, x.leftKnown, headersOf i ++ x.rightKnown⟩ ∧
      S.stepRight x.duo.lefts x.duo.right x'.duo.right ∧
      Step HB i x.duo.right x'.duo.right := by
  simp only [Sample.move] at hm
  split_ifs at hm with hok
  split at hm
  · cases hm
  · next r b hne heq =>
    cases hm
    have hstep : Step HB i x.duo.right b := ⟨_, heq, hne⟩
    exact ⟨rfl, C.right_step _ _ _ _ _ hok h.right hstep, hstep⟩

theorem Sample.Valid.move (hA : MockLike HA factsB) (hB : MockLike HB factsA) (h : x.Valid S)
    {m : Move μ μ'} (hm : x.move C m = some x') : x'.Valid S := by
  cases m with
  | left i =>
    obtain ⟨heq, hstep, hrun⟩ := h.step_left hm
    rw [heq]
    exact ⟨h.reachable.left hstep, hA.knows_of_step hrun h.left, h.right⟩
  | right i =>
    obtain ⟨heq, hstep, hrun⟩ := h.step_right hm
    rw [heq]
    exact ⟨h.reachable.right hstep, h.left, hB.knows_of_step hrun h.right⟩

theorem Sample.Valid.runMoves (hA : MockLike HA factsB) (hB : MockLike HB factsA)
    {ms : List (Move μ μ')} (h : x.Valid S) (hms : runMoves C x ms = some x') : x'.Valid S := by
  induction ms generalizing x with
  | nil =>
    cases hms
    exact h
  | cons m ms ih =>
    obtain ⟨x₁, hm, hrest⟩ := Option.bind_eq_some_iff.mp hms
    exact ih (h.move hA hB hm) hrest

theorem Sample.valid_start (ha : S.startLeft a) (hb : S.startRight b) (hfa : a.Fresh)
    (hfb : b.Fresh) : (Sample.start a b).Valid S := by
  refine ⟨.start ha hb, ?_, ?_⟩
  · rw [Sample.start, hfa.1]
    exact knows_empty
  · rw [Sample.start, hfb.1]
    exact knows_empty

/-- **What a checked run shows of its last state is true of a reachable pair.** -/
theorem exists_of_runMoves {α : Type} (hA : MockLike HA factsB) (hB : MockLike HB factsA)
    (hvalid : (Sample.start a b).Valid S) (ms : List (Move μ μ'))
    (f : Duo (MockCtx μ) (MockCtx μ') → α) {y : α}
    (h : (runMoves C (.start a b) ms).map (f ·.duo) = some y) :
    ∃ w, S.Reachable w ∧ f w = y := by
  obtain ⟨x, hx, rfl⟩ := Option.map_eq_some_iff.mp h
  exact ⟨x.duo, (hvalid.runMoves hA hB hx).reachable, rfl⟩

/-- The same for a run and one more step, of the left chain. -/
theorem exists_step_of_runMoves {α : Type} (hA : MockLike HA factsB) (hB : MockLike HB factsA)
    (hvalid : (Sample.start a b).Valid S) (ms : List (Move μ μ'))
    (i : Input MockConsensusState μ) (f : Duo (MockCtx μ) (MockCtx μ') → α) {y : α}
    (h : ((runMoves C (.start a b) ms).bind (·.move C (.left i))).map (f ·.duo) = some y) :
    ∃ w a', S.Reachable w ∧ S.stepLeft w.rights w.left a' ∧ f (w.moveLeft a') = y := by
  obtain ⟨x', hx', rfl⟩ := Option.map_eq_some_iff.mp h
  obtain ⟨x, hx, hm⟩ := Option.bind_eq_some_iff.mp hx'
  have hlast := hvalid.runMoves hA hB hx
  obtain ⟨heq, hstep, -⟩ := hlast.step_left hm
  exact ⟨x.duo, x'.duo.left, hlast.reachable, hstep, congrArg (f ·.duo) heq.symm⟩

/-- Checks for chains with sound clients: that the input is one the chain may be given, and that
what its clients can be shown was held by the other chain. -/
def worldChecks (hA : MockLike HA factsB) (hB : MockLike HB factsA)
    (okA : Input MockConsensusState μ → Prop) (okB : Input MockConsensusState μ' → Prop)
    [DecidablePred okA] [DecidablePred okB] : Checks (world HA HB okA okB) HA HB where
  left known seen _ i := decide (okA i) && soundCheck factsB known seen
  right known seen _ i := decide (okB i) && soundCheck factsA known seen
  left_step _ _ _ i _ h hk hstep := by
    rw [Bool.and_eq_true] at h
    exact ⟨hA.sound_of_check hk h.2, i, of_decide_eq_true h.1, hstep⟩
  right_step _ _ _ i _ h hk hstep := by
    rw [Bool.and_eq_true] at h
    exact ⟨hB.sound_of_check hk h.2, i, of_decide_eq_true h.1, hstep⟩

end Runs

/-! ### Two mock chains -/

open MockRun (clientId connectionId channelId version signer)

/-- A connection end of either chain. -/
def connEnd (state : ConnectionState) (other : Option ConnectionId) (delay : Duration) :
    ConnectionEnd :=
  ⟨state, clientId, ⟨clientId, other, ⟨Proto.utf8 "mock"⟩⟩, [.default], delay⟩

/-- A channel end of either chain. -/
def chanEnd (state : ChannelState) (other : Option ChannelId) (ordering : Order) : ChannelEnd :=
  ⟨state, ordering, ⟨.transfer, other⟩, [connectionId], version⟩

def provedConn (e : ConnectionEnd) : Path × Bytes := (.connection connectionId, e.toRaw.encode)

def provedChan (e : ChannelEnd) : Path × Bytes :=
  (.channelEnd .transfer channelId, e.toRaw.encode)

/-- What each chain holds of its client of the other. -/
def provedClient : List (Path × Bytes) :=
  [(.clientState clientId, clientState.encode),
    (.clientConsensusState clientId ⟨0, 1⟩, (MockConsensusState.new (header 1)).encodeVec)]

/-- What the left chain holds at each height, with `last` at height 20. -/
def factsA (delay : Duration) (ordering : Order) (last : List (Path × Bytes)) :
    ℕ → List (Path × Bytes)
  | 5 => provedConn (connEnd .init none delay) :: provedClient
  | 8 => [provedConn (connEnd .open (some connectionId) delay),
      provedChan (chanEnd .init none ordering)]
  | 20 => provedChan (chanEnd .open (some channelId) ordering) :: last
  | _ => []

/-- What the right chain holds at each height, with `last` at height 20. -/
def factsB (delay : Duration) (ordering : Order) (last : List (Path × Bytes)) :
    ℕ → List (Path × Bytes)
  | 5 => provedConn (connEnd .tryOpen (some connectionId) delay) :: provedClient
  | 8 => [provedChan (chanEnd .tryOpen (some channelId) ordering)]
  | 20 => last
  | _ => []

def proofOf (fact : Path × Bytes) : CommitmentProofBytes := factCode fact.1 (some fact.2)

def proofOfClientState : CommitmentProofBytes :=
  proofOf (.clientState clientId, clientState.encode)

def proofOfConsensusState : CommitmentProofBytes :=
  proofOf (.clientConsensusState clientId ⟨0, 1⟩, (MockConsensusState.new (header 1)).encodeVec)

namespace Msg

def createClient : MsgEnvelope :=
  .client (.createClient
    ⟨clientState, ⟨"/ibc.mock.ConsensusState", (header 1).encodeWrapped⟩, signer⟩)

def updateClient (height : ℕ) : MsgEnvelope :=
  .client (.updateClient ⟨clientId, ⟨"/ibc.mock.Header", (header height).encode⟩, signer⟩)

def connOpenInit (delay : Duration) : MsgEnvelope :=
  .connection (.openInit ⟨clientId, ⟨clientId, none, ⟨Proto.utf8 "mock"⟩⟩, none, delay, signer⟩)

def connOpenTry (delay : Duration) : MsgEnvelope :=
  .connection (.openTry
    ⟨clientId, clientState, ⟨clientId, some connectionId, ⟨Proto.utf8 "mock"⟩⟩, [.default],
      proofOf (provedConn (connEnd .init none delay)), proofOfClientState, proofOfConsensusState,
      ⟨0, 5⟩, ⟨0, 1⟩, delay, signer, ""⟩)

def connOpenAck (delay : Duration) : MsgEnvelope :=
  .connection (.openAck
    ⟨connectionId, connectionId, clientState,
      proofOf (provedConn (connEnd .tryOpen (some connectionId) delay)), proofOfClientState,
      proofOfConsensusState, ⟨0, 5⟩, ⟨0, 1⟩, .default, signer⟩)

def connOpenConfirm (delay : Duration) : MsgEnvelope :=
  .connection (.openConfirm
    ⟨connectionId, proofOf (provedConn (connEnd .open (some connectionId) delay)), ⟨0, 8⟩, signer⟩)

def chanOpenInit (ordering : Order) : MsgEnvelope :=
  .channel (.openInit ⟨.transfer, [connectionId], .transfer, ordering, signer, version⟩)

def chanOpenTry (ordering : Order) : MsgEnvelope :=
  .channel (.openTry
    ⟨.transfer, [connectionId], .transfer, channelId, version,
      proofOf (provedChan (chanEnd .init none ordering)), ⟨0, 8⟩, ordering, signer, .empty⟩)

def chanOpenAck (ordering : Order) : MsgEnvelope :=
  .channel (.openAck
    ⟨.transfer, channelId, channelId, version,
      proofOf (provedChan (chanEnd .tryOpen (some channelId) ordering)), ⟨0, 8⟩, signer⟩)

def chanOpenConfirm (ordering : Order) : MsgEnvelope :=
  .channel (.openConfirm
    ⟨.transfer, channelId, proofOf (provedChan (chanEnd .open (some channelId) ordering)),
      ⟨0, 20⟩, signer⟩)

end Msg

variable {μ μ' : Type}

def Move.tellLeft (msg : MsgEnvelope) : Move μ μ' := .left (.dispatch msg)

def Move.tellRight (msg : MsgEnvelope) : Move μ μ' := .right (.dispatch msg)

/-- The messages that open the connection on the left chain, and on the right one all but the last.
The left chain is given the delay `delayA`, the right one `delayB`. -/
def connecting (delayA delayB : Duration) : List (Move μ μ') :=
  [.tellLeft Msg.createClient, .tellRight Msg.createClient, .tellLeft (Msg.connOpenInit delayA),
    .tellRight (Msg.updateClient 5), .tellRight (Msg.connOpenTry delayB),
    .tellLeft (Msg.updateClient 5), .tellLeft (Msg.connOpenAck delayA)]

/-- The messages that open a connection and a channel over it, up to the last one for the channel
on the right chain. -/
def acknowledging (ordering : Order) : List (Move μ μ') :=
  connecting 0 0 ++
    [.tellLeft (Msg.chanOpenInit ordering), .tellRight (Msg.updateClient 8),
      .tellRight (Msg.connOpenConfirm 0), .tellRight (Msg.chanOpenTry ordering),
      .tellLeft (Msg.updateClient 8), .tellLeft (Msg.chanOpenAck ordering)]

/-- The messages that open a connection and a channel over it, on both chains. -/
def opening (ordering : Order) : List (Move μ μ') :=
  acknowledging ordering ++
    [.tellRight (Msg.updateClient 20), .tellRight (Msg.chanOpenConfirm ordering)]

/-- The two mock chains, each with proofs of what the other holds. -/
def mockWorld (factsA factsB : ℕ → List (Path × Bytes))
    (okA okB : Input MockConsensusState Unit → Prop) :
    Duo.System (MockCtx Unit) (MockCtx Unit) :=
  world (ProofRun.host factsB) (ProofRun.host factsA) okA okB

theorem exists_mockWorld {α : Type} (factsA factsB : ℕ → List (Path × Bytes))
    (okA okB : Input MockConsensusState Unit → Prop) [DecidablePred okA] [DecidablePred okB]
    (ms : List (Move Unit Unit)) (f : Duo (MockCtx Unit) (MockCtx Unit) → α) {y : α}
    (h : (runMoves (worldChecks (mockLike_host factsB) (mockLike_host factsA) okA okB)
      (.start ProofRun.start ProofRun.start) ms).map (f ·.duo) = some y) :
    ∃ w, (mockWorld factsA factsB okA okB).Reachable w ∧ f w = y := by
  have fresh : ProofRun.start.Fresh := ⟨rfl, rfl⟩
  exact exists_of_runMoves (mockLike_host factsB) (mockLike_host factsA)
    (Sample.valid_start fresh fresh fresh fresh) ms f h

end WorldRun

end Ibc
