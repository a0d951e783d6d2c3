import Ibc.Protocol.Bounds
import Ibc.Tendermint.Update

/-!
# Which client messages make the Tendermint client panic

The height of a header has the revision number that its chain id ends in. Reading it panics when the
chain id does not end in one, and when the block height is zero. Nothing has checked either when a
relayer's header, or the two headers of a misbehaviour report, are first looked at.

* **`clientMessage_returns_iff`**: verifying a client message, looking for misbehaviour in it and
  updating the client with it all return exactly when all its headers are numbered.
* **`unnumbered_header_panics`**: a header of a chain without revisions ends the call of the core.
-/

namespace Ibc

open Result

/-- The chain id ends in a revision number, and the block height is not zero. -/
def TmHeader.Numbered (lib : TmLibrary) (h : TmHeader) : Prop :=
  (∃ chainId, ChainId.fromStr lib.isAlphanumeric h.signedHeader.header.chainId = .ok chainId) ∧
    h.signedHeader.header.height ≠ 0

/-- The headers in a client message. -/
def TmLibrary.headersOf (lib : TmLibrary) (msg : Any) :
    UpdateKind → Except ClientError (List TmHeader)
  | .updateClient => do
      let header ← lib.headerOf msg
      pure [header]
  | .submitMisbehaviour => do
      let m ← lib.misbehaviourOf msg
      pure [m.header1, m.header2]

section Calls

variable {lib : TmLibrary} {cs : TmClientState} {clients : TmClientState.Records}
  {hostTimestamp : Timestamp} {clientId : ClientId} {msg : Any} {header : TmHeader}

/-- A numbered header has a height. -/
theorem TmHeader.Numbered.hasHeight (h : header.Numbered lib) :
    ∃ height, header.HasHeight lib height := by
  obtain ⟨⟨chainId, hc⟩, h0⟩ := h
  exact ⟨⟨chainId.revisionNumber, header.signedHeader.header.height⟩,
    by simp [HasHeight, TmHeader.height, hc, Height.new, h0]⟩

/-- No other header has one. -/
theorem TmHeader.height_eq_panic {ε : Type} (h : ¬ header.Numbered lib) :
    header.height lib = (.error (.panic .expect) : Result ε Height) := by
  unfold TmHeader.height
  cases hc : ChainId.fromStr lib.isAlphanumeric header.signedHeader.header.chainId with
  | error e => rfl
  | ok chainId =>
    have h0 : header.signedHeader.header.height = 0 := by
      by_contra h0
      exact h ⟨⟨chainId, hc⟩, h0⟩
    simp [Height.new, h0]

theorem TmHeader.height_returns {ε : Type} :
    Returns (header.height lib : Result ε Height) ↔ header.Numbered lib := by
  by_cases h : header.Numbered lib
  · obtain ⟨height, hh⟩ := h.hasHeight
    simp [hh.eq_ok, h]
  · simp [height_eq_panic h, not_returns_panic, h]

theorem TmHeader.validateBasic_returns (h : header.Numbered lib) :
    Returns (header.validateBasic lib) := by
  simp [validateBasic, returns_bind, height_returns, h]

theorem TmHeader.verifyChainIdVersionMatchesHeight_returns (h : header.Numbered lib)
    (chainId : ChainId) : Returns (header.verifyChainIdVersionMatchesHeight lib chainId) := by
  simp [verifyChainIdVersionMatchesHeight, returns_bind, height_returns, h]

theorem TmMisbehaviour.validateBasic_returns {m : TmMisbehaviour} (h₁ : m.header1.Numbered lib)
    (h₂ : m.header2.Numbered lib) : Returns (m.validateBasic lib) := by
  simp [validateBasic, returns_bind, TmHeader.height_returns, TmHeader.validateBasic_returns, h₁,
    h₂]

namespace TmClientState

theorem verifyHeader_returns (h : header.Numbered lib) :
    Returns (cs.verifyHeader lib clients hostTimestamp clientId header) := by
  simp [verifyHeader, returns_bind, header.validateBasic_returns h,
    header.verifyChainIdVersionMatchesHeight_returns h]

theorem verifyMisbehaviourHeader_returns {trusted : TmConsensusState} :
    Returns (cs.verifyMisbehaviourHeader lib header trusted hostTimestamp) := by
  simp [verifyMisbehaviourHeader, returns_bind]

theorem verifyMisbehaviour_returns {m : TmMisbehaviour} (h₁ : m.header1.Numbered lib)
    (h₂ : m.header2.Numbered lib) :
    Returns (cs.verifyMisbehaviour lib clients hostTimestamp clientId m) := by
  simp [verifyMisbehaviour, returns_bind, m.validateBasic_returns h₁ h₂,
    verifyMisbehaviourHeader_returns]

theorem checkForMisbehaviourUpdateClient_returns :
    Returns (cs.checkForMisbehaviourUpdateClient lib clients clientId header) ↔
      header.Numbered lib := by
  rw [checkForMisbehaviourUpdateClient, returns_bind, TmHeader.height_returns, and_iff_left_iff_imp]
  intro _ height _
  -- Past the height the search is total.
  cases clients.consensusState clientId height with
  | some existing => simp
  | none =>
    rw [returns_bind]
    refine ⟨returns_ofExcept, fun prev _ => ?_⟩
    split_ifs
    · exact returns_pure
    · exact returns_bind.mpr ⟨returns_ofExcept, fun _ _ => returns_pure⟩
    · exact returns_pure

theorem checkForMisbehaviourMisbehavior_returns {m : TmMisbehaviour} :
    Returns (checkForMisbehaviourMisbehavior lib m) ↔
      m.header1.Numbered lib ∧ m.header2.Numbered lib := by
  by_cases h₁ : m.header1.Numbered lib
  · obtain ⟨height₁, hh₁⟩ := h₁.hasHeight
    by_cases h₂ : m.header2.Numbered lib
    · obtain ⟨height₂, hh₂⟩ := h₂.hasHeight
      simp only [checkForMisbehaviourMisbehavior, hh₁.eq_ok, hh₂.eq_ok, ok_bind, h₁, h₂]
      split_ifs <;> simp
    · simp [checkForMisbehaviourMisbehavior, hh₁.eq_ok, TmHeader.height_eq_panic h₂,
        not_returns_panic, h₂]
  · simp [checkForMisbehaviourMisbehavior, TmHeader.height_eq_panic h₁, not_returns_panic, h₁]

theorem updateState_returns (hd : lib.headerOf msg = .ok header) :
    Returns (cs.updateState lib clientId msg clients).1 ↔ header.Numbered lib := by
  unfold updateState
  rw [hd]
  change Returns ((Exec.ofResult (header.height lib) >>= _) clients).1 ↔ _
  by_cases h : header.Numbered lib
  · obtain ⟨height, hh⟩ := h.hasHeight
    rw [hh.eq_ok, Exec.ofResult_ok_bind, Exec.read_bind]
    split_ifs <;> exact iff_of_true returns_ok h
  · rw [TmHeader.height_eq_panic h, Exec.ofResult_error_bind]
    exact iff_of_false not_returns_panic h

/-- A misbehaviour report is no header. -/
theorem updateState_returns_of_misbehaviour {m : TmMisbehaviour}
    (hd : lib.misbehaviourOf msg = .ok m) :
    Returns (cs.updateState lib clientId msg clients).1 := by
  have hheader : ∃ e, lib.headerOf msg = .error e := by
    unfold TmLibrary.misbehaviourOf at hd
    split_ifs at hd with hurl
    exact ⟨_, by rw [TmLibrary.headerOf, hurl, if_neg (by decide)]⟩
  obtain ⟨e, he⟩ := hheader
  unfold updateState
  rw [he]
  exact returns_err

end TmClientState

/-- **Client messages whose headers are numbered, and only those, never make the client panic.** -/
theorem clientMessage_returns_iff {kind : UpdateKind} {headers : List TmHeader}
    (hd : lib.headersOf msg kind = .ok headers) :
    (Returns (cs.verifyClientMessage lib clients hostTimestamp clientId msg kind) ∧
      Returns (cs.checkForMisbehaviour lib clients clientId msg kind) ∧
      Returns (cs.updateState lib clientId msg clients).1) ↔ ∀ h ∈ headers, h.Numbered lib := by
  cases kind with
  | updateClient =>
    obtain ⟨header, hheader, hd⟩ := bind_eq_ok.mp hd
    cases hd
    have hcheck : cs.checkForMisbehaviour lib clients clientId msg .updateClient =
        cs.checkForMisbehaviourUpdateClient lib clients clientId header := by
      rw [TmClientState.checkForMisbehaviour, hheader]
      rfl
    have hverify : cs.verifyClientMessage lib clients hostTimestamp clientId msg .updateClient =
        cs.verifyHeader lib clients hostTimestamp clientId header := by
      rw [TmClientState.verifyClientMessage, hheader]
      rfl
    rw [hcheck, hverify, TmClientState.checkForMisbehaviourUpdateClient_returns,
      TmClientState.updateState_returns hheader, List.forall_mem_singleton]
    exact ⟨fun h => h.2.1, fun h => ⟨TmClientState.verifyHeader_returns h, h, h⟩⟩
  | submitMisbehaviour =>
    obtain ⟨m, hm, hd⟩ := bind_eq_ok.mp hd
    cases hd
    have hcheck : cs.checkForMisbehaviour lib clients clientId msg .submitMisbehaviour =
        TmClientState.checkForMisbehaviourMisbehavior lib m := by
      rw [TmClientState.checkForMisbehaviour, hm]
      rfl
    have hverify :
        cs.verifyClientMessage lib clients hostTimestamp clientId msg .submitMisbehaviour =
          cs.verifyMisbehaviour lib clients hostTimestamp clientId m := by
      rw [TmClientState.verifyClientMessage, hm]
      rfl
    rw [hcheck, hverify, TmClientState.checkForMisbehaviourMisbehavior_returns,
      List.forall_mem_cons, List.forall_mem_singleton]
    exact ⟨fun h => h.2.1, fun h => ⟨TmClientState.verifyMisbehaviour_returns h.1 h.2, h,
      TmClientState.updateState_returns_of_misbehaviour hm⟩⟩

end Calls

/-! ### Indices -/

/-- The client's operations remove no client. -/
theorem tmClient_keepsClients (lib : TmLibrary) : (tmClient lib).KeepsClients where
  initialise cs id _ _ :=
    Exec.Ensures.ofExcept_bind (fun _ _ => .refl) fun cons _ =>
      (Clients.Kept.refl.storeClientState id cs).storeConsensusState id cs.latestHeight cons
  updateState cs id _ _ := by
    refine Exec.Ensures.ofExcept_bind (fun _ _ => .refl) fun header _ => ?_
    refine Exec.Ensures.ofResult_bind (fun _ _ => .refl) fun height _ => ?_
    refine Exec.ensures_read_bind (Exec.Ensures.ite (fun _ => .refl) fun _ => ?_)
    exact (Clients.Kept.refl.storeConsensusState id _ _).storeClientState id (cs.withHeader height)
  updateStateOnMisbehaviour _ id _ _ _ := Clients.Kept.refl.storeClientState id _
  updateStateOnUpgrade _ id _ _ _ := by
    refine Exec.Ensures.ofExcept_bind (fun _ _ => .refl) fun _ _ => ?_
    refine Exec.Ensures.ofExcept_bind (fun _ _ => .refl) fun _ _ => ?_
    refine Exec.Ensures.ofResult_bind (fun _ _ => .refl) fun cs' _ => ?_
    exact (Clients.Kept.refl.storeClientState id cs').storeConsensusState id _ _

/-- Asking about a client does not panic at all. -/
theorem tmClient_readsInBounds (lib : TmLibrary) : (tmClient lib).ReadsInBounds where
  confirmNotFrozen _ := avoids_ofExcept
  validateProofHeight _ _ := avoids_ofExcept

namespace TmRun

/-- The second block of a chain whose id has no revision number. -/
def unnumbered : TmHeader :=
  let h := block 2
  { h with signedHeader.header.chainId := "chain" }

def unnumberedMsg : MsgUpdateClient :=
  ⟨clientId, ⟨"/ibc.lightclients.tendermint.v1.Header", unnumbered.encode⟩, MockRun.signer⟩

def unnumberedHost : TmHost Unit := host [unnumbered]

/-- The client, how it verifies the unnumbered block, and how the core handles the update. -/
structure Rejection where
  client : Option TmClientState
  verified : Result ClientError Unit
  result : Result ContextError Unit
deriving DecidableEq

def rejection (s : TmCtx Unit) : Rejection where
  client := s.store.client.clients.clientState clientId
  verified := clientState.verifyClientMessage (library [unnumbered]) s.store.client.clients now
    clientId unnumberedMsg.header .updateClient
  result := (dispatch unnumberedHost (.client (.updateClient unnumberedMsg)) s).1

end TmRun

/-- A block of the sample chain is numbered: all three calls return. -/
theorem sample_block_returns :
    TmRun.sampleLibrary.headersOf (TmRun.updateMsg 10).header .updateClient =
      .ok [TmRun.block 10] ∧
    Returns (TmRun.clientState.verifyClientMessage TmRun.sampleLibrary TmRun.records TmRun.now
      TmRun.clientId (TmRun.updateMsg 10).header .updateClient) ∧
    Returns (TmRun.clientState.checkForMisbehaviour TmRun.sampleLibrary TmRun.records
      TmRun.clientId (TmRun.updateMsg 10).header .updateClient) ∧
    Returns (TmRun.clientState.updateState TmRun.sampleLibrary TmRun.clientId
      (TmRun.updateMsg 10).header TmRun.records).1 := by
  have hd : TmRun.sampleLibrary.headersOf (TmRun.updateMsg 10).header .updateClient =
      .ok [TmRun.block 10] := by decide +kernel
  have hnum : (TmRun.block 10).Numbered TmRun.sampleLibrary :=
    ⟨⟨⟨"chain-0", 0⟩, by decide +kernel⟩, by decide⟩
  exact ⟨hd, (clientMessage_returns_iff hd).mpr (List.forall_mem_singleton.mpr hnum)⟩

/-- A header of a chain without revisions ends the call, in the client and in the core. -/
theorem unnumbered_header_panics : ∃ s, Reachable TmRun.unnumberedHost s ∧
    s.store.client.clients.clientState TmRun.clientId = some TmRun.clientState ∧
    (TmRun.library [TmRun.unnumbered]).headersOf TmRun.unnumberedMsg.header .updateClient =
      .ok [TmRun.unnumbered] ∧
    TmRun.clientState.verifyClientMessage (TmRun.library [TmRun.unnumbered])
      s.store.client.clients TmRun.now TmRun.clientId TmRun.unnumberedMsg.header .updateClient =
      .error (.panic .expect) ∧
    (dispatch TmRun.unnumberedHost (.client (.updateClient TmRun.unnumberedMsg)) s).1 =
      .error (.panic .expect) := by
  obtain ⟨s, hs, h⟩ := Reachable.exists_of_runAll (H := TmRun.unnumberedHost) (s := TmRun.start)
    [TmRun.createClient] TmRun.rejection rfl rfl
    (by decide +kernel : _ = some ⟨some TmRun.clientState, .error (.panic .expect),
      .error (.panic .expect)⟩)
  have hcs := congrArg TmRun.Rejection.client h
  have hverified := congrArg TmRun.Rejection.verified h
  have hresult := congrArg TmRun.Rejection.result h
  exact ⟨s, hs, hcs, by decide +kernel, hverified, hresult⟩

end Ibc
