import Ibc.Model.UpgradeProposal
import Ibc.Support.History
import Ibc.Tendermint.Upgrade
import Mathlib.Data.List.Induction

/-!
# The scheduled upgrade

A counterparty can prove whatever is in the upgrade store, so the store should hold the client state
of the scheduled plan and no other, and a proposal that is turned down should leave it alone. Both
depend on the plan that was scheduled before: it is cleared at the height of the new plan, and
before the new client state is decoded.
-/

namespace Ibc

section General

variable {γ κ : Type} (lib : TmLibrary) (errorText : ClientError → String)
  (ofTm : TmClientState → γ)

/-- The handler on an upgrade store. -/
def proposeUpgrade (p : UpgradeProposal) :
    Exec (UpgradeStore γ κ) UpgradeClientError ModuleEvent :=
  upgradeClientProposalHandler lib errorText (UpgradeStore.context ofTm) p

namespace UpgradeStore

/-- What the handler does first: a scheduled plan makes room for one at `height`. -/
def makeRoom (height : ℕ) (s : UpgradeStore γ κ) : UpgradeStore γ κ :=
  if s.plan = none then s else s.clear height

theorem plan_makeRoom (height : ℕ) (s : UpgradeStore γ κ) : (s.makeRoom height).plan = none := by
  by_cases h : s.plan = none <;> simp [makeRoom, clear, h]

/-- The upgraded client states are those of the scheduled plan: one if there is a plan, and none
otherwise. -/
def Exact (s : UpgradeStore γ κ) : Prop :=
  ∀ h, s.clientStates h ≠ none ↔ ∃ P, s.plan = some P ∧ P.height = h

/-- The plan to be replaced, if any, is at the height of the new one. -/
def SameHeight (s : UpgradeStore γ κ) (p : UpgradeProposal) : Prop :=
  ∀ P, s.plan = some P → P.height = p.plan.height

theorem exact_empty : (empty : UpgradeStore γ κ).Exact := by
  intro h
  simp [empty]

/-- Without a plan, a store is exact when it has no client state. -/
theorem exact_of_plan_eq_none {s : UpgradeStore γ κ} (h : s.plan = none) :
    s.Exact ↔ ∀ height, s.clientStates height = none := by
  simp [Exact, h]

/-- Making room empties an exact store just when the plan that goes is at that height. -/
theorem exact_makeRoom {s : UpgradeStore γ κ} (hs : s.Exact) (p : UpgradeProposal) :
    (s.makeRoom p.plan.height).Exact ↔ s.SameHeight p := by
  rw [exact_of_plan_eq_none (plan_makeRoom _ s)]
  cases hplan : s.plan with
  | none =>
    have hnone := (exact_of_plan_eq_none hplan).mp hs
    simp [makeRoom, SameHeight, hplan, hnone]
  | some P =>
    have hstates (h : ℕ) : s.clientStates h = none ↔ P.height ≠ h := by
      simpa [hplan] using not_congr (hs h)
    have hroom : s.makeRoom p.plan.height = s.clear p.plan.height := by simp [makeRoom, hplan]
    simp only [hroom, clear, SameHeight, hplan, Option.some.injEq, forall_eq']
    constructor
    · intro hclear
      by_contra hne
      have hleft := hclear P.height
      rw [Function.update_of_ne hne] at hleft
      exact (hstates P.height).mp hleft rfl
    · intro heq h
      by_cases hh : h = p.plan.height
      · rw [hh, Function.update_self]
      · rw [Function.update_of_ne hh]
        exact (hstates h).mpr fun hP => hh (hP.symm.trans heq)

/-- There is room at the height asked for. -/
theorem clientStates_makeRoom {s : UpgradeStore γ κ} (hs : s.Exact) (height : ℕ) :
    (s.makeRoom height).clientStates height = none := by
  by_cases hplan : s.plan = none
  · simp [makeRoom, hplan, (exact_of_plan_eq_none hplan).mp hs]
  · simp [makeRoom, hplan, clear]

/-- A plan scheduled with its client state is exact when no other height has one. -/
theorem exact_schedule (s : UpgradeStore γ κ) (P : Plan) (clientState : γ) :
    ((s.schedule P).storeClientState P.height clientState).Exact ↔
      ∀ h, h ≠ P.height → s.clientStates h = none := by
  simp only [Exact, schedule, storeClientState, Option.some.injEq, exists_eq_left']
  refine forall_congr' fun h => ?_
  by_cases hh : h = P.height
  · simp [hh]
  · simp [hh, Ne.symm hh]

end UpgradeStore

open UpgradeStore

variable {lib errorText ofTm} {s : UpgradeStore γ κ} {p : UpgradeProposal}

/-- A proposal whose client state does not decode. -/
theorem proposeUpgrade_of_error {e : ClientError}
    (h : lib.clientStateOf p.upgradedClientState = .error e) :
    proposeUpgrade lib errorText ofTm p s =
      (.error (.err (.invalidUpgradeProposal (errorText e))), s.makeRoom p.plan.height) := by
  cases hplan : s.plan <;>
    simp [proposeUpgrade, upgradeClientProposalHandler, context, makeRoom, h, hplan, Except.isOk,
      Except.toBool, Except.mapError, Exec.ofExcept, Result.ofExcept]

/-- A proposal whose client state decodes. -/
theorem proposeUpgrade_of_ok {cs : TmClientState}
    (h : lib.clientStateOf p.upgradedClientState = .ok cs) :
    proposeUpgrade lib errorText ofTm p s =
      (.ok (upgradeClientProposalEvent p.title p.plan.height),
        ((s.makeRoom p.plan.height).schedule p.plan).storeClientState p.plan.height
          (ofTm cs.zeroCustomFields)) := by
  cases hplan : s.plan <;>
    simp [proposeUpgrade, upgradeClientProposalHandler, context, makeRoom, h, hplan, Except.isOk,
      Except.toBool, Except.mapError, Exec.ofExcept, Result.ofExcept]

/-! ### Runs of proposals -/

section Runs

variable (lib errorText ofTm)

/-- The store after a list of proposals, some of which may have been turned down. -/
def afterProposals (ps : List UpgradeProposal) : UpgradeStore γ κ :=
  ps.foldl (fun s p => (proposeUpgrade lib errorText ofTm p s).2) .empty

theorem afterProposals_concat (ps : List UpgradeProposal) (p : UpgradeProposal) :
    (afterProposals lib errorText ofTm (ps ++ [p]) : UpgradeStore γ κ) =
      (proposeUpgrade lib errorText ofTm p (afterProposals lib errorText ofTm ps)).2 := by
  simp [afterProposals]

end Runs

/-- A call leaves its plan scheduled if it succeeds, and in any case no client state but that of the
scheduled plan. -/
structure Schedules (p : UpgradeProposal)
    (out : Result UpgradeClientError ModuleEvent × UpgradeStore γ κ) : Prop where
  scheduled : ∀ event, out.1 = .ok event → out.2.plan = some p.plan
  states : out.2.Exact

/-- One call on an exact store. -/
theorem schedules_iff (hs : s.Exact) :
    Schedules p (proposeUpgrade lib errorText ofTm p s) ↔ s.SameHeight p := by
  rw [← exact_makeRoom hs p]
  cases hcs : lib.clientStateOf p.upgradedClientState with
  | error e =>
    rw [proposeUpgrade_of_error hcs]
    refine ⟨fun h => h.states, fun h => ⟨?_, h⟩⟩
    rintro event ⟨⟩
  | ok cs =>
    rw [proposeUpgrade_of_ok hcs]
    have hstates := exact_schedule (s.makeRoom p.plan.height) p.plan (ofTm cs.zeroCustomFields)
    constructor
    · intro h
      refine (exact_of_plan_eq_none (plan_makeRoom _ s)).mpr fun height => ?_
      by_cases hheight : height = p.plan.height
      · rw [hheight]
        exact clientStates_makeRoom hs p.plan.height
      · exact hstates.mp h.states height hheight
    · intro h
      refine ⟨fun _ _ => rfl, hstates.mpr fun height _ => ?_⟩
      exact (exact_of_plan_eq_none (plan_makeRoom _ s)).mp h height

/-- **The upgraded states of the current plan.** From an empty store, every call of a run leaves its
own plan scheduled when it succeeds, and never a client state but that of the scheduled plan,
exactly when no call of the run finds a plan scheduled at another height than its own. -/
theorem upgraded_states_current (ps : List UpgradeProposal) :
    ps.Justified (fun before p => Schedules p
        (proposeUpgrade lib errorText ofTm p
          (afterProposals lib errorText ofTm before : UpgradeStore γ κ))) ↔
      ps.Justified fun before p =>
        (afterProposals lib errorText ofTm before : UpgradeStore γ κ).SameHeight p := by
  -- A run whose calls all schedule their plans leaves an exact store for the next call.
  have hexact {before : List UpgradeProposal}
      (h : before.Justified fun before p => Schedules p
        (proposeUpgrade lib errorText ofTm p
          (afterProposals lib errorText ofTm before : UpgradeStore γ κ))) :
      (afterProposals lib errorText ofTm before : UpgradeStore γ κ).Exact := by
    rcases before.eq_nil_or_concat with rfl | ⟨before, p, rfl⟩
    · exact exact_empty
    · rw [List.concat_eq_append] at h ⊢
      rw [afterProposals_concat]
      exact (List.justified_concat.mp h).2.states
  induction ps using List.reverseRecOn with
  | nil => exact iff_of_true (List.justified_nil _) (List.justified_nil _)
  | append_singleton ps p ih =>
    refine List.justified_concat.trans (Iff.trans ?_ List.justified_concat.symm)
    constructor
    · rintro ⟨h, hp⟩
      exact ⟨ih.mp h, (schedules_iff (hexact h)).mp hp⟩
    · rintro ⟨h, hp⟩
      have hsched := ih.mpr h
      exact ⟨hsched, (schedules_iff (hexact hsched)).mpr hp⟩

/-! ### Proposals that are turned down -/

/-- **A rejected proposal.** It leaves the store as it was exactly when no plan was scheduled; a
proposal is turned down when its client state does not decode. -/
theorem rejected_proposal_unchanged :
    (∀ e s', proposeUpgrade lib errorText ofTm p s = (.error e, s') → s' = s) ↔
      s.plan = none ∨ ∃ cs, lib.clientStateOf p.upgradedClientState = .ok cs := by
  cases hcs : lib.clientStateOf p.upgradedClientState with
  | ok cs =>
    refine iff_of_true ?_ (.inr ⟨cs, rfl⟩)
    rw [proposeUpgrade_of_ok hcs]
    rintro e s' ⟨⟩
  | error e =>
    rw [proposeUpgrade_of_error hcs]
    constructor
    · intro h
      have hsame := h _ _ rfl
      exact .inl (hsame ▸ plan_makeRoom p.plan.height s)
    · rintro (hplan | ⟨cs, ⟨⟩⟩) e' s' heq
      rw [← (Prod.mk.inj heq).2, makeRoom, if_pos hplan]

end General

/-! ### Sample proposals -/

namespace TmRun

/-- A proposal to upgrade at `height`, on the wire. -/
def rawProposal (height : ℤ) (clientState : Any) : RawUpgradeProposal :=
  ⟨"upgrade", "a new version", some ⟨"v2", none, height, "", none⟩, some clientState⟩

def proposal (height : ℕ) (clientState : Any) : UpgradeProposal :=
  ⟨"upgrade", "a new version", ⟨"v2", height, ""⟩, clientState⟩

/-- The handler on a store of Tendermint states. -/
def propose : UpgradeProposal →
    Exec (UpgradeStore TmClientState TmConsensusState) UpgradeClientError ModuleEvent :=
  proposeUpgrade (libraryFor upgradedState) (fun _ => "error") id

/-- The store after a proposal at height 10. -/
def scheduledAtTen : UpgradeStore TmClientState TmConsensusState :=
  (propose (proposal 10 upgradedClientAny) .empty).2

/-- A proposal whose client state is of no known type. -/
def unknownProposal : UpgradeProposal := proposal 10 ⟨"/unknown", []⟩

end TmRun

open TmRun

/-- Two proposals that both succeed, the second at another height: the client state of the first
stays. -/
theorem superseded_plan_left :
    let first := proposal 10 upgradedClientAny
    let second := proposal 20 upgradedClientAny
    let out := propose second (propose first .empty).2
    UpgradeProposal.tryFrom (rawProposal 10 upgradedClientAny) = .ok first ∧
      UpgradeProposal.tryFrom (rawProposal 20 upgradedClientAny) = .ok second ∧
      (propose first .empty).1 = .ok (upgradeClientProposalEvent "upgrade" 10) ∧
      out.1 = .ok (upgradeClientProposalEvent "upgrade" 20) ∧
      out.2.plan = some second.plan ∧
      out.2.clientStates 10 = some upgradedState.zeroCustomFields := by
  decide +kernel

/-- A proposal that does not decode cancels the plan that was scheduled. -/
theorem rejected_proposal_cancels :
    UpgradeProposal.tryFrom (rawProposal 10 ⟨"/unknown", []⟩) = .ok unknownProposal ∧
      (propose unknownProposal scheduledAtTen).1 =
        .error (.err (.invalidUpgradeProposal "error")) ∧
      scheduledAtTen.plan = some unknownProposal.plan ∧
      (scheduledAtTen.clientStates 10).isSome ∧
      (propose unknownProposal scheduledAtTen).2.plan = none ∧
      (propose unknownProposal scheduledAtTen).2.clientStates 10 = none := by
  decide +kernel

end Ibc
