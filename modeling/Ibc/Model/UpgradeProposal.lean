import Ibc.Model.TendermintClient

/-!
# Upgrade proposals

A host with a Tendermint chain announces its own upgrade to the clients that follow it: a governance
proposal carries the plan of the upgrade and the client state the clients will have after it. The
handler of a proposal writes to the upgrade store of the host, which is a parameter of the source;
`UpgradeStore` is a host whose operations never fail.
-/

namespace Ibc

/-! ### Plans and proposals -/

/-- When a chain upgrades. -/
structure Plan where
  name : String
  height : ℕ
  info : String
deriving DecidableEq

/-- The wire form of a plan. The height is a signed word; the time is seconds and nanoseconds. -/
structure RawPlan where
  name : String
  time : Option (ℤ × ℤ)
  height : ℤ
  info : String
  upgradedClientState : Option Any
deriving DecidableEq

/-- The two fields that the upgrade module no longer reads must be empty. -/
def Plan.tryFrom (raw : RawPlan) : Except UpgradeClientError Plan := do
  Result.ensure (raw.name ≠ "") (.invalidUpgradePlan "name field cannot be empty")
  Result.ensure (raw.time = none) (.invalidUpgradePlan "time field must be empty")
  Result.ensure (raw.upgradedClientState = none)
    (.invalidUpgradePlan "upgraded_client_state field must be empty")
  Result.ensure (0 ≤ raw.height) (.invalidUpgradePlan "height plan overflow")
  pure ⟨raw.name, raw.height.toNat, raw.info⟩

/-- A plan, and the client state after it. -/
structure UpgradeProposal where
  title : String
  description : String
  plan : Plan
  upgradedClientState : Any
deriving DecidableEq

/-- The wire form of a proposal. -/
structure RawUpgradeProposal where
  title : String
  description : String
  plan : Option RawPlan
  upgradedClientState : Option Any
deriving DecidableEq

/-- The upgraded client state is only required to be there: it is not decoded here. -/
def UpgradeProposal.tryFrom (raw : RawUpgradeProposal) :
    Except UpgradeClientError UpgradeProposal := do
  Result.ensure (raw.title ≠ "") (.invalidUpgradeProposal "title field cannot be empty")
  Result.ensure (raw.description ≠ "")
    (.invalidUpgradeProposal "description field cannot be empty")
  let rawPlan ← Result.okOr raw.plan (.invalidUpgradeProposal "plan field cannot be empty")
  let plan ← Plan.tryFrom rawPlan
  let upgradedClientState ← Result.okOr raw.upgradedClientState
    (.invalidUpgradeProposal "upgraded client state cannot be empty")
  pure ⟨raw.title, raw.description, plan, upgradedClientState⟩

/-- The event of a proposal. -/
def upgradeClientProposalEvent (title : String) (height : ℕ) : ModuleEvent :=
  ⟨"upgrade_client_proposal", [("title", title), ("upgrade_plan_height", toString height)]⟩

/-! ### The handler -/

/-- What the handler asks of a host with upgrade store `σ` and client states `γ`. -/
structure UpgradeContext (σ γ : Type) where
  ofTm : TmClientState → γ
  upgradePlan : σ → Except UpgradeClientError Plan
  scheduleUpgrade : Plan → Exec σ UpgradeClientError Unit
  clearUpgradePlan : ℕ → Exec σ UpgradeClientError Unit
  /-- Stores a client state at the path `UpgradedClientState` of a height. -/
  storeUpgradedClientState : ℕ → γ → Exec σ UpgradeClientError Unit

section Handler

variable {σ γ : Type} (lib : TmLibrary) (errorText : ClientError → String)
  (ctx : UpgradeContext σ γ)

/-- A plan that is already there is cleared at the height of the *new* plan, and before the new
client state is decoded. -/
def upgradeClientProposalHandler (proposal : UpgradeProposal) :
    Exec σ UpgradeClientError ModuleEvent := do
  let plan := proposal.plan
  let s ← Exec.read
  if (ctx.upgradePlan s).isOk then
    ctx.clearUpgradePlan plan.height
  let clientState ← Exec.ofExcept ((lib.clientStateOf proposal.upgradedClientState).mapError
    fun e => .invalidUpgradeProposal (errorText e))
  let clientState := clientState.zeroCustomFields
  ctx.scheduleUpgrade plan
  ctx.storeUpgradedClientState plan.height (ctx.ofTm clientState)
  pure (upgradeClientProposalEvent proposal.title plan.height)

end Handler

/-! ### An upgrade store -/

/-- One plan at most, and the upgraded client and consensus states by height. -/
structure UpgradeStore (γ κ : Type) where
  plan : Option Plan
  clientStates : ℕ → Option γ
  consensusStates : ℕ → Option κ

namespace UpgradeStore

variable {γ κ : Type}

/-- No upgrade is planned. -/
def empty : UpgradeStore γ κ := ⟨none, fun _ => none, fun _ => none⟩

/-- The plan is replaced. -/
def schedule (plan : Plan) (s : UpgradeStore γ κ) : UpgradeStore γ κ := { s with plan := some plan }

/-- The plan goes, whatever its height, and with it the states at `height`. -/
def clear (height : ℕ) (s : UpgradeStore γ κ) : UpgradeStore γ κ where
  plan := none
  clientStates := Function.update s.clientStates height none
  consensusStates := Function.update s.consensusStates height none

/-- The client state after the upgrade at a height. -/
def storeClientState (height : ℕ) (clientState : γ) (s : UpgradeStore γ κ) : UpgradeStore γ κ :=
  { s with clientStates := Function.update s.clientStates height (some clientState) }

/-- The store as the host of the handler. -/
def context (ofTm : TmClientState → γ) : UpgradeContext (UpgradeStore γ κ) γ where
  ofTm := ofTm
  upgradePlan s := Result.okOr s.plan (.other "no upgrade plan is scheduled")
  scheduleUpgrade plan := Exec.write (schedule plan)
  clearUpgradePlan height := Exec.write (clear height)
  storeUpgradedClientState height clientState := Exec.write (storeClientState height clientState)

end UpgradeStore

end Ibc
