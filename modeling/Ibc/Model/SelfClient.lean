import Ibc.Model.TendermintClient

/-!
# The check of a chain's own client

In the connection handshake a chain is shown the client that the other chain keeps of it, and checks
that this is a client of itself. `validateSelfTendermintClient` is the check of a Tendermint chain.
-/

namespace Ibc

open Proto

/-- What a Tendermint chain knows of itself, apart from its height. -/
structure TmSelf where
  chainId : ChainId
  proofSpecs : List ProofSpec
  unbondingPeriod : Duration
  upgradePath : List String
  /-- The texts of proof specs and of a path in an error. -/
  debugSpecs : List ProofSpec → String
  debugPath : List String → String

/-- The error of a client that is none of the chain. -/
def invalidSelfClient (reason : String) : ContextError :=
  .connectionError (.invalidClientState reason)

/-- The parameters of the client are those of the chain, and it is behind the chain. -/
def validateSelfTendermintClient (lib : TmLibrary) (host : TmSelf) (hostCurrentHeight : Height)
    (clientStateOfHostOnCounterparty : Any) : Result ContextError Unit := do
  let cs ← Result.ofExcept (fun _ => invalidSelfClient "client must be a tendermint client")
    (lib.clientStateOf clientStateOfHostOnCounterparty)
  (cs.validate lib).mapErr fun e => .clientError (e.toClient lib)
  Result.ofExcept .clientError cs.confirmNotFrozen
  Result.require (host.chainId = cs.chainId) (invalidSelfClient
    ("invalid chain-id. expected: " ++ host.chainId.id ++ ", got: " ++ cs.chainId.id))
  Result.require (host.chainId.revisionNumber = cs.latestHeight.revisionNumber) (invalidSelfClient
    ("client is not in the same revision as the chain. expected: " ++
      toString host.chainId.revisionNumber ++ ", got: " ++
      toString cs.latestHeight.revisionNumber))
  Result.require (¬ hostCurrentHeight ≤ cs.latestHeight) (invalidSelfClient
    ("client has latest height " ++ cs.latestHeight.toText ++
      " greater than or equal to chain height " ++ hostCurrentHeight.toText))
  Result.require (host.proofSpecs = cs.proofSpecs) (invalidSelfClient
    ("client has invalid proof specs. expected: " ++ host.debugSpecs host.proofSpecs ++
      ", got: " ++ host.debugSpecs cs.proofSpecs))
  Result.ofExcept (fun _ => invalidSelfClient "invalid trust level")
    (lib.checkTrustThreshold cs.trustLevel)
  Result.require (host.unbondingPeriod = cs.unbondingPeriod) (invalidSelfClient
    ("invalid unbonding period. expected: " ++ lib.debugDuration host.unbondingPeriod ++
      ", got: " ++ lib.debugDuration cs.unbondingPeriod))
  Result.require (¬ cs.unbondingPeriod < cs.trustingPeriod) (invalidSelfClient
    ("unbonding period must be greater than trusting period. unbonding period (" ++
      lib.debugDuration cs.unbondingPeriod ++ ") < trusting period (" ++
      lib.debugDuration cs.trustingPeriod ++ ")"))
  Result.require (¬ (cs.upgradePath ≠ [] ∧ host.upgradePath ≠ cs.upgradePath)) (invalidSelfClient
    ("invalid upgrade path. expected: " ++ host.debugPath host.upgradePath ++ ", got: " ++
      host.debugPath cs.upgradePath))

/-- At its present block the chain accepts as its own client only what passes this check. -/
def HostEnv.ChecksSelf (lib : TmLibrary) (host : TmSelf) (env : HostEnv TmConsensusState) : Prop :=
  ∀ any, env.validateSelfClient any = .ok () →
    validateSelfTendermintClient lib host env.hostHeight any = .ok ()

end Ibc
