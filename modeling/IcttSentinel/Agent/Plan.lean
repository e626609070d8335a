/-
The watch plan of apps/agent/src/plan.ts: what a reviewed manifest and policy ask the agent to watch.
-/
import IcttSentinel.Config.Manifest
import IcttSentinel.Replay.Engine

namespace IcttSentinel.Agent

open IcttSentinel.Config IcttSentinel.Replay

/-- `chainKeyOf`. -/
def chainKeyOf (deploymentId chainName : String) : String := deploymentId ++ "/" ++ chainName

structure ChainWiring where
  chainKey : String
  endpoints : List Endpoint
  maxRangeBlocks : Nat
  finality : FinalityMode

structure ChainPlan where
  chainKey : String
  evmChainId : Nat
  blockchainId : String
  finality : FinalityMode
  config : ReplayConfig

structure DeploymentPlan where
  deploymentId : String
  maxHints : Nat
  maxAgeSeconds : Nat
  expiresAfterSeconds : Nat
  chains : List ChainPlan

structure WatchPlan where
  deployment : DeploymentPlan
  chains : List ChainWiring

/-- The agreement that a side demands: the stricter of policy and chain, and an archive fallback only
where an endpoint of full depth has that role. -/
def agreementOf (policy : Policy) (side : Side) : AgreementPolicy where
  requiredIndependentGroups := max policy.minIndependentTrustDomains side.chain.independentTrustDomains
  archiveFallbackDeclared := side.chain.endpoints.any fun e => e.archiveDepth = .full && e.role = .archive

def wiringOf (m : Manifest) (policy : Policy) (side : Side) : ChainWiring where
  chainKey := chainKeyOf m.name.val side.name.val
  endpoints := side.chain.endpoints
  maxRangeBlocks := policy.maxLogRangeBlocks
  finality := side.chain.finality.mode

def chainPlanOf (m : Manifest) (policy : Policy) (side : Side) : ChainPlan where
  chainKey := chainKeyOf m.name.val side.name.val
  evmChainId := side.chain.evmChainId
  blockchainId := side.chain.blockchainId
  finality := side.chain.finality.mode
  config := {
    deploymentId := m.name.val
    chainKey := chainKeyOf m.name.val side.name.val
    startBlock := side.deploymentBlock
    agreement := agreementOf policy side
    retryBudget := policy.maxRetries
    freshnessTtlMs := policy.maxAgeSeconds * 1000
    maxHintsConsidered := 32
    startBlock_nonneg := by omega
    freshnessTtlMs_nonneg := by omega }

def buildWatchPlan (m : Manifest) (policy : Policy) : Except String WatchPlan :=
  if m.baseline ≠ .approved then .error "agent requires an operator-approved manifest baseline"
  else .ok {
    chains := m.sides.map (wiringOf m policy)
    deployment := {
      deploymentId := m.name.val
      maxHints := 32
      maxAgeSeconds := policy.maxAgeSeconds
      expiresAfterSeconds := policy.expiresAfterSeconds
      chains := m.sides.map (chainPlanOf m policy) } }

/-- An approved manifest is planned side by side. -/
theorem buildWatchPlan_ok {m : Manifest} {policy : Policy} {plan : WatchPlan} (h : buildWatchPlan m policy = .ok plan) :
    plan.chains = m.sides.map (wiringOf m policy) ∧ plan.deployment.chains = m.sides.map (chainPlanOf m policy) := by
  unfold buildWatchPlan at h
  split at h
  · cases h
  · rw [← Except.ok.inj h]
    exact ⟨rfl, rfl⟩

end IcttSentinel.Agent
