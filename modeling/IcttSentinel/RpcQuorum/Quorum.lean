/-
The witness quorum of packages/rpc-quorum/src/quorum.ts: which observations are admissible, the common
height and hash of those that are, and one witness for each failure domain among them.
-/
import IcttSentinel.Lib.Grouping
import IcttSentinel.RpcQuorum.Independence

namespace IcttSentinel.RpcQuorum

open IcttSentinel.Lib

inductive ArchiveDepth where
  | full
  | pruned
  | unknown
  deriving DecidableEq, Repr

structure WitnessObservation extends IndependenceClaim where
  endpointId : String
  blockchainId : Option String
  genesisHash : Option String
  evmChainId : Option Int
  networkId : Option Int
  headBlockNumber : Int
  hashAtHeight : Option String
  observedAtMs : Int
  archiveDepth : ArchiveDepth
  deriving DecidableEq, Repr

structure ExpectedIdentity where
  blockchainId : String
  genesisHash : Option String
  evmChainId : Int
  networkId : Int
  deriving DecidableEq, Repr

structure QuorumPolicy where
  minIndependentTrustDomains : Int
  maxHeadLagBlocks : Int
  maxObservationAgeMs : Int
  deriving DecidableEq, Repr

inductive WitnessRejection where
  | wrongBlockchainId
  | wrongGenesisHash
  | wrongEvmChainId
  | wrongNetworkId
  | missingIdentity
  | staleObservation
  | headLagging
  | headInFuture
  | noHashAtHeight
  deriving DecidableEq, Repr

structure RejectedWitness where
  endpointId : String
  trustDomain : String
  reason : WitnessRejection
  detail : String
  deriving DecidableEq, Repr

inductive QuorumOutcome where
  | agreed
  | insufficientWitnesses
  | disagreement
  | noCommonHeight
  deriving DecidableEq, Repr

structure QuorumResult where
  outcome : QuorumOutcome
  height : Option Int
  blockHash : Option String
  agreeingTrustDomains : List String
  agreeingProviderGroups : List String
  agreeingEndpointIds : List String
  rejected : List RejectedWitness
  reasons : List String
  degraded : List String
  deriving DecidableEq, Repr

/-- The failure domain an observation declares. -/
abbrev claimOf (o : WitnessObservation) : IndependenceClaim := o.toIndependenceClaim

def rejectedAs (o : WitnessObservation) (rejection : WitnessRejection × String) : RejectedWitness where
  endpointId := o.endpointId
  trustDomain := o.trustDomain
  reason := rejection.1
  detail := rejection.2

section Quorum

-- `toLowerCase`, and the sort keys by which `localeCompare` orders strings
variable {κ : Type} [LinearOrder κ] (toLowerCase : String → String) (collationKey : String → κ)

/-! ## Admission -/

/-- Why an observation is refused before heads are compared, if it is. -/
def identityRejection (expected : ExpectedIdentity) (policy : QuorumPolicy) (nowMs : Int) (o : WitnessObservation) :
    Option (WitnessRejection × String) :=
  match o.blockchainId, o.evmChainId, o.networkId with
  | some blockchainId, some evmChainId, some networkId =>
    if toLowerCase blockchainId ≠ toLowerCase expected.blockchainId then
      some (.wrongBlockchainId, "the endpoint serves a different Avalanche blockchain")
    else if expected.genesisHash.isSome && o.genesisHash.map toLowerCase ≠ expected.genesisHash.map toLowerCase then
      some (.wrongGenesisHash, "the endpoint does not match the configured genesis anchor")
    else if evmChainId ≠ expected.evmChainId then
      some (.wrongEvmChainId, "the endpoint serves a different EVM chain id")
    else if networkId ≠ expected.networkId then
      some (.wrongNetworkId, "the endpoint serves a different Avalanche network")
    else if nowMs - o.observedAtMs > policy.maxObservationAgeMs then
      some (.staleObservation, "the observation is older than the freshness policy allows")
    else none
  | _, _, _ => some (.missingIdentity, "the endpoint did not establish a full chain identity")

/-- `admissible`. -/
def admissibleOf (expected : ExpectedIdentity) (policy : QuorumPolicy) (nowMs : Int)
    (observations : List WitnessObservation) : List WitnessObservation :=
  observations.filter fun o => (identityRejection toLowerCase expected policy nowMs o).isNone

/-- `leadingHead`: the highest head, from zero on. -/
def leadingHead (admissible : List WitnessObservation) : Int :=
  admissible.foldl (fun m o => if o.headBlockNumber > m then o.headBlockNumber else m) 0

def lags (policy : QuorumPolicy) (leading : Int) (o : WitnessObservation) : Bool :=
  leading - o.headBlockNumber > policy.maxHeadLagBlocks

/-- `notLagging`. -/
def notLaggingOf (policy : QuorumPolicy) (admissible : List WitnessObservation) : List WitnessObservation :=
  admissible.filter fun o => !lags policy (leadingHead admissible) o

/-- The lowest head of the witnesses: `height`. -/
def lowestHead (first : WitnessObservation) (rest : List WitnessObservation) : Int :=
  rest.foldl (fun m o => if o.headBlockNumber < m then o.headBlockNumber else m) first.headBlockNumber

/-- `byHash`: the witnesses with a hash, under its lowercase form. -/
def byHash (withHash : List WitnessObservation) : Groups String WitnessObservation :=
  groupBy (fun o => ((o.hashAtHeight.map toLowerCase).getD "")) withHash

/-- `independentWitnesses`: the first endpoint by id of every failure domain, in the order of ids. -/
def independentWitnesses (observations : List WitnessObservation) : List WitnessObservation :=
  let ordered := sortOn (fun o => collationKey (o.trustDomain ++ "\x00" ++ o.providerGroup ++ "\x00" ++ o.endpointId))
    observations
  sortOn (fun o => collationKey o.endpointId)
    ((independenceGroups claimOf ordered).filterMap fun group =>
      (sortOn (fun o => collationKey o.endpointId) group).head?)

/-! ## The quorum -/

/-- A result with no agreement and nothing selected. -/
def unselected (outcome : QuorumOutcome) (height : Option Int) (rejected : List RejectedWitness) (reason : String)
    (degraded : List String) : QuorumResult where
  outcome
  height
  blockHash := none
  agreeingTrustDomains := []
  agreeingProviderGroups := []
  agreeingEndpointIds := []
  rejected
  reasons := [reason]
  degraded

/-- The verdict on the witnesses that have a hash at the height. -/
def judge (policy : QuorumPolicy) (height : Int) (withHash : List WitnessObservation) (rejected : List RejectedWitness)
    (degraded : List String) : QuorumResult :=
  let hashes := byHash toLowerCase withHash
  match hashes.rows with
  | [] => unselected .noCommonHeight none rejected "no witness supplied a hash at the common height" degraded
  | (hash, group) :: [] =>
    let independent := independentWitnesses collationKey group
    let short := (independent.length : Int) < policy.minIndependentTrustDomains
    { outcome := if short then .insufficientWitnesses else .agreed
      height := some height
      blockHash := some hash
      agreeingTrustDomains := sortStrings (independent.map (·.trustDomain))
      agreeingProviderGroups := sortStrings (independent.map (·.providerGroup))
      agreeingEndpointIds := independent.map (·.endpointId)
      rejected
      reasons :=
        if short then
          [toString group.length ++ " endpoint(s) agreed but only " ++ toString independent.length ++ " " ++
            "witness(es) are independent by provider group and trust domain; policy requires " ++
            toString policy.minIndependentTrustDomains ++ ". " ++
            "Multiple URLs or identities behind one provider count as one witness."]
        else []
      degraded }
  | rows => unselected .disagreement (some height) rejected
      ("witnesses report " ++ toString rows.length ++ " different hashes at height " ++ toString height ++ "; " ++
        "no hash is selected, because picking one would invent agreement") degraded

def evaluateQuorum (observations : List WitnessObservation) (expected : ExpectedIdentity) (policy : QuorumPolicy)
    (nowMs : Int) : QuorumResult :=
  let rejection := identityRejection toLowerCase expected policy nowMs
  let refused := observations.filterMap fun o => (rejection o).map (rejectedAs o)
  let admissible := admissibleOf toLowerCase expected policy nowMs observations
  if admissible.isEmpty then
    unselected .insufficientWitnesses none refused
      "no endpoint established the expected chain identity within the freshness window" []
  else
    let leading := leadingHead admissible
    let lagging := admissible.filter (lags policy leading)
    let refused := refused ++ lagging.map fun o => rejectedAs o (.headLagging,
      "head is " ++ toString (leading - o.headBlockNumber) ++ " blocks behind the leading witness")
    let degraded := lagging.map fun o => o.endpointId ++ ": head lagging"
    -- the source tests for an empty list twice; the second test never succeeds
    match notLaggingOf policy admissible with
    | [] => unselected .insufficientWitnesses none refused "every witness was outside the head-lag policy" degraded
    | first :: rest =>
      let hashless := (first :: rest).filter (·.hashAtHeight.isNone)
      judge toLowerCase collationKey policy (lowestHead first rest) ((first :: rest).filter (·.hashAtHeight.isSome))
        (refused ++ hashless.map fun o => rejectedAs o (.noHashAtHeight,
          "the endpoint did not return a block hash at the common height"))
        (degraded ++ hashless.map fun o => o.endpointId ++ ": no hash at the common height")

end Quorum

end IcttSentinel.RpcQuorum
