/-
The proof input contract and the rule output of packages/invariant-core/src/{inputs,reasons,outcome}.ts.
Amounts are bigints and every `number` field holds an integer.
-/
import IcttSentinel.Domain.Verdict

namespace IcttSentinel.InvariantCore

open IcttSentinel.Domain

/-! ## Inputs -/

/-- A pinned chain position, number and hash. -/
structure PinnedBlock where
  blockchainId : String
  blockNumber : Int
  blockHash : String
  deriving DecidableEq, Repr

inductive CensusState where
  | completeFromDeploymentBlock
  | partialCensus
  | unknown
  deriving DecidableEq, Repr

def CensusState.text : CensusState → String
  | .completeFromDeploymentBlock => "complete-from-deployment-block"
  | .partialCensus => "partial"
  | .unknown => "unknown"

inductive CutState where
  | closed
  | «open»
  | gap
  deriving DecidableEq, Repr

def CutState.text : CutState → String
  | .closed => "closed"
  | .open => "open"
  | .gap => "gap"

def supportedFamily : String := "canonical-erc20-single-hop"

structure ProvenanceInput where
  manifestHash : Option String
  policyHash : Option String
  sourceLockCommitSha : Option String
  adapterId : Option String
  adapterVersion : Option Int
  ruleVersion : String
  deriving DecidableEq, Repr

structure TokenScaleInput where
  tokenMultiplier : Int
  multiplyOnRemote : Bool
  homeDecimals : Int
  remoteDecimals : Int
  established : Bool
  deriving DecidableEq, Repr

/-- One registered remote as observed at a pinned block; `transferredBalance` and
`remoteTotalSupply` are both in remote denomination. -/
structure RemoteObservation where
  remoteBlockchainId : String
  remoteAddress : String
  transferredBalance : Option Int
  remoteTotalSupply : Option Int
  scale : TokenScaleInput
  homePin : Option PinnedBlock
  remotePin : Option PinnedBlock
  fingerprintRecognised : Bool
  tokenBehaviourCanonical : Bool
  routeSingleHop : Bool
  initialReserveImbalance : Int
  deriving DecidableEq, Repr

inductive Direction where
  | homeToRemote
  | remoteToHome
  deriving DecidableEq, Repr

def Direction.text : Direction → String
  | .homeToRemote => "home-to-remote"
  | .remoteToHome => "remote-to-home"

/-- An envelope whose two sides have not both closed yet. -/
structure PendingEnvelope where
  messageKey : String
  direction : Direction
  amount : Int
  ageSeconds : Int
  remoteBlockchainId : String
  remoteAddress : String
  deriving DecidableEq, Repr

/-- A credited effect and the source message that authorises it. -/
structure CreditedEffect where
  messageKey : String
  remoteBlockchainId : String
  remoteAddress : String
  amount : Int
  hasUniqueAuthorisedSource : Bool
  routeMatchesSource : Bool
  duplicateEffect : Bool
  causalSourceFact : Option String
  deriving DecidableEq, Repr

structure FreshnessInput where
  fresh : Bool
  independentWitnessGroups : Int
  requiredWitnessGroups : Int
  deriving DecidableEq, Repr

structure HomeEscrowInput where
  escrowBalance : Option Int
  homePin : Option PinnedBlock
  acceptedCollateralHomeUnits : Int
  deriving DecidableEq, Repr

structure ProofInput where
  deploymentId : String
  family : String
  provenance : ProvenanceInput
  census : CensusState
  untrackedRemotes : List String
  cut : CutState
  freshness : FreshnessInput
  remotes : List RemoteObservation
  pending : List PendingEnvelope
  effects : List CreditedEffect
  homeEscrow : HomeEscrowInput
  pendingAgeLimitSeconds : Int
  deriving DecidableEq, Repr

/-! ## Reasons and outputs -/

/-- The reason codes the rules and their aggregation can give. -/
inductive ReasonCode where
  | i01NoApprovedBaseline
  | i02NoSourceLockVersion
  | i03CensusIncomplete
  | i04NoPinnedBlock
  | i05CausalCutOpen
  | i06StaleObservation
  | i07MissingObservation
  | i08UnknownTokenScale
  | u01UnsupportedFamily
  | u02UnknownFingerprint
  | u03UnsupportedTokenBehaviour
  | u04UnsupportedRoute
  | a00Reconciled
  | a01ExcessRemoteRepresentation
  | a02DeltaUnexplained
  | a03DuplicateEconomicEffect
  | a04UnauthorisedMint
  | a05RouteMismatch
  | a06ArithmeticOutOfRange
  | b00CoverageSufficient
  | b01CoverageShortfall
  | b02UntrackedRemoteLiability
  | b03GateANotPassed
  | n00ReportedUpperBoundCovered
  | n01UpperBoundAboveCoverageIndeterminate
  | n02SupplyLowerBoundExceedsCoverage
  | cfgN01UnexpectedMinterRole
  | cfgN02UnauthorisedNativeMint
  | cfgN03NativeMinterCensusIncomplete
  | cfgN04DuplicateFeeReport
  | cfgN05FeeRemintSemanticsUnverified
  | aggM01RequiredEvaluationMissing
  | aggM02PreviousOkExpired
  | aggM03EvaluationFault
  | aggM04WitnessDivergence
  | l01PendingAgeExceeded
  deriving DecidableEq, Repr

def ReasonCode.text : ReasonCode → String
  | .i01NoApprovedBaseline => "ACC-I01-NO-APPROVED-BASELINE"
  | .i02NoSourceLockVersion => "ACC-I02-NO-SOURCE-LOCK-VERSION"
  | .i03CensusIncomplete => "ACC-I03-CENSUS-INCOMPLETE"
  | .i04NoPinnedBlock => "ACC-I04-NO-PINNED-BLOCK"
  | .i05CausalCutOpen => "ACC-I05-CAUSAL-CUT-OPEN"
  | .i06StaleObservation => "ACC-I06-STALE-OBSERVATION"
  | .i07MissingObservation => "ACC-I07-MISSING-OBSERVATION"
  | .i08UnknownTokenScale => "ACC-I08-UNKNOWN-TOKEN-SCALE"
  | .u01UnsupportedFamily => "ACC-U01-UNSUPPORTED-FAMILY"
  | .u02UnknownFingerprint => "ACC-U02-UNKNOWN-FINGERPRINT"
  | .u03UnsupportedTokenBehaviour => "ACC-U03-UNSUPPORTED-TOKEN-BEHAVIOUR"
  | .u04UnsupportedRoute => "ACC-U04-UNSUPPORTED-ROUTE"
  | .a00Reconciled => "ACC-A00-RECONCILED"
  | .a01ExcessRemoteRepresentation => "ACC-A01-EXCESS-REMOTE-REPRESENTATION"
  | .a02DeltaUnexplained => "ACC-A02-DELTA-UNEXPLAINED"
  | .a03DuplicateEconomicEffect => "ACC-A03-DUPLICATE-ECONOMIC-EFFECT"
  | .a04UnauthorisedMint => "ACC-A04-UNAUTHORISED-MINT"
  | .a05RouteMismatch => "ACC-A05-ROUTE-MISMATCH"
  | .a06ArithmeticOutOfRange => "ACC-A06-ARITHMETIC-OUT-OF-RANGE"
  | .b00CoverageSufficient => "ACC-B00-COVERAGE-SUFFICIENT"
  | .b01CoverageShortfall => "ACC-B01-COVERAGE-SHORTFALL"
  | .b02UntrackedRemoteLiability => "ACC-B02-UNTRACKED-REMOTE-LIABILITY"
  | .b03GateANotPassed => "ACC-B03-GATE-A-NOT-PASSED"
  | .n00ReportedUpperBoundCovered => "ACC-N00-REPORTED-UPPER-BOUND-COVERED"
  | .n01UpperBoundAboveCoverageIndeterminate => "ACC-N01-UPPER-BOUND-ABOVE-COVERAGE-INDETERMINATE"
  | .n02SupplyLowerBoundExceedsCoverage => "ACC-N02-SUPPLY-LOWER-BOUND-EXCEEDS-COVERAGE"
  | .cfgN01UnexpectedMinterRole => "CFG-N01-UNEXPECTED-MINTER-ROLE"
  | .cfgN02UnauthorisedNativeMint => "CFG-N02-UNAUTHORISED-NATIVE-MINT"
  | .cfgN03NativeMinterCensusIncomplete => "CFG-N03-NATIVE-MINTER-CENSUS-INCOMPLETE"
  | .cfgN04DuplicateFeeReport => "CFG-N04-DUPLICATE-FEE-REPORT"
  | .cfgN05FeeRemintSemanticsUnverified => "CFG-N05-FEE-REMINT-SEMANTICS-UNVERIFIED"
  | .aggM01RequiredEvaluationMissing => "AGG-M01-REQUIRED-EVALUATION-MISSING"
  | .aggM02PreviousOkExpired => "AGG-M02-PREVIOUS-OK-EXPIRED"
  | .aggM03EvaluationFault => "AGG-M03-EVALUATION-FAULT"
  | .aggM04WitnessDivergence => "AGG-M04-WITNESS-DIVERGENCE"
  | .l01PendingAgeExceeded => "ACC-L01-PENDING-AGE-EXCEEDED"

inductive ProofResult where
  | pass
  | fail
  | unknown
  | unsupported
  deriving DecidableEq, Repr

structure Measurement where
  expected : Int
  observed : Int
  delta : Int
  unit : String
  deriving DecidableEq, Repr

structure PendingBreakdown where
  homeToRemote : Int
  remoteToHome : Int
  total : Int
  count : Nat
  overAgeCount : Nat
  deriving DecidableEq, Repr

structure EvidenceRefs where
  pinnedBlocks : List String
  witnessGroups : Int
  requiredWitnessGroups : Int
  sourceLockCommitSha : Option String
  adapterId : Option String
  adapterVersion : Option Int
  deriving DecidableEq, Repr

structure RuleOutput where
  ruleId : String
  ruleVersion : String
  result : ProofResult
  verdictCandidate : Verdict
  reasons : List ReasonCode
  measurement : Option Measurement
  pending : Option PendingBreakdown
  evidence : EvidenceRefs
  assumptions : List String
  exclusions : List String
  inputDigest : String
  deriving DecidableEq, Repr

/-- Only a proven economic breach is CRITICAL, and nothing but PASS is OK. -/
def verdictFor (result : ProofResult) (critical : Bool) : Verdict :=
  match result with
  | .pass => .ok
  | .fail => if critical then .critical else .warn
  | .unknown | .unsupported => .unknown

end IcttSentinel.InvariantCore
