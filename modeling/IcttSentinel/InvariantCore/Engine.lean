/-
The canonical ERC20 rule of packages/invariant-core/src/engine.ts: the canonical serialisation of
the input, the two gates in order, and the rule output built from them.
-/
import IcttSentinel.InvariantCore.GateB
import IcttSentinel.Lib.Json

namespace IcttSentinel.InvariantCore

open IcttSentinel.Domain IcttSentinel.Lib

def ruleId : String := "ACC-ERC20-CANONICAL"

structure CanonicalErc20Evaluation where
  output : RuleOutput
  gateA : GateAResult
  gateB : GateBResult
  deriving DecidableEq, Repr

/-! ## Canonical serialisation -/

/-- A decimal string, or `null` where the amount is absent. -/
def decimalOrNull (v : Option Int) : Json := Json.ofOption (v.map toString)

def pinText (p : PinnedBlock) : String := toString p.blockNumber ++ ":" ++ p.blockHash

def provenanceJson (p : ProvenanceInput) : Json :=
  .obj
    [("manifestHash", .ofOption p.manifestHash), ("policyHash", .ofOption p.policyHash),
     ("sourceLockCommitSha", .ofOption p.sourceLockCommitSha), ("adapterId", .ofOption p.adapterId),
     ("adapterVersion", (p.adapterVersion.map Json.num).getD .null), ("ruleVersion", .str p.ruleVersion)]

def remoteJson (r : RemoteObservation) : Json :=
  .obj
    [("remoteBlockchainId", .str r.remoteBlockchainId), ("remoteAddress", .str r.remoteAddress),
     ("transferredBalance", decimalOrNull r.transferredBalance),
     ("remoteTotalSupply", decimalOrNull r.remoteTotalSupply),
     ("tokenMultiplier", .str (toString r.scale.tokenMultiplier)),
     ("multiplyOnRemote", .bool r.scale.multiplyOnRemote),
     ("homeDecimals", .num r.scale.homeDecimals), ("remoteDecimals", .num r.scale.remoteDecimals),
     ("established", .bool r.scale.established),
     ("homePin", .ofOption (r.homePin.map pinText)), ("remotePin", .ofOption (r.remotePin.map pinText)),
     ("fingerprintRecognised", .bool r.fingerprintRecognised),
     ("tokenBehaviourCanonical", .bool r.tokenBehaviourCanonical),
     ("routeSingleHop", .bool r.routeSingleHop),
     ("initialReserveImbalance", .str (toString r.initialReserveImbalance))]

def pendingJson (p : PendingEnvelope) : Json :=
  .obj
    [("messageKey", .str p.messageKey), ("direction", .str p.direction.text),
     ("amount", .str (toString p.amount)), ("ageSeconds", .num p.ageSeconds),
     ("remoteBlockchainId", .str p.remoteBlockchainId), ("remoteAddress", .str p.remoteAddress)]

def effectJson (e : CreditedEffect) : Json :=
  .obj
    [("messageKey", .str e.messageKey), ("amount", .str (toString e.amount)),
     ("remoteBlockchainId", .str e.remoteBlockchainId), ("remoteAddress", .str e.remoteAddress),
     ("hasUniqueAuthorisedSource", .bool e.hasUniqueAuthorisedSource),
     ("routeMatchesSource", .bool e.routeMatchesSource), ("duplicateEffect", .bool e.duplicateEffect),
     ("causalSourceFact", .ofOption e.causalSourceFact)]

/-- The canonical document: every list sorted, every bigint a decimal string. -/
def canonicalInput (input : ProofInput) : Json :=
  .obj
    [("deploymentId", .str input.deploymentId), ("family", .str input.family),
     ("provenance", provenanceJson input.provenance),
     ("census", .str input.census.text),
     ("untrackedRemotes", .arr ((sortStrings input.untrackedRemotes).map .str)),
     ("cut", .str input.cut.text),
     ("freshness", .obj
       [("fresh", .bool input.freshness.fresh),
        ("independentWitnessGroups", .num input.freshness.independentWitnessGroups),
        ("requiredWitnessGroups", .num input.freshness.requiredWitnessGroups)]),
     ("remotes", .arr ((sortOn (fun r => codeUnits (r.remoteBlockchainId ++ r.remoteAddress)) input.remotes).map
       remoteJson)),
     ("pending", .arr ((sortOn (fun p => codeUnits p.messageKey) input.pending).map pendingJson)),
     ("effects", .arr ((sortOn (fun e => codeUnits e.messageKey) input.effects).map effectJson)),
     ("homeEscrow", .obj
       [("escrowBalance", decimalOrNull input.homeEscrow.escrowBalance),
        ("homePin", .ofOption (input.homeEscrow.homePin.map pinText)),
        ("acceptedCollateralHomeUnits", .str (toString input.homeEscrow.acceptedCollateralHomeUnits))]),
     ("pendingAgeLimitSeconds", .num input.pendingAgeLimitSeconds)]

def canonicalInputString (input : ProofInput) : String := (canonicalInput input).stringify

/-! ## The rule output -/

def pinRefs (input : ProofInput) : List String :=
  let pins := (input.remotes.flatMap fun r => [r.homePin, r.remotePin]) ++ [input.homeEscrow.homePin]
  sortStrings ((pins.filterMap id).map fun p =>
    p.blockchainId ++ "@" ++ toString p.blockNumber ++ ":" ++ p.blockHash).eraseDups

def pendingBreakdown (input : ProofInput) (gateA : GateAResult) : PendingBreakdown where
  homeToRemote := (gateA.perRemote.map (·.pendingHomeToRemote)).sum
  remoteToHome := (gateA.perRemote.map (·.pendingRemoteToHome)).sum
  total := gateA.totalPending
  count := input.pending.length
  overAgeCount := (input.pending.filter fun p => p.ageSeconds > input.pendingAgeLimitSeconds).length

def assumptions : List String :=
  ["Both getTransferredBalance and remote totalSupply are in remote base units, verified from the pinned source; no rescaling is applied before the subtraction.",
   "Canonical ERC20 remotes are initialised with a zero reserve imbalance, so no initial-collateral term participates.",
   "Provider quorum is counted over independent provider groups and is not a cryptographic or Byzantine guarantee.",
   "Observed escrow is on-chain coverage at a pinned block; it is not legal recoverability and not absolute solvency."]

def exclusions : List String :=
  ["Native token remotes, custom ERC20 remotes, rebase, fee-on-transfer and blacklist wrappers.",
   "Multi-hop and remote-to-remote routes; they are never flattened into a single hop.",
   "Any claim about independent ICM/BLS verification; the assurance mode here is accepted state."]

def combine (a : GateAResult) (b : GateBResult) : ProofResult :=
  match a.outcome, b.outcome with
  | .unsupported, _ => .unsupported
  | .unknown, _ => .unknown
  | .fail, _ => .fail
  | .pass, .fail => .fail
  | .pass, .unknown => .unknown
  | .pass, .pass => .pass

/-- `measurement` in `evaluateCanonicalErc20`. -/
def measurementOf (gateA : GateAResult) : Option Measurement :=
  if gateA.outcome ≠ .unsupported && gateA.perRemote.length > 0 then
    some
      { expected := gateA.totalPending
        observed := gateA.totalDelta
        delta := gateA.totalDelta - gateA.totalPending
        unit := "remote-base-units" }
  else none

/-- The canonical ERC20 rule; the digest function is the caller's. -/
def evaluateCanonicalErc20 (input : ProofInput) (hash : String → String) : CanonicalErc20Evaluation :=
  let gateA := evaluateGateA input
  let gateB := evaluateGateB input (gateA.outcome = .pass)
  let result := combine gateA gateB
  { output :=
      { ruleId := ruleId
        ruleVersion := input.provenance.ruleVersion
        result
        verdictCandidate := verdictFor result gateA.critical
        reasons := (gateA.reasons ++ if gateA.outcome = .pass then gateB.reasons else []).eraseDups
        measurement := measurementOf gateA
        pending := if gateA.perRemote.length > 0 then some (pendingBreakdown input gateA) else none
        evidence :=
          { pinnedBlocks := pinRefs input
            witnessGroups := input.freshness.independentWitnessGroups
            requiredWitnessGroups := input.freshness.requiredWitnessGroups
            sourceLockCommitSha := input.provenance.sourceLockCommitSha
            adapterId := input.provenance.adapterId
            adapterVersion := input.provenance.adapterVersion }
        assumptions := assumptions
        exclusions := exclusions
        inputDigest := hash (canonicalInputString input) }
    gateA
    gateB }

/-- What the rule concludes, by the outcomes of its gates. -/
theorem evaluate_result {input : ProofInput} {hash : String → String} :
    (evaluateCanonicalErc20 input hash).output.result = .pass ↔
      (evaluateGateA input).outcome = .pass ∧ (evaluateGateB input true).outcome = .pass := by
  simp only [evaluateCanonicalErc20]
  cases ha : (evaluateGateA input).outcome with
  | pass =>
    simp only [combine, ha, decide_true, true_and]
    cases (evaluateGateB input true).outcome <;> decide
  | fail => simp [combine, ha]
  | unknown => simp [combine, ha]
  | unsupported => simp [combine, ha]

/-- The verdict of the rule, by the outcomes of its gates. -/
theorem evaluate_verdict {input : ProofInput} {hash : String → String} :
    (evaluateCanonicalErc20 input hash).output.verdictCandidate =
      match (evaluateGateA input).outcome, (evaluateGateB input true).outcome with
      | .pass, .pass => .ok
      | .pass, .fail => .warn
      | .fail, _ => .critical
      | _, _ => .unknown := by
  have hcrit : (evaluateGateA input).critical = true ↔ (evaluateGateA input).outcome = .fail :=
    evaluateGateA_critical
  simp only [evaluateCanonicalErc20]
  cases ha : (evaluateGateA input).outcome with
  | pass =>
    have hc : (evaluateGateA input).critical = false := by
      rw [← Bool.not_eq_true, hcrit, ha]
      decide
    simp only [combine, ha, decide_true]
    cases (evaluateGateB input true).outcome <;> simp [verdictFor, hc]
  | fail => simp [combine, ha, verdictFor, hcrit.2 ha]
  | unknown => simp [combine, ha, verdictFor]
  | unsupported => simp [combine, ha, verdictFor]

end IcttSentinel.InvariantCore
