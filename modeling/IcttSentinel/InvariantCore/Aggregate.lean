/-
Global verdict aggregation, packages/invariant-core/src/verdict.ts. The status is the worst of what each
contribution stands for and of what the other inputs stand for, which is where its laws come from.
-/
import IcttSentinel.Domain.Lattice
import IcttSentinel.InvariantCore.GateA

namespace IcttSentinel.InvariantCore

open IcttSentinel.Domain IcttSentinel.Lib

/-! ## Inputs and outputs -/

inductive DataStatus where
  | complete
  | stale
  | partialData
  | divergent
  | unknown
  deriving DecidableEq, Repr

def DataStatus.text : DataStatus → String
  | .complete => "COMPLETE"
  | .stale => "STALE"
  | .partialData => "PARTIAL"
  | .divergent => "DIVERGENT"
  | .unknown => "UNKNOWN"

/-- What kind of claim the evidence supports. -/
inductive ClaimMode where
  | exact
  | causalExact
  | sufficientUpperBound
  | indeterminate
  | unsupported
  deriving DecidableEq, Repr

def ClaimMode.text : ClaimMode → String
  | .exact => "EXACT"
  | .causalExact => "CAUSAL_EXACT"
  | .sufficientUpperBound => "SUFFICIENT_UPPER_BOUND"
  | .indeterminate => "INDETERMINATE"
  | .unsupported => "UNSUPPORTED"

inductive CoverageState where
  | complete
  | partialCoverage
  | unverified
  deriving DecidableEq, Repr

def CoverageState.text : CoverageState → String
  | .complete => "COMPLETE"
  | .partialCoverage => "PARTIAL"
  | .unverified => "UNVERIFIED"

/-- One rule's contribution; `critical` stands for a proven breach. -/
structure RuleContribution where
  ruleId : String
  result : ProofResult
  critical : Bool
  required : Bool
  claimMode : ClaimMode
  reasons : List ReasonCode
  deriving DecidableEq, Repr

structure AggregationInput where
  contributions : List RuleContribution
  dataStatus : DataStatus
  coverage : CoverageState
  missingRequiredEvaluations : List String
  previousOkExpired : Bool
  evaluationFaults : List String
  deriving DecidableEq, Repr

/-- The protocol statuses are the verdicts, by the same words. -/
structure GlobalVerdict where
  protocolStatus : Verdict
  dataStatus : DataStatus
  claimMode : ClaimMode
  coverage : CoverageState
  reasonCodes : List ReasonCode
  criticalRuleIds : List String
  unknownRuleIds : List String
  assumptions : List String
  exclusions : List String
  runbook : String
  deriving DecidableEq, Repr

/-! ## Aggregation -/

/-- `CLAIM_RANK`. -/
def ClaimMode.rank : ClaimMode → Nat
  | .exact => 0
  | .causalExact => 1
  | .sufficientUpperBound => 2
  | .indeterminate => 3
  | .unsupported => 4

def weakestClaim : List ClaimMode → ClaimMode
  | [] => .unsupported
  | first :: rest => (first :: rest).foldl (fun worst m => if m.rank > worst.rank then m else worst) first

/-- The result could not be established. -/
def RuleContribution.unestablished (c : RuleContribution) : Bool := c.result = .unknown || c.result = .unsupported

def criticalRuleIds (input : AggregationInput) : List String :=
  (input.contributions.filter (·.critical)).map (·.ruleId)

def unknownRuleIds (input : AggregationInput) : List String :=
  (input.contributions.filter fun c => c.required && c.unestablished).map (·.ruleId)

/-- The set of reasons, in the order they are added. -/
def aggregateReasons (input : AggregationInput) : List ReasonCode :=
  (input.contributions.flatMap (·.reasons) ++
    pushIf (input.missingRequiredEvaluations.length > 0) .aggM01RequiredEvaluationMissing ++
    pushIf input.previousOkExpired .aggM02PreviousOkExpired ++
    pushIf (input.evaluationFaults.length > 0) .aggM03EvaluationFault ++
    pushIf (input.dataStatus = .stale) .i06StaleObservation ++
    pushIf (input.dataStatus = .divergent) .aggM04WitnessDivergence).eraseDups

def hasBlockingUnknown (input : AggregationInput) : Bool :=
  (unknownRuleIds input).length > 0 || input.missingRequiredEvaluations.length > 0 || input.previousOkExpired ||
    input.evaluationFaults.length > 0 || input.dataStatus ≠ .complete || input.coverage ≠ .complete

/-- A liveness or policy deviation. -/
def hasWarn (input : AggregationInput) : Bool := input.contributions.any fun c => c.result = .fail && !c.critical

def aggregateAssumptions : List String :=
  ["Quorum is counted over independent provider groups; it is not a cryptographic or Byzantine guarantee.",
   "Native claims are reported upper bounds, never exact circulating supply.",
   "Observed on-chain state is coverage at a pinned block, not legal recoverability."]

def aggregateExclusions : List String :=
  ["Rate and volume anomalies are heuristic signals and never appear under a collateral headline.",
   "Unsupported families, routes and token behaviours resolve to UNKNOWN rather than being interpreted."]

def aggregate (input : AggregationInput) : GlobalVerdict where
  protocolStatus :=
    if (criticalRuleIds input).length > 0 then .critical
    else if hasBlockingUnknown input then .unknown
    else if hasWarn input then .warn
    else .ok
  dataStatus := input.dataStatus
  claimMode := weakestClaim (input.contributions.map (·.claimMode))
  coverage := input.coverage
  reasonCodes := sortOn (fun r => codeUnits r.text) (aggregateReasons input)
  criticalRuleIds := sortStrings (criticalRuleIds input)
  unknownRuleIds := sortStrings (unknownRuleIds input)
  assumptions := aggregateAssumptions
  exclusions := aggregateExclusions
  runbook := "docs/RUNBOOK.md#verdict-triage"

/-! ## The status as a worst verdict -/

/-- What a contribution stands for. -/
def RuleContribution.severity (c : RuleContribution) : Verdict :=
  if c.critical then .critical
  else if c.required && c.unestablished then .unknown
  else if c.result = .fail then .warn
  else .ok

/-- What the other inputs stand for. -/
def AggregationInput.background (input : AggregationInput) : Verdict :=
  if input.missingRequiredEvaluations ≠ [] ∨ input.previousOkExpired = true ∨ input.evaluationFaults ≠ [] ∨
      input.dataStatus ≠ .complete ∨ input.coverage ≠ .complete then .unknown
  else .ok

def AggregationInput.severities (input : AggregationInput) : List Verdict :=
  input.contributions.map RuleContribution.severity

theorem RuleContribution.critical_le {c : RuleContribution} : .critical ≤ c.severity ↔ c.critical = true := by
  unfold RuleContribution.severity
  split_ifs with hcritical hunknown hfail
  · exact iff_of_true le_rfl hcritical
  all_goals exact iff_of_false (by decide) hcritical

theorem RuleContribution.unknown_le {c : RuleContribution} :
    .unknown ≤ c.severity ↔ c.critical = true ∨ (c.required && c.unestablished) = true := by
  unfold RuleContribution.severity
  split_ifs with hcritical hunknown hfail
  · exact iff_of_true (by decide) (Or.inl hcritical)
  · exact iff_of_true le_rfl (Or.inr hunknown)
  all_goals exact iff_of_false (by decide) (not_or.2 ⟨hcritical, hunknown⟩)

/-- A failed contribution is established, so that nothing ranks it below a warning. -/
theorem RuleContribution.warn_le {c : RuleContribution} :
    .warn ≤ c.severity ↔ c.critical = true ∨ (c.required && c.unestablished) = true ∨ c.result = .fail := by
  unfold RuleContribution.severity
  split_ifs with hcritical hunknown hfail
  · exact iff_of_true (by decide) (Or.inl hcritical)
  · exact iff_of_true (by decide) (Or.inr (Or.inl hunknown))
  · exact iff_of_true le_rfl (Or.inr (Or.inr hfail))
  · exact iff_of_false (by decide) (not_or.2 ⟨hcritical, not_or.2 ⟨hunknown, hfail⟩⟩)

theorem criticalRuleIds_pos {input : AggregationInput} :
    (criticalRuleIds input).length > 0 ↔ ∃ c ∈ input.contributions, c.critical = true := by
  rw [gt_iff_lt, List.length_pos_iff, criticalRuleIds, ne_eq, List.map_eq_nil_iff]
  exact filter_ne_nil

theorem unknownRuleIds_pos {input : AggregationInput} :
    (unknownRuleIds input).length > 0 ↔ ∃ c ∈ input.contributions, (c.required && c.unestablished) = true := by
  rw [gt_iff_lt, List.length_pos_iff, unknownRuleIds, ne_eq, List.map_eq_nil_iff]
  exact filter_ne_nil

theorem hasBlockingUnknown_iff {input : AggregationInput} : hasBlockingUnknown input = true ↔
    (∃ c ∈ input.contributions, (c.required && c.unestablished) = true) ∨ .unknown ≤ input.background := by
  have hbackground : .unknown ≤ input.background ↔ input.missingRequiredEvaluations ≠ [] ∨ input.previousOkExpired = true ∨
      input.evaluationFaults ≠ [] ∨ input.dataStatus ≠ .complete ∨ input.coverage ≠ .complete := by
    unfold AggregationInput.background
    split_ifs with h
    · exact iff_of_true le_rfl h
    · exact iff_of_false (by decide) h
  rw [hbackground, ← unknownRuleIds_pos]
  simp only [hasBlockingUnknown, Bool.or_eq_true, decide_eq_true_eq, gt_iff_lt, List.length_pos_iff, or_assoc]

theorem background_eq (input : AggregationInput) : input.background = .ok ∨ input.background = .unknown := by
  unfold AggregationInput.background
  split_ifs
  · exact Or.inr rfl
  · exact Or.inl rfl

theorem le_severities_iff {input : AggregationInput} {w : Verdict} (hw : w ≠ .ok) :
    w ≤ worst input.severities ↔ ∃ c ∈ input.contributions, w ≤ c.severity := by
  rw [le_worst_iff hw, AggregationInput.severities]
  constructor
  · rintro ⟨v, hv, hle⟩
    obtain ⟨c, hc, rfl⟩ := List.mem_map.1 hv
    exact ⟨c, hc, hle⟩
  · rintro ⟨c, hc, hle⟩
    exact ⟨c.severity, List.mem_map_of_mem hc, hle⟩

/-- The status is the worst of what the contributions and the other inputs stand for. -/
theorem aggregate_status (input : AggregationInput) :
    (aggregate input).protocolStatus = max input.background (worst input.severities) := by
  have hcritical : .critical ≤ worst input.severities ↔ (criticalRuleIds input).length > 0 := by
    rw [le_severities_iff (by decide), criticalRuleIds_pos]
    exact exists_congr fun c => and_congr_right fun _ => RuleContribution.critical_le
  have hunknown : .unknown ≤ max input.background (worst input.severities) ↔
      (criticalRuleIds input).length > 0 ∨ hasBlockingUnknown input = true := by
    rw [le_max_iff, le_severities_iff (by decide), criticalRuleIds_pos, hasBlockingUnknown_iff]
    simp only [RuleContribution.unknown_le]
    grind
  have hwarn : .warn ≤ max input.background (worst input.severities) ↔
      (criticalRuleIds input).length > 0 ∨ hasBlockingUnknown input = true ∨ hasWarn input = true := by
    have hbackground : .warn ≤ input.background ↔ .unknown ≤ input.background := by
      rcases background_eq input with h | h <;> rw [h] <;> decide
    rw [le_max_iff, hbackground, le_severities_iff (by decide), criticalRuleIds_pos, hasBlockingUnknown_iff, hasWarn,
      List.any_eq_true]
    simp only [RuleContribution.warn_le, Bool.and_eq_true, decide_eq_true_eq, Bool.not_eq_true']
    grind
  have hnotCritical : ¬ .critical ≤ input.background := by
    rcases background_eq input with h | h <;> rw [h] <;> decide
  -- a verdict is determined by what lies below it
  refine eq_of_forall_le_iff fun w => ?_
  show w ≤ (if (criticalRuleIds input).length > 0 then .critical else if hasBlockingUnknown input then .unknown
    else if hasWarn input then .warn else .ok) ↔ _
  cases w with
  | ok => exact iff_of_true (Verdict.ok_le _) (Verdict.ok_le _)
  | warn =>
    rw [hwarn]
    split_ifs with h₁ h₂ h₃
    · exact iff_of_true (by decide) (Or.inl h₁)
    · exact iff_of_true (by decide) (Or.inr (Or.inl h₂))
    · exact iff_of_true le_rfl (Or.inr (Or.inr h₃))
    · exact iff_of_false (by decide) (not_or.2 ⟨h₁, not_or.2 ⟨h₂, h₃⟩⟩)
  | unknown =>
    rw [hunknown]
    split_ifs with h₁ h₂ h₃
    · exact iff_of_true (by decide) (Or.inl h₁)
    · exact iff_of_true le_rfl (Or.inr h₂)
    all_goals exact iff_of_false (by decide) (not_or.2 ⟨h₁, h₂⟩)
  | critical =>
    rw [le_max_iff, hcritical]
    split_ifs with h₁ h₂ h₃
    · exact iff_of_true le_rfl (Or.inr h₁)
    all_goals exact iff_of_false (by decide) (not_or.2 ⟨hnotCritical, h₁⟩)

end IcttSentinel.InvariantCore
