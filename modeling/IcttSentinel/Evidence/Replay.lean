/-
Offline replay, packages/evidence/src/{replay,native-replay}.ts: an input is evaluated again, the evaluation is wrapped
into one contribution, and the aggregate of that is the verdict of the record. The hash is a parameter.
-/
import IcttSentinel.Evidence.RoundTrip
import IcttSentinel.InvariantCore.Aggregate
import IcttSentinel.InvariantCore.Characterisation

namespace IcttSentinel.Evidence

open IcttSentinel.Domain IcttSentinel.Lib IcttSentinel.InvariantCore

/-! ## Records -/

structure VerdictRecord where
  protocolStatus : Verdict
  dataStatus : DataStatus
  claimMode : ClaimMode
  coverage : CoverageState
  reasonCodes : List ReasonCode
  criticalRuleIds : List String
  unknownRuleIds : List String

structure RuleRecord where
  ruleId : String
  ruleVersion : String
  result : ProofResult
  reasonCodes : List ReasonCode
  inputs : List (String × String)
  intermediates : List (String × String)
  unit : String
  floor : Option String
  ceil : Option String
  dust : Option String

structure Replayed where
  evaluation : JsValue
  aggregation : AggregationInput
  verdict : VerdictRecord
  rule : RuleRecord

def verdictRecord (v : GlobalVerdict) : VerdictRecord where
  protocolStatus := v.protocolStatus
  dataStatus := v.dataStatus
  claimMode := v.claimMode
  coverage := v.coverage
  reasonCodes := v.reasonCodes
  criticalRuleIds := v.criticalRuleIds
  unknownRuleIds := v.unknownRuleIds

/-! ## Evaluations as values -/

def gateAOutcomeText : GateAOutcome → String
  | .pass => "pass"
  | .fail => "fail"
  | .unknown => "unknown"
  | .unsupported => "unsupported"

def gateBOutcomeText : GateBOutcome → String
  | .pass => "pass"
  | .fail => "fail"
  | .unknown => "unknown"

def proofResultText : ProofResult → String
  | .pass => "PASS"
  | .fail => "FAIL"
  | .unknown => "UNKNOWN"
  | .unsupported => "UNSUPPORTED"

def reasonsValue (reasons : List ReasonCode) : JsValue := .array (fun r : ReasonCode => .str r.text) reasons

def reconciliationValue (r : RemoteReconciliation) : JsValue :=
  .obj [("remoteBlockchainId", .str r.remoteBlockchainId), ("remoteAddress", .str r.remoteAddress),
    ("transferredBalance", .bigint r.transferredBalance), ("remoteTotalSupply", .bigint r.remoteTotalSupply),
    ("delta", .bigint r.delta), ("pendingHomeToRemote", .bigint r.pendingHomeToRemote),
    ("pendingRemoteToHome", .bigint r.pendingRemoteToHome), ("pendingTotal", .bigint r.pendingTotal),
    ("reconciled", .bool r.reconciled)]

def gateAValue (g : GateAResult) : JsValue :=
  .obj [("outcome", .str (gateAOutcomeText g.outcome)), ("reasons", reasonsValue g.reasons),
    ("critical", .bool g.critical), ("perRemote", .array reconciliationValue g.perRemote),
    ("totalDelta", .bigint g.totalDelta), ("totalPending", .bigint g.totalPending)]

def liabilityValue (r : RemoteLiability) : JsValue :=
  .obj [("remoteBlockchainId", .str r.remoteBlockchainId), ("remoteAddress", .str r.remoteAddress),
    ("remoteUnits", .bigint r.remoteUnits), ("floorHomeUnits", .bigint r.floorHomeUnits),
    ("ceilHomeUnits", .bigint r.ceilHomeUnits), ("dust", .bigint r.dust)]

def gateBValue (g : GateBResult) : JsValue :=
  .obj [("outcome", .str (gateBOutcomeText g.outcome)), ("reasons", reasonsValue g.reasons),
    ("escrowBalance", .bigint g.escrowBalance), ("floorLiability", .bigint g.floorLiability),
    ("conservativeLiability", .bigint g.conservativeLiability), ("totalDust", .bigint g.totalDust),
    ("surplus", .bigint g.surplus), ("perRemote", .array liabilityValue g.perRemote)]

def measurementValue (m : Measurement) : JsValue :=
  .obj [("expected", .bigint m.expected), ("observed", .bigint m.observed), ("delta", .bigint m.delta),
    ("unit", .str m.unit)]

def pendingBreakdownValue (p : PendingBreakdown) : JsValue :=
  .obj [("homeToRemote", .bigint p.homeToRemote), ("remoteToHome", .bigint p.remoteToHome), ("total", .bigint p.total),
    ("count", .integer p.count), ("overAgeCount", .integer p.overAgeCount)]

def evidenceRefsValue (e : EvidenceRefs) : JsValue :=
  .obj [("pinnedBlocks", .array .str e.pinnedBlocks), ("witnessGroups", .integer e.witnessGroups),
    ("requiredWitnessGroups", .integer e.requiredWitnessGroups),
    ("sourceLockCommitSha", .nullable .str e.sourceLockCommitSha), ("adapterId", .nullable .str e.adapterId),
    ("adapterVersion", .nullable .integer e.adapterVersion)]

def ruleOutputValue (o : RuleOutput) : JsValue :=
  .obj [("ruleId", .str o.ruleId), ("ruleVersion", .str o.ruleVersion), ("result", .str (proofResultText o.result)),
    ("verdictCandidate", .str o.verdictCandidate.text), ("reasons", reasonsValue o.reasons),
    ("measurement", .nullable measurementValue o.measurement), ("pending", .nullable pendingBreakdownValue o.pending),
    ("evidence", evidenceRefsValue o.evidence), ("assumptions", .array .str o.assumptions),
    ("exclusions", .array .str o.exclusions), ("inputDigest", .str o.inputDigest)]

def evaluationValue (e : CanonicalErc20Evaluation) : JsValue :=
  .obj [("output", ruleOutputValue e.output), ("gateA", gateAValue e.gateA), ("gateB", gateBValue e.gateB)]

def nativeResultValue (r : NativeResult) : JsValue :=
  .obj [("assessment", .str r.assessment.text), ("reportedUpperBound", .nullable .bigint r.reportedUpperBound),
    ("eligibleCoverage", .nullable .bigint r.eligibleCoverage), ("headroom", .nullable .bigint r.headroom),
    ("critical", .bool r.critical), ("minterExclusivityEstablished", .bool r.minterExclusivityEstablished),
    ("reasons", reasonsValue r.reasons),
    ("intermediates", .obj [("created", .nullable .bigint r.intermediates.created),
      ("burned", .nullable .bigint r.intermediates.burned)])]

/-! ## What is aggregated -/

/-- `divergent`. -/
def divergent (input : ProofInput) : Bool :=
  input.freshness.independentWitnessGroups < input.freshness.requiredWitnessGroups

/-- `dataStatus` of both replays. -/
def replayDataStatus (input : ProofInput) : DataStatus :=
  if divergent input then .divergent
  else if !input.freshness.fresh then .stale
  else if input.census ≠ .completeFromDeploymentBlock then .partialData
  else .complete

/-- `aggregation` in `replayProof`. -/
def proofAggregation (input : ProofInput) (evaluation : CanonicalErc20Evaluation) : AggregationInput where
  contributions :=
    [{ ruleId := evaluation.output.ruleId
       result := evaluation.output.result
       critical := evaluation.gateA.critical
       required := true
       claimMode :=
        if evaluation.output.result = .unknown then .indeterminate
        else if evaluation.output.result = .unsupported then .unsupported
        else .causalExact
       reasons := evaluation.output.reasons }]
  dataStatus := replayDataStatus input
  coverage :=
    if divergent input then .unverified
    else if input.untrackedRemotes.length > 0 then .partialCoverage
    else .complete
  missingRequiredEvaluations := if input.remotes.length = 0 then ["ACC-ERC20-CANONICAL"] else []
  previousOkExpired := !input.freshness.fresh
  evaluationFaults := []

/-- `invalidBound` in `replayNative`. -/
def invalidBound (c : NativeSupplyComponents) : Bool := allPresent c && c.burned > c.created

/-- `uncertain` in `replayNative`. -/
def uncertain (native : NativeInput) : Bool :=
  (assessNative native).assessment ≠ .sufficient || invalidBound native.components || native.census.epochsExpected = 0

def nativeRuleId : String := "ACC-NATIVE-UPPER-BOUND"

/-- `aggregation` in `replayNative`. -/
def nativeAggregation (context : ProofInput) (native : NativeInput) : AggregationInput where
  contributions :=
    [{ ruleId := nativeRuleId
       result := if (assessNative native).critical then .fail else if uncertain native then .unknown else .pass
       critical := (assessNative native).critical
       required := true
       claimMode :=
        if (assessNative native).assessment = .sufficient && !uncertain native then .sufficientUpperBound
        else .indeterminate
       reasons := (assessNative native).reasons }]
  dataStatus := replayDataStatus context
  coverage :=
    if context.untrackedRemotes.length > 0 then .partialCoverage
    else if divergent context then .unverified
    else .complete
  missingRequiredEvaluations := []
  previousOkExpired := !context.freshness.fresh
  evaluationFaults :=
    if invalidBound native.components || native.census.epochsExpected = 0 then
      ["invalid-native-bound-or-activation-epoch"]
    else []

/-! ## Replays -/

section Replay

variable (nfc : Nfc) (sha256 : String → String)

def domainSeparatedSha256 (domain payload : String) : String := sha256 (domain ++ "\u0000" ++ payload)

/-- Run arithmetic first. -/
def replayProof (input : ProofInput) : Except String Replayed := do
  let evaluation := evaluateCanonicalErc20 input (domainSeparatedSha256 sha256 "ictt-sentinel/proof-input/v1")
  let aggregation := proofAggregation input evaluation
  let proof ← stringified nfc (proofInputValue input)
  let gateA ← stringified nfc (gateAValue evaluation.gateA)
  let gateB ← stringified nfc (gateBValue evaluation.gateB)
  let document ← reparsed nfc (evaluationValue evaluation)
  return {
    evaluation := document
    aggregation
    verdict := verdictRecord (aggregate aggregation)
    rule :=
      { ruleId := evaluation.output.ruleId
        ruleVersion := evaluation.output.ruleVersion
        result := evaluation.output.result
        reasonCodes := evaluation.output.reasons
        inputs := [("proof", proof)]
        intermediates := [("gateA", gateA), ("gateB", gateB)]
        unit := "remote-base-units; coverage and rounding in home-base-units"
        floor := some (toString evaluation.gateB.floorLiability)
        ceil := some (toString evaluation.gateB.conservativeLiability)
        dust := some (toString evaluation.gateB.totalDust) } }

def replayNative (context : ProofInput) (native : NativeInput) : Except String Replayed := do
  let evaluation := assessNative native
  let aggregation := nativeAggregation context native
  let encoded ← encodeNativeReplay nfc context native
  let proof ← stringified nfc encoded
  let result ← stringified nfc (nativeResultValue evaluation)
  let document ← reparsed nfc (nativeResultValue evaluation)
  return {
    evaluation := document
    aggregation
    verdict := verdictRecord (aggregate aggregation)
    rule :=
      { ruleId := nativeRuleId
        ruleVersion := "native-upper-bound@1"
        result := ((aggregation.contributions.head?).map (·.result)).getD .unknown
        reasonCodes := evaluation.reasons
        inputs := [("proof", proof)]
        intermediates := [("native", result)]
        unit := "native-base-units; reported upper bound only"
        floor := none
        ceil := none
        dust := none } }

def replayEvaluation (value : JsValue) : Except String Replayed := do
  match ← decodeReplayInput nfc value with
  | (context, none) => replayProof nfc sha256 context
  | (context, some native) => replayNative nfc context native

end Replay

/-! ## The status of one contribution -/

theorem background_le (input : AggregationInput) : input.background ≤ .unknown := by
  rcases background_eq input with h | h
  · rw [h]
    decide
  · exact h.le

/-- The status with one contribution: its verdict, unless something else blocks it. -/
theorem status_of_single {input : AggregationInput} {c : RuleContribution} (h : input.contributions = [c]) :
    (aggregate input).protocolStatus = max input.background c.severity := by
  have hworst : worst input.severities = c.severity := by
    rw [AggregationInput.severities, h, List.map_singleton, worst_cons, worst_nil]
    exact max_eq_left (Verdict.ok_le _)
  rw [aggregate_status, hworst]

/-- A required contribution stands for the verdict of its result. -/
theorem severity_eq_verdictFor {c : RuleContribution} (hrequired : c.required = true)
    (hcritical : c.critical = true → c.result = .fail) : c.severity = verdictFor c.result c.critical := by
  unfold RuleContribution.severity RuleContribution.unestablished verdictFor
  cases hc : c.critical with
  | true => simp [hcritical hc]
  | false => cases c.result <;> simp [hrequired]

/-! ## Offline and live ERC20 verdicts -/

section Proof

variable {input : ProofInput} {hash : String → String}

/-- A complete input contract leaves nothing that blocks. -/
theorem proofAggregation_background (h : ContractComplete input) (evaluation : CanonicalErc20Evaluation) :
    (proofAggregation input evaluation).background = .ok := by
  have hdivergent : divergent input = false := by
    unfold divergent
    rw [decide_eq_false_iff_not, not_lt]
    exact h.witnesses
  have hdata : replayDataStatus input = .complete := by
    simp [replayDataStatus, hdivergent, h.fresh, h.census]
  have hremotes : input.remotes.length ≠ 0 := mt List.length_eq_zero_iff.1 h.remotes
  unfold AggregationInput.background proofAggregation
  simp [hdivergent, hdata, h.fresh, h.tracked, hremotes]

theorem evaluate_critical_fail (h : (evaluateCanonicalErc20 input hash).gateA.critical = true) :
    (evaluateCanonicalErc20 input hash).output.result = .fail := by
  have hfail : (evaluateGateA input).outcome = .fail := evaluateGateA_critical.1 h
  show combine (evaluateGateA input) (evaluateGateB input ((evaluateGateA input).outcome = .pass)) = .fail
  simp [combine, hfail]

/-- Where the verdict is below UNKNOWN, Gate A passed. -/
theorem contractComplete_of_verdict (h : (evaluateCanonicalErc20 input hash).output.verdictCandidate < .unknown) :
    ContractComplete input := by
  have hpass : (evaluateGateA input).outcome = .pass := by
    rw [evaluate_verdict] at h
    cases ha : (evaluateGateA input).outcome with
    | pass => rfl
    | fail =>
      rw [ha] at h
      exact absurd (show Verdict.critical < .unknown from h) (by decide)
    | unknown =>
      rw [ha] at h
      exact absurd (show Verdict.unknown < .unknown from h) (by decide)
    | unsupported =>
      rw [ha] at h
      exact absurd (show Verdict.unknown < .unknown from h) (by decide)
  exact (evaluateGateA_pass.1 hpass).1.2.1

theorem proofAggregation_status (input : ProofInput) (hash : String → String) :
    (aggregate (proofAggregation input (evaluateCanonicalErc20 input hash))).protocolStatus =
      (evaluateCanonicalErc20 input hash).output.verdictCandidate := by
  have hverdict : verdictFor (evaluateCanonicalErc20 input hash).output.result
      (evaluateCanonicalErc20 input hash).gateA.critical =
        (evaluateCanonicalErc20 input hash).output.verdictCandidate := rfl
  rw [status_of_single rfl, severity_eq_verdictFor rfl evaluate_critical_fail, hverdict]
  rcases lt_or_ge (evaluateCanonicalErc20 input hash).output.verdictCandidate .unknown with hlt | hge
  · rw [proofAggregation_background (contractComplete_of_verdict hlt)]
    exact max_eq_right (Verdict.ok_le _)
  · exact max_eq_right ((background_le _).trans hge)

end Proof

/-! ## Evaluations have canonical forms -/

section Forms

variable {nfc : Nfc}

theorem hasForm_str (s : String) : HasForm nfc (.str s) := ⟨_, rfl⟩

theorem hasForm_bigint (n : Int) : HasForm nfc (.bigint n) := ⟨_, rfl⟩

theorem hasForm_bool (b : Bool) : HasForm nfc (.bool b) := ⟨_, rfl⟩

theorem hasForm_length {n : Nat} (h : n < 2 ^ 53) : HasForm nfc (.integer n) := by
  have hcount : IsCount (n : Int) := by
    refine ⟨Int.natCast_nonneg n, ?_⟩
    unfold maxSafeInteger
    omega
  exact ⟨_, canon_count hcount⟩

theorem hasForm_nullable {α : Type} {encode : α → JsValue} (h : ∀ a, HasForm nfc (encode a)) (o : Option α) :
    HasForm nfc (.nullable encode o) := by
  cases o with
  | none => exact ⟨.null, rfl⟩
  | some a => exact h a

theorem hasForm_array {α : Type} {encode : α → JsValue} {l : List α} (h : ∀ a ∈ l, HasForm nfc (encode a)) :
    HasForm nfc (.array encode l) := by
  have hforms : ∃ cs, canonElements nfc (l.map fun a => some (encode a)) = some cs := by
    rw [canonElements_eq]
    refine exists_mapM_id fun o ho => ?_
    rw [List.map_map] at ho
    obtain ⟨a, ha, rfl⟩ := List.mem_map.1 ho
    obtain ⟨c, hc⟩ := h a ha
    refine ⟨some c, ?_⟩
    show (canon nfc (encode a)).map some = _
    rw [hc]
    rfl
  obtain ⟨cs, hcs⟩ := hforms
  exact ⟨.arr cs, canon_arr_eq_some.2 ⟨cs, hcs, rfl⟩⟩

theorem hasForm_strings (l : List String) : HasForm nfc (.array .str l) := hasForm_array fun _ _ => hasForm_str _

theorem hasForm_record {entries : List (String × JsValue)} (keys : List String) (hkeys : entries.map (·.1) = keys)
    (hplain : PlainKeys keys) (hforms : entries.Forall fun e => HasForm nfc e.2) : HasForm nfc (.obj entries) := by
  obtain ⟨fields, hfields⟩ := exists_recordForm keys hkeys hplain hforms
  exact ⟨_, hfields.canon_eq⟩

/-- A field of a record that has a form has one. -/
theorem HasForm.field {entries : List (String × JsValue)} (h : HasForm nfc (.obj entries)) {k : String} {v : JsValue}
    (hmem : (k, v) ∈ entries) (hdefined : v.isUndefined = false) : HasForm nfc v := by
  obtain ⟨c, hc⟩ := h
  obtain ⟨cs, hcs, -, -⟩ := canon_obj_eq_some.1 hc
  obtain ⟨d, hd, -⟩ := form_of_entry hcs hmem hdefined
  exact ⟨d, hd⟩

theorem HasForm.stringified {v : JsValue} (h : HasForm nfc v) : ∃ text, stringified nfc v = .ok text := by
  obtain ⟨c, hc⟩ := h
  exact ⟨c.text, stringified_eq_ok.2 (canonicalStringify_ok_iff.2 ⟨c, hc, rfl⟩)⟩

theorem hasForm_reasons (reasons : List ReasonCode) : HasForm nfc (reasonsValue reasons) :=
  hasForm_array fun _ _ => hasForm_str _

theorem hasForm_gateA (g : GateAResult) : HasForm nfc (gateAValue g) := by
  have hremote : ∀ r, HasForm nfc (reconciliationValue r) := fun r =>
    hasForm_record ["remoteBlockchainId", "remoteAddress", "transferredBalance", "remoteTotalSupply", "delta",
        "pendingHomeToRemote", "pendingRemoteToHome", "pendingTotal", "reconciled"] rfl (by decide)
      ⟨hasForm_str _, hasForm_str _, hasForm_bigint _, hasForm_bigint _, hasForm_bigint _, hasForm_bigint _,
        hasForm_bigint _, hasForm_bigint _, hasForm_bool _⟩
  exact hasForm_record ["outcome", "reasons", "critical", "perRemote", "totalDelta", "totalPending"] rfl (by decide)
    ⟨hasForm_str _, hasForm_reasons _, hasForm_bool _, hasForm_array fun r _ => hremote r, hasForm_bigint _,
      hasForm_bigint _⟩

theorem hasForm_gateB (g : GateBResult) : HasForm nfc (gateBValue g) := by
  have hremote : ∀ r, HasForm nfc (liabilityValue r) := fun r =>
    hasForm_record ["remoteBlockchainId", "remoteAddress", "remoteUnits", "floorHomeUnits", "ceilHomeUnits", "dust"] rfl
      (by decide) ⟨hasForm_str _, hasForm_str _, hasForm_bigint _, hasForm_bigint _, hasForm_bigint _, hasForm_bigint _⟩
  exact hasForm_record ["outcome", "reasons", "escrowBalance", "floorLiability", "conservativeLiability", "totalDust",
      "surplus", "perRemote"] rfl (by decide)
    ⟨hasForm_str _, hasForm_reasons _, hasForm_bigint _, hasForm_bigint _, hasForm_bigint _, hasForm_bigint _,
      hasForm_bigint _, hasForm_array fun r _ => hremote r⟩

theorem hasForm_nativeResult (r : NativeResult) : HasForm nfc (nativeResultValue r) := by
  have hamount : ∀ o : Option Int, HasForm nfc (.nullable .bigint o) := hasForm_nullable fun _ => hasForm_bigint _
  have hintermediates : HasForm nfc (.obj [("created", .nullable .bigint r.intermediates.created),
      ("burned", .nullable .bigint r.intermediates.burned)]) :=
    hasForm_record ["created", "burned"] rfl (by decide) ⟨hamount _, hamount _⟩
  exact hasForm_record ["assessment", "reportedUpperBound", "eligibleCoverage", "headroom", "critical",
      "minterExclusivityEstablished", "reasons", "intermediates"] rfl (by decide)
    ⟨hasForm_str _, hamount _, hamount _, hamount _, hasForm_bool _, hasForm_bool _, hasForm_reasons _, hintermediates⟩

/-- An evaluation has a form where its input has one and its pending envelopes can be counted. -/
theorem hasForm_evaluation {input : ProofInput} (h : HasForm nfc (proofInputValue input))
    (hpending : input.pending.length < 2 ^ 53) (hash : String → String) :
    HasForm nfc (evaluationValue (evaluateCanonicalErc20 input hash)) := by
  have hfreshness : HasForm nfc (freshnessValue input.freshness) := h.field (k := "freshness") (by simp) rfl
  have hprovenance : HasForm nfc (provenanceValue input.provenance) := h.field (k := "provenance") (by simp) rfl
  have hindependent : HasForm nfc (.integer input.freshness.independentWitnessGroups) :=
    hfreshness.field (k := "independentWitnessGroups") (by simp) rfl
  have hrequired : HasForm nfc (.integer input.freshness.requiredWitnessGroups) :=
    hfreshness.field (k := "requiredWitnessGroups") (by simp) rfl
  have hversion : HasForm nfc (.nullable .integer input.provenance.adapterVersion) := by
    refine hprovenance.field (k := "adapterVersion") (by simp) ?_
    cases input.provenance.adapterVersion <;> rfl
  have hevidence : HasForm nfc (evidenceRefsValue (evaluateCanonicalErc20 input hash).output.evidence) :=
    hasForm_record ["pinnedBlocks", "witnessGroups", "requiredWitnessGroups", "sourceLockCommitSha", "adapterId",
        "adapterVersion"] rfl (by decide)
      ⟨hasForm_strings _, hindependent, hrequired, hasForm_nullable hasForm_str _,
        hasForm_nullable hasForm_str _, hversion⟩
  have hmeasurement : ∀ m, HasForm nfc (measurementValue m) := fun m =>
    hasForm_record ["expected", "observed", "delta", "unit"] rfl (by decide)
      ⟨hasForm_bigint _, hasForm_bigint _, hasForm_bigint _, hasForm_str _⟩
  have hbreakdown : HasForm nfc (.nullable pendingBreakdownValue (evaluateCanonicalErc20 input hash).output.pending) := by
    show HasForm nfc (.nullable pendingBreakdownValue
      (if (evaluateGateA input).perRemote.length > 0 then some (pendingBreakdown input (evaluateGateA input)) else none))
    split
    · have hover : (pendingBreakdown input (evaluateGateA input)).overAgeCount < 2 ^ 53 :=
        lt_of_le_of_lt (List.length_filter_le _ _) hpending
      exact hasForm_record ["homeToRemote", "remoteToHome", "total", "count", "overAgeCount"] rfl (by decide)
        ⟨hasForm_bigint _, hasForm_bigint _, hasForm_bigint _, hasForm_length hpending, hasForm_length hover⟩
    · exact ⟨.null, rfl⟩
  have houtput : HasForm nfc (ruleOutputValue (evaluateCanonicalErc20 input hash).output) :=
    hasForm_record ["ruleId", "ruleVersion", "result", "verdictCandidate", "reasons", "measurement", "pending", "evidence",
        "assumptions", "exclusions", "inputDigest"] rfl (by decide)
      ⟨hasForm_str _, hasForm_str _, hasForm_str _, hasForm_str _, hasForm_reasons _, hasForm_nullable hmeasurement _,
        hbreakdown, hevidence, hasForm_strings _, hasForm_strings _, hasForm_str _⟩
  exact hasForm_record ["output", "gateA", "gateB"] rfl (by decide) ⟨houtput, hasForm_gateA _, hasForm_gateB _⟩

end Forms

/-! ## Evaluations have no holes -/

theorem dense_reasonsValue (reasons : List ReasonCode) : Dense (reasonsValue reasons) :=
  dense_array (fun _ => dense_str _) reasons

theorem dense_gateAValue (g : GateAResult) : Dense (gateAValue g) := by
  have hremote : ∀ r, Dense (reconciliationValue r) := fun r =>
    dense_obj ⟨dense_str _, dense_str _, dense_bigint _, dense_bigint _, dense_bigint _, dense_bigint _, dense_bigint _,
      dense_bigint _, dense_bool _⟩
  exact dense_obj ⟨dense_str _, dense_reasonsValue _, dense_bool _, dense_array hremote _, dense_bigint _,
    dense_bigint _⟩

theorem dense_gateBValue (g : GateBResult) : Dense (gateBValue g) := by
  have hremote : ∀ r, Dense (liabilityValue r) := fun r =>
    dense_obj ⟨dense_str _, dense_str _, dense_bigint _, dense_bigint _, dense_bigint _, dense_bigint _⟩
  exact dense_obj ⟨dense_str _, dense_reasonsValue _, dense_bigint _, dense_bigint _, dense_bigint _, dense_bigint _,
    dense_bigint _, dense_array hremote _⟩

theorem dense_evaluationValue (e : CanonicalErc20Evaluation) : Dense (evaluationValue e) := by
  have hmeasurement : ∀ m, Dense (measurementValue m) := fun m =>
    dense_obj ⟨dense_bigint _, dense_bigint _, dense_bigint _, dense_str _⟩
  have hbreakdown : ∀ p, Dense (pendingBreakdownValue p) := fun p =>
    dense_obj ⟨dense_bigint _, dense_bigint _, dense_bigint _, dense_integer _, dense_integer _⟩
  have hevidence : Dense (evidenceRefsValue e.output.evidence) :=
    dense_obj ⟨dense_array dense_str _, dense_integer _, dense_integer _, dense_nullable dense_str _,
      dense_nullable dense_str _, dense_nullable dense_integer _⟩
  have houtput : Dense (ruleOutputValue e.output) :=
    dense_obj ⟨dense_str _, dense_str _, dense_str _, dense_str _, dense_reasonsValue _,
      dense_nullable hmeasurement _, dense_nullable hbreakdown _, hevidence, dense_array dense_str _,
      dense_array dense_str _, dense_str _⟩
  exact dense_obj ⟨houtput, dense_gateAValue _, dense_gateBValue _⟩

theorem dense_nativeResultValue (r : NativeResult) : Dense (nativeResultValue r) :=
  dense_obj ⟨dense_str _, dense_nullable dense_bigint _, dense_nullable dense_bigint _, dense_nullable dense_bigint _,
    dense_bool _, dense_bool _, dense_reasonsValue _,
    dense_obj ⟨dense_nullable dense_bigint _, dense_nullable dense_bigint _⟩⟩

/-! ## Replayed verdicts -/

section Replayed

variable (nfc : Nfc) (sha256 : String → String)

theorem replayProof_verdict {input : ProofInput} {r : Replayed} (h : replayProof nfc sha256 input = .ok r)
    (hash : String → String) :
    r.verdict.protocolStatus = (evaluateCanonicalErc20 input hash).output.verdictCandidate := by
  obtain ⟨proof, -, h⟩ := bind_eq_ok.1 h
  obtain ⟨gateA, -, h⟩ := bind_eq_ok.1 h
  obtain ⟨gateB, -, h⟩ := bind_eq_ok.1 h
  obtain ⟨document, -, h⟩ := bind_eq_ok.1 h
  cases h
  exact proofAggregation_status input _

theorem exists_bind_ok {α β : Type} {x : Except String α} {f : α → Except String β} (hx : ∃ a, x = .ok a)
    (hf : ∀ a, ∃ b, f a = .ok b) : ∃ b, (x >>= f) = .ok b := by
  obtain ⟨a, rfl⟩ := hx
  exact hf a

theorem replayProof_returns {input : ProofInput} (h : HasForm nfc (proofInputValue input))
    (hpending : input.pending.length < 2 ^ 53) : ∃ r, replayProof nfc sha256 input = .ok r := by
  have hevaluation := hasForm_evaluation h hpending (domainSeparatedSha256 sha256 "ictt-sentinel/proof-input/v1")
  obtain ⟨document, hdocument⟩ := hevaluation
  refine exists_bind_ok h.stringified fun proof => ?_
  refine exists_bind_ok (hasForm_gateA _).stringified fun gateA => ?_
  refine exists_bind_ok (hasForm_gateB _).stringified fun gateB => ?_
  exact exists_bind_ok ⟨document, reparsed_eq (dense_evaluationValue _) hdocument⟩ fun document => ⟨_, rfl⟩

/-- Whatever replay of an input returns has the verdict the live rule gives for the input, and it returns for every
input of safe counts. -/
theorem replayProof_status (input : ProofInput) :
    (∀ r, replayProof nfc sha256 input = .ok r → ∀ hash : String → String,
      r.verdict.protocolStatus = (evaluateCanonicalErc20 input hash).output.verdictCandidate) ∧
      (HasForm nfc (proofInputValue input) → input.pending.length < 2 ^ 53 →
        ∃ r, replayProof nfc sha256 input = .ok r) :=
  ⟨fun _ h hash => replayProof_verdict nfc sha256 h hash, fun h hpending => replayProof_returns nfc sha256 h hpending⟩

/-! ## The native verdict -/

theorem background_ok_iff {input : AggregationInput} : input.background = .ok ↔
    input.missingRequiredEvaluations = [] ∧ input.previousOkExpired = false ∧ input.evaluationFaults = [] ∧
      input.dataStatus = .complete ∧ input.coverage = .complete := by
  unfold AggregationInput.background
  split_ifs with h
  · refine iff_of_false (by decide) fun ⟨hmissing, hexpired, hfaults, hdata, hcoverage⟩ => ?_
    simp [hmissing, hexpired, hfaults, hdata, hcoverage] at h
  · refine iff_of_true rfl ?_
    simpa only [not_or, not_not, Bool.not_eq_true] using h

/-- The context of a native replay says that nothing is missing. -/
structure ContextComplete (context : ProofInput) : Prop where
  fresh : context.freshness.fresh = true
  census : context.census = .completeFromDeploymentBlock
  tracked : context.untrackedRemotes = []
  witnesses : context.freshness.requiredWitnessGroups ≤ context.freshness.independentWitnessGroups

theorem nativeAggregation_background {context : ProofInput} {native : NativeInput} :
    (nativeAggregation context native).background = .ok ↔
      ContextComplete context ∧ invalidBound native.components = false ∧ native.census.epochsExpected ≠ 0 := by
  have hdivergent : divergent context = false ↔
      context.freshness.requiredWitnessGroups ≤ context.freshness.independentWitnessGroups := by
    unfold divergent
    rw [decide_eq_false_iff_not, not_lt]
  have hdata : replayDataStatus context = .complete ↔ divergent context = false ∧ context.freshness.fresh = true ∧
      context.census = .completeFromDeploymentBlock := by
    unfold replayDataStatus
    cases divergent context <;> cases context.freshness.fresh <;> simp
  have hcoverage : (nativeAggregation context native).coverage = .complete ↔
      context.untrackedRemotes = [] ∧ divergent context = false := by
    unfold nativeAggregation
    cases context.untrackedRemotes <;> cases divergent context <;> simp
  have hfaults : (nativeAggregation context native).evaluationFaults = [] ↔
      invalidBound native.components = false ∧ native.census.epochsExpected ≠ 0 := by
    unfold nativeAggregation
    cases invalidBound native.components <;> by_cases h : native.census.epochsExpected = 0 <;> simp [h]
  rw [background_ok_iff, hfaults, hcoverage]
  constructor
  · rintro ⟨-, hexpired, hbound, hstatus, hall⟩
    obtain ⟨hsame, hfresh, hcensus⟩ := hdata.1 hstatus
    exact ⟨⟨hfresh, hcensus, hall.1, hdivergent.1 hsame⟩, hbound⟩
  · rintro ⟨h, hbound⟩
    have hsame := hdivergent.2 h.witnesses
    refine ⟨rfl, ?_, hbound, hdata.2 ⟨hsame, h.fresh, h.census⟩, h.tracked, hsame⟩
    show (!context.freshness.fresh) = false
    rw [h.fresh]
    rfl

/-- The verdict of the one native contribution. -/
def nativeVerdict (native : NativeInput) : Verdict :=
  verdictFor (if (assessNative native).critical then .fail else if uncertain native then .unknown else .pass)
    (assessNative native).critical

theorem nativeAggregation_status (context : ProofInput) (native : NativeInput) :
    (aggregate (nativeAggregation context native)).protocolStatus =
      max (nativeAggregation context native).background (nativeVerdict native) := by
  rw [status_of_single rfl, severity_eq_verdictFor rfl]
  · rfl
  · intro hcritical
    exact if_pos hcritical

theorem nativeVerdict_ok {native : NativeInput} : nativeVerdict native = .ok ↔ uncertain native = false := by
  unfold nativeVerdict
  cases hcritical : (assessNative native).critical with
  | true =>
    refine iff_of_false (show Verdict.critical ≠ .ok by decide) fun hcertain => ?_
    have hsufficient : (assessNative native).assessment = .sufficient := by
      simp only [uncertain, Bool.or_eq_false_iff, decide_eq_false_iff_not, not_not] at hcertain
      exact hcertain.1.1
    rw [assessNative_sufficient_not_critical hsufficient] at hcritical
    cases hcritical
  | false => cases uncertain native <;> decide

theorem nativeVerdict_critical {native : NativeInput} :
    nativeVerdict native = .critical ↔ (assessNative native).critical = true := by
  unfold nativeVerdict
  cases (assessNative native).critical <;> cases uncertain native <;> decide

theorem max_eq_ok {v w : Verdict} : max v w = .ok ↔ v = .ok ∧ w = .ok := by
  cases v <;> cases w <;> decide

theorem max_eq_critical {v w : Verdict} (h : v ≤ .unknown) : max v w = .critical ↔ w = .critical := by
  cases v
  case critical => exact absurd h (by decide)
  all_goals cases w <;> decide

/-- The conditions of the native status, beside the context. -/
theorem uncertain_eq_false {native : NativeInput} : uncertain native = false ↔
    (assessNative native).assessment = .sufficient ∧ invalidBound native.components = false ∧
      native.census.epochsExpected ≠ 0 := by
  simp only [uncertain, Bool.or_eq_false_iff, decide_eq_false_iff_not, not_not, and_assoc, ne_eq]

/-- Where all amounts are there, the bound is valid unless more is burned than was created. -/
theorem invalidBound_eq_false {native : NativeInput} (h : (assessNative native).assessment = .sufficient) :
    invalidBound native.components = false ↔ native.components.burned ≤ native.components.created := by
  have hpresent := ((assessNative_sufficient native).1 h).reported.present
  rw [invalidBound, hpresent, Bool.true_and, decide_eq_false_iff_not, gt_iff_lt, not_lt]

theorem replayNative_verdict {context : ProofInput} {native : NativeInput} {r : Replayed}
    (h : replayNative nfc context native = .ok r) :
    r.verdict.protocolStatus = (aggregate (nativeAggregation context native)).protocolStatus := by
  obtain ⟨encoded, -, h⟩ := bind_eq_ok.1 h
  obtain ⟨proof, -, h⟩ := bind_eq_ok.1 h
  obtain ⟨result, -, h⟩ := bind_eq_ok.1 h
  obtain ⟨document, -, h⟩ := bind_eq_ok.1 h
  cases h
  rfl

theorem replayNative_returns {context : ProofInput} {native : NativeInput}
    (h : HasForm nfc (nativeReplayValue context native)) : ∃ r, replayNative nfc context native = .ok r := by
  obtain ⟨c, hc⟩ := h
  have hencoded : encodeNativeReplay nfc context native = .ok c := reparsed_eq (dense_nativeReplayValue _ _) hc
  have hform : HasForm nfc c := ⟨c, canon_of_canon hc⟩
  obtain ⟨document, hdocument⟩ := @hasForm_nativeResult nfc (assessNative native)
  show ∃ r, (encodeNativeReplay nfc context native >>= _) = .ok r
  rw [hencoded, ok_bind]
  refine exists_bind_ok hform.stringified fun proof => ?_
  refine exists_bind_ok (hasForm_nativeResult _).stringified fun result => ?_
  exact exists_bind_ok ⟨document, reparsed_eq (dense_nativeResultValue _) hdocument⟩ fun document => ⟨_, rfl⟩

/-- A native replay is OK exactly where the assessment is sufficient, no more is burned than was created, an epoch is
expected and the context is complete, and it is CRITICAL exactly where the assessment is. It returns for every input of
safe counts. -/
theorem replayNative_status (context : ProofInput) (native : NativeInput) (hcount : 0 ≤ native.census.epochsExpected) :
    (∀ r, replayNative nfc context native = .ok r →
      (r.verdict.protocolStatus = .ok ↔
        (assessNative native).assessment = .sufficient ∧ native.components.burned ≤ native.components.created ∧
          1 ≤ native.census.epochsExpected ∧ context.freshness.fresh = true ∧
          context.census = .completeFromDeploymentBlock ∧ context.untrackedRemotes = [] ∧
          context.freshness.requiredWitnessGroups ≤ context.freshness.independentWitnessGroups) ∧
      (r.verdict.protocolStatus = .critical ↔ (assessNative native).critical = true)) ∧
      (HasForm nfc (nativeReplayValue context native) → ∃ r, replayNative nfc context native = .ok r) := by
  refine ⟨fun r hr => ?_, replayNative_returns nfc⟩
  rw [replayNative_verdict nfc hr, nativeAggregation_status, max_eq_ok, nativeAggregation_background, nativeVerdict_ok,
    uncertain_eq_false, max_eq_critical (background_le _), nativeVerdict_critical]
  refine ⟨?_, Iff.rfl⟩
  constructor
  · rintro ⟨⟨hcontext, hbound, hepochs⟩, hsufficient, -, -⟩
    refine ⟨hsufficient, (invalidBound_eq_false hsufficient).1 hbound, by omega, ?_⟩
    exact ⟨hcontext.fresh, hcontext.census, hcontext.tracked, hcontext.witnesses⟩
  · rintro ⟨hsufficient, hburned, hepochs, hfresh, hcensus, htracked, hwitnesses⟩
    have hbound := (invalidBound_eq_false hsufficient).2 hburned
    have hnonzero : native.census.epochsExpected ≠ 0 := by omega
    exact ⟨⟨⟨hfresh, hcensus, htracked, hwitnesses⟩, hbound, hnonzero⟩, hsufficient, hbound, hnonzero⟩

end Replayed

/-! ## What callers promise -/

theorem decimalUint_nonneg {message s : String} {n : Int} (h : decimalUint message s = .ok n) : 0 ≤ n := by
  unfold decimalUint at h
  split at h
  · cases h
  · cases h
    exact Int.natCast_nonneg _

theorem nativeCount_nonneg {v : JsValue} {n : Int} (h : nativeCount v = .ok n) : 0 ≤ n := by
  obtain ⟨o, ho, h⟩ := bind_eq_ok.1 h
  cases o with
  | none => cases h
  | some m =>
    have hm : 0 ≤ m := by
      cases v with
      | str s =>
        cases hread : decimalUint "invalid native uint256" s with
        | error e =>
          rw [amount, hread] at ho
          cases ho
        | ok k =>
          rw [amount, hread] at ho
          cases ho
          exact decimalUint_nonneg hread
      | _ => cases ho
    change (if m > maxSafeInteger then _ else Except.ok m) = _ at h
    split at h
    · cases h
    · cases h
      exact hm

/-- The epochs of a decoded native input are counted from zero. -/
theorem decodeNativeInput_epochsExpected {nfc : Nfc} {v : JsValue} {native : NativeInput}
    (h : decodeNativeInput nfc v = .ok native) : 0 ≤ native.census.epochsExpected := by
  obtain ⟨read, hread, hchecked⟩ := bind_eq_ok.1 h
  obtain ⟨rfl, -⟩ := checked_eq_ok.1 hchecked
  obtain ⟨entries, -, hread⟩ := bind_eq_ok.1 hread
  obtain ⟨c, -, hread⟩ := bind_eq_ok.1 hread
  obtain ⟨m, -, hread⟩ := bind_eq_ok.1 hread
  obtain ⟨f, -, hread⟩ := bind_eq_ok.1 hread
  obtain ⟨holders, -, hread⟩ := bind_eq_ok.1 hread
  obtain ⟨components, -, hread⟩ := bind_eq_ok.1 hread
  obtain ⟨census, hcensus, hread⟩ := bind_eq_ok.1 hread
  have hsame : read.census = census := by
    obtain ⟨fees, -, hread⟩ := bind_eq_ok.1 hread
    obtain ⟨coverage, -, hread⟩ := bind_eq_ok.1 hread
    obtain ⟨supply, -, hread⟩ := bind_eq_ok.1 hread
    obtain ⟨needed, -, hread⟩ := bind_eq_ok.1 hread
    obtain ⟨accepted, -, hread⟩ := bind_eq_ok.1 hread
    cases hread
    rfl
  rw [hsame]
  obtain ⟨roster, -, hcensus⟩ := bind_eq_ok.1 hcensus
  obtain ⟨genesis, -, hcensus⟩ := bind_eq_ok.1 hcensus
  obtain ⟨rules, -, hcensus⟩ := bind_eq_ok.1 hcensus
  obtain ⟨history, -, hcensus⟩ := bind_eq_ok.1 hcensus
  obtain ⟨roles, -, hcensus⟩ := bind_eq_ok.1 hcensus
  obtain ⟨mint, -, hcensus⟩ := bind_eq_ok.1 hcensus
  obtain ⟨covered, -, hcensus⟩ := bind_eq_ok.1 hcensus
  obtain ⟨expected, hexpected, hcensus⟩ := bind_eq_ok.1 hcensus
  cases hcensus
  exact nativeCount_nonneg hexpected

/-- So the native status holds of every native document that is replayed. -/
theorem replayEvaluation_native {nfc : Nfc} {sha256 : String → String} {v : JsValue} {context : ProofInput}
    {native : NativeInput} (h : decodeReplayInput nfc v = .ok (context, some native)) :
    replayEvaluation nfc sha256 v = replayNative nfc context native ∧ 0 ≤ native.census.epochsExpected := by
  refine ⟨?_, ?_⟩
  · rw [replayEvaluation, h]
    rfl
  · rcases decodeReplayInput_eq_ok h with ⟨hnone, -⟩ | ⟨entries, n, -, hsome, -, -, -, hnative⟩
    · cases hnone
    · cases hsome
      exact decodeNativeInput_epochsExpected hnative

/-! ## Samples -/

theorem sampleNative_encodable : NativeEncodable sampleNfc (sampleNative false 1200) where
  totalMinted := fun n hn => by
    cases hn
    exact ⟨by decide, by decide⟩
  initialReserveImbalance := fun n hn => by
    cases hn
    exact ⟨by decide, by decide⟩
  burnedTxFeesAddressBalance := fun n hn => by
    cases hn
    exact ⟨by decide, by decide⟩
  burnedForTransferAddressBalance := fun n hn => by
    cases hn
    exact ⟨by decide, by decide⟩
  unexpectedRoleHolders := fun _ _ => rfl
  epochsCovered := isCount_one
  epochsExpected := isCount_one
  openReportEnvelopes := isCount_zero
  eligibleHomeCoverage := fun n hn => by
    cases hn
    exact ⟨by decide, by decide⟩
  trustworthySupplyLowerBound := fun n hn => by cases hn
  collateralNeeded := fun n hn => by cases hn
  acceptedCollateral := fun n hn => by cases hn

/-- A covered bound under a complete context is replayed as OK. -/
theorem replayNative_status_covered : ∃ r, replayNative sampleNfc sampleContext (sampleNative false 1200) = .ok r ∧
    r.verdict.protocolStatus = .ok := by
  obtain ⟨hstatus, hreturns⟩ := replayNative_status sampleNfc sampleContext (sampleNative false 1200) (by decide)
  obtain ⟨c, hc, -⟩ := decodeReplayInput_native sampleContext_encodable sampleNative_encodable
  obtain ⟨r, hr⟩ := hreturns ⟨c, hc⟩
  exact ⟨r, hr, (hstatus r hr).1.2 (by decide)⟩

/-- A remote with its pins, an envelope on its way to it, and an effect on it. -/
def sampleRoutes : ProofInput :=
  { sampleProof [sampleRemote 10 7 1] [samplePending "0xr" 3] 100 with
    effects := [{
      messageKey := "e"
      remoteBlockchainId := "0xremote"
      remoteAddress := "0xr"
      amount := 1
      hasUniqueAuthorisedSource := true
      routeMatchesSource := true
      duplicateEffect := false
      causalSourceFact := some "f" }] }

theorem samplePin_encodable (chain : String) (h : sampleNfc.Normal chain) : PinEncodable sampleNfc (samplePin chain) where
  blockchainId := h
  blockNumber := (⟨by decide, by decide⟩ : IsUint256 100)
  blockHash := rfl

theorem sampleRemote_encodable : RemoteEncodable sampleNfc (sampleRemote 10 7 1) where
  remoteBlockchainId := rfl
  remoteAddress := rfl
  transferredBalance := fun n hn => by
    cases hn
    exact ⟨by decide, by decide⟩
  remoteTotalSupply := fun n hn => by
    cases hn
    exact ⟨by decide, by decide⟩
  scale := ⟨⟨by decide, by decide⟩, ⟨by decide, by decide⟩, ⟨by decide, by decide⟩⟩
  homePin := fun p hp => by
    cases hp
    exact samplePin_encodable "0xhome" rfl
  remotePin := fun p hp => by
    cases hp
    exact samplePin_encodable "0xremote" rfl
  initialReserveImbalance := ⟨by decide, by decide⟩

theorem sampleRoutes_encodable : ProofEncodable sampleNfc sampleRoutes where
  deploymentId := rfl
  family := rfl
  provenance := ⟨fun _ _ => rfl, fun _ _ => rfl, fun _ _ => rfl, fun _ _ => rfl, fun n hn => by
    cases hn
    exact isCount_one, rfl⟩
  untrackedRemotes := fun _ _ => rfl
  independentWitnessGroups := ⟨by decide, by decide⟩
  requiredWitnessGroups := ⟨by decide, by decide⟩
  remotes := fun r hr => by
    rw [List.mem_singleton.1 hr]
    exact sampleRemote_encodable
  pending := fun p hp => by
    rw [List.mem_singleton.1 hp]
    exact ⟨rfl, ⟨by decide, by decide⟩, ⟨by decide, by decide⟩, rfl, rfl⟩
  effects := fun e he => by
    rw [List.mem_singleton.1 he]
    exact ⟨rfl, ⟨by decide, by decide⟩, rfl, rfl, fun _ _ => rfl⟩
  escrowBalance := fun n hn => by
    cases hn
    exact ⟨by decide, by decide⟩
  homePin := fun p hp => by
    cases hp
    exact samplePin_encodable "0xhome" rfl
  acceptedCollateralHomeUnits := ⟨by decide, by decide⟩
  pendingAgeLimitSeconds := ⟨by decide, by decide⟩

/-- A remote whose missing supply is on its way is replayed, and to the OK that the live rule gives it. -/
theorem replayProof_status_sample : ∃ r, replayProof sampleNfc id sampleRoutes = .ok r ∧
    r.verdict.protocolStatus = (evaluateCanonicalErc20 sampleRoutes id).output.verdictCandidate ∧
    r.verdict.protocolStatus = .ok := by
  obtain ⟨hstatus, hreturns⟩ := replayProof_status sampleNfc id sampleRoutes
  obtain ⟨r, hr⟩ := hreturns (reads_proofInput sampleRoutes_encodable).form (by decide)
  have hlive := hstatus r hr id
  exact ⟨r, hr, hlive, hlive.trans (by decide +kernel)⟩

end IcttSentinel.Evidence
