/-
Laws of the aggregation, packages/invariant-core/src/verdict.ts: the status is a severity homomorphism, nothing
that is added lowers it, no order matters; and how it relates to the lattice of packages/domain/src/verdict.ts,
which counts an optional unknown as a warning.
-/
import IcttSentinel.InvariantCore.Aggregate

namespace IcttSentinel.InvariantCore

open IcttSentinel.Domain IcttSentinel.Lib

/-! ## Severity -/

/-- Everything that speaks against the input speaks against the other, too. -/
structure AggregationInput.Grows (input input' : AggregationInput) : Prop where
  contributions : input.contributions ⊆ input'.contributions
  missing : input.missingRequiredEvaluations ⊆ input'.missingRequiredEvaluations
  expired : input.previousOkExpired = true → input'.previousOkExpired = true
  faults : input.evaluationFaults ⊆ input'.evaluationFaults
  dataStatus : input'.dataStatus = input.dataStatus
  coverage : input'.coverage = input.coverage

theorem ne_nil_of_subset {α : Type} {l m : List α} (h : l ⊆ m) (hl : l ≠ []) : m ≠ [] := by
  rintro rfl
  exact hl (List.subset_nil.1 h)

theorem AggregationInput.Grows.background_le {input input' : AggregationInput} (h : input.Grows input') :
    input.background ≤ input'.background := by
  unfold AggregationInput.background
  split_ifs with h₁ h₂ h₂
  · exact le_rfl
  · -- what makes the one unknown makes the other unknown
    refine absurd ?_ h₂
    rw [h.dataStatus, h.coverage]
    exact h₁.imp (ne_nil_of_subset h.missing) (Or.imp h.expired (Or.imp_left (ne_nil_of_subset h.faults)))
  · exact Verdict.ok_le _
  · exact le_rfl

/-- Nothing that is added lowers the status. -/
theorem AggregationInput.Grows.status_le {input input' : AggregationInput} (h : input.Grows input') :
    (aggregate input).protocolStatus ≤ (aggregate input').protocolStatus := by
  rw [aggregate_status, aggregate_status]
  exact max_le_max h.background_le (worst_mono (List.map_subset _ h.contributions))

theorem status_append (input : AggregationInput) (more : List RuleContribution) :
    (aggregate { input with contributions := input.contributions ++ more }).protocolStatus =
      max (aggregate input).protocolStatus (aggregate { input with contributions := more }).protocolStatus := by
  rw [aggregate_status, aggregate_status, aggregate_status]
  show max input.background (worst ((input.contributions ++ more).map RuleContribution.severity)) =
    max (max input.background (worst (input.contributions.map RuleContribution.severity)))
      (max input.background (worst (more.map RuleContribution.severity)))
  rw [List.map_append, worst_append, max_max_max_comm, max_self]

theorem status_of_perm {input : AggregationInput} {contributions : List RuleContribution}
    (h : contributions.Perm input.contributions) :
    (aggregate { input with contributions }).protocolStatus = (aggregate input).protocolStatus := by
  have hforth : input.Grows { input with contributions } :=
    ⟨h.symm.subset, List.Subset.refl _, id, List.Subset.refl _, rfl, rfl⟩
  have hback : { input with contributions }.Grows input :=
    ⟨h.subset, List.Subset.refl _, id, List.Subset.refl _, rfl, rfl⟩
  exact le_antisymm hback.status_le hforth.status_le

theorem criticalRuleIds_of_perm {input : AggregationInput} {contributions : List RuleContribution}
    (h : contributions.Perm input.contributions) :
    (aggregate { input with contributions }).criticalRuleIds = (aggregate input).criticalRuleIds :=
  sortStrings_eq_of_perm ((h.filter _).map _)

theorem unknownRuleIds_of_perm {input : AggregationInput} {contributions : List RuleContribution}
    (h : contributions.Perm input.contributions) :
    (aggregate { input with contributions }).unknownRuleIds = (aggregate input).unknownRuleIds :=
  sortStrings_eq_of_perm ((h.filter _).map _)

theorem mem_criticalRuleIds {input : AggregationInput} {id : String} :
    id ∈ (aggregate input).criticalRuleIds ↔ ∃ c ∈ input.contributions, c.critical = true ∧ c.ruleId = id := by
  show id ∈ sortStrings (criticalRuleIds input) ↔ _
  rw [mem_sortStrings, criticalRuleIds, List.mem_map]
  simp only [List.mem_filter, and_assoc]

theorem mem_unknownRuleIds {input : AggregationInput} {id : String} :
    id ∈ (aggregate input).unknownRuleIds ↔
      ∃ c ∈ input.contributions, c.required = true ∧ (c.result = .unknown ∨ c.result = .unsupported) ∧ c.ruleId = id := by
  show id ∈ sortStrings (unknownRuleIds input) ↔ _
  rw [mem_sortStrings, unknownRuleIds, List.mem_map]
  simp only [List.mem_filter, RuleContribution.unestablished, Bool.and_eq_true, Bool.or_eq_true, decide_eq_true_eq,
    and_assoc]

/-- The aggregation is a severity homomorphism: a concatenation is as bad as the worse part, nothing that is added
makes it better, no order of the contributions matters, and the ids it names are those of the contributions that
proved a breach or could not be established although required. -/
theorem aggregate_severity :
    (∀ (input : AggregationInput) (more : List RuleContribution),
      (aggregate { input with contributions := input.contributions ++ more }).protocolStatus =
        max (aggregate input).protocolStatus (aggregate { input with contributions := more }).protocolStatus) ∧
    (∀ input input' : AggregationInput, input.Grows input' →
      (aggregate input).protocolStatus ≤ (aggregate input').protocolStatus) ∧
    (∀ (input : AggregationInput) (contributions : List RuleContribution), contributions.Perm input.contributions →
      (aggregate { input with contributions }).protocolStatus = (aggregate input).protocolStatus ∧
        (aggregate { input with contributions }).criticalRuleIds = (aggregate input).criticalRuleIds ∧
        (aggregate { input with contributions }).unknownRuleIds = (aggregate input).unknownRuleIds) ∧
    ∀ (input : AggregationInput) (id : String),
      (id ∈ (aggregate input).criticalRuleIds ↔ ∃ c ∈ input.contributions, c.critical = true ∧ c.ruleId = id) ∧
        (id ∈ (aggregate input).unknownRuleIds ↔ ∃ c ∈ input.contributions,
          c.required = true ∧ (c.result = .unknown ∨ c.result = .unsupported) ∧ c.ruleId = id) :=
  ⟨status_append, fun _ _ h => h.status_le,
    fun _ _ h => ⟨status_of_perm h, criticalRuleIds_of_perm h, unknownRuleIds_of_perm h⟩,
    fun _ _ => ⟨mem_criticalRuleIds, mem_unknownRuleIds⟩⟩

/-- A rule that passes, fails or could not be established. -/
def sampleContribution (ruleId : String) (result : ProofResult) (critical required : Bool) : RuleContribution where
  ruleId
  result
  critical
  required
  claimMode := .causalExact
  reasons := []

/-- An aggregation with complete data, complete coverage and nothing missing, expired or faulty. -/
def undisturbed (contributions : List RuleContribution) : AggregationInput where
  contributions
  dataStatus := .complete
  coverage := .complete
  missingRequiredEvaluations := []
  previousOkExpired := false
  evaluationFaults := []

/-- A warning and a breach, and a fault on top. -/
theorem aggregate_severity_sample :
    (aggregate (undisturbed [sampleContribution "a" .fail false true])).protocolStatus ≤
        (aggregate { undisturbed [sampleContribution "b" .fail true true, sampleContribution "a" .fail false true] with
          evaluationFaults := ["timeout"] }).protocolStatus ∧
      (aggregate (undisturbed [sampleContribution "b" .unknown false true, sampleContribution "a" .unknown false true])).unknownRuleIds =
        (aggregate (undisturbed [sampleContribution "a" .unknown false true, sampleContribution "b" .unknown false true])).unknownRuleIds := by
  obtain ⟨-, hgrows, hperm, -⟩ := aggregate_severity
  refine ⟨hgrows _ _ ⟨by decide, by decide, by decide, by decide, rfl, rfl⟩, ?_⟩
  exact (hperm (undisturbed [sampleContribution "a" .unknown false true, sampleContribution "b" .unknown false true]) _
    (List.Perm.swap _ _ _)).2.2

/-! ## The other lattice -/

/-- The judgement of a contribution, by the verdict its result may contribute. -/
def judgementOf (c : RuleContribution) : Judgement where
  verdict := verdictFor c.result c.critical
  requirement := if c.required then .required else .optional

/-- An optional check that could not be established. -/
def RuleContribution.waived (c : RuleContribution) : Bool := !c.required && c.unestablished

/-- The judgement the aggregation makes: an optional check that could not be established does not block. -/
def waivedJudgementOf (c : RuleContribution) : Judgement :=
  if c.waived then { verdict := .ok, requirement := .optional } else judgementOf c

theorem not_critical {c : RuleContribution} (hcritical : c.critical = true → c.result = .fail) (h : c.result ≠ .fail) :
    c.critical = false := by
  rw [← Bool.not_eq_true]
  exact fun hc => h (hcritical hc)

theorem countsAs_judgementOf {c : RuleContribution} (hcritical : c.critical = true → c.result = .fail) :
    (judgementOf c).countsAs = if c.waived then .warn else c.severity := by
  unfold judgementOf Judgement.countsAs RuleContribution.waived RuleContribution.severity RuleContribution.unestablished
  cases hresult : c.result with
  | pass =>
    rw [not_critical hcritical (by rw [hresult]; decide)]
    simp [verdictFor]
  | fail => cases hc : c.critical <;> simp [verdictFor]
  | unknown =>
    rw [not_critical hcritical (by rw [hresult]; decide)]
    cases hrequired : c.required <;> simp [verdictFor]
  | unsupported =>
    rw [not_critical hcritical (by rw [hresult]; decide)]
    cases hrequired : c.required <;> simp [verdictFor]

theorem severity_of_waived {c : RuleContribution} (hcritical : c.critical = true → c.result = .fail)
    (h : c.waived = true) : c.severity = .ok := by
  simp only [RuleContribution.waived, RuleContribution.unestablished, Bool.and_eq_true, Bool.not_eq_true',
    Bool.or_eq_true, decide_eq_true_eq] at h
  obtain ⟨hrequired, hresult⟩ := h
  have hfail : c.result ≠ .fail := by
    rcases hresult with hresult | hresult <;> rw [hresult] <;> decide
  unfold RuleContribution.severity
  rw [not_critical hcritical hfail, hrequired, if_neg hfail]
  rfl

theorem countsAs_waivedJudgementOf {c : RuleContribution} (hcritical : c.critical = true → c.result = .fail) :
    (waivedJudgementOf c).countsAs = c.severity := by
  unfold waivedJudgementOf
  split
  · rename_i hwaived
    exact (severity_of_waived hcritical hwaived).symm
  · rename_i hwaived
    rw [countsAs_judgementOf hcritical, if_neg hwaived]

theorem undisturbed_status (contributions : List RuleContribution) :
    (aggregate (undisturbed contributions)).protocolStatus = worst (contributions.map RuleContribution.severity) := by
  rw [aggregate_status]
  exact max_eq_right (Verdict.ok_le _)

/-- Undisturbed, the aggregation is the lattice with optional unknowns waived. It is the lattice itself exactly when
nothing is waived or something stands that a warning does not add to. -/
theorem aggregate_combineVerdicts {contributions : List RuleContribution} (hne : contributions ≠ [])
    (hcritical : ∀ c ∈ contributions, c.critical = true → c.result = .fail) :
    (aggregate (undisturbed contributions)).protocolStatus = combineVerdicts (contributions.map waivedJudgementOf) ∧
      ((aggregate (undisturbed contributions)).protocolStatus = combineVerdicts (contributions.map judgementOf) ↔
        (∀ c ∈ contributions, c.waived = false) ∨
          ∃ c ∈ contributions, c.result = .fail ∨ (c.required && c.unestablished) = true) := by
  have hcombined : ∀ judge : RuleContribution → Judgement, combineVerdicts (contributions.map judge) =
      worst (contributions.map fun c => (judge c).countsAs) := by
    intro judge
    rw [combineVerdicts_eq (by simpa using hne), List.map_map]
    rfl
  rw [undisturbed_status, hcombined, hcombined]
  have hwaived : contributions.map (fun c => (waivedJudgementOf c).countsAs) =
      contributions.map RuleContribution.severity :=
    List.map_congr_left fun c hc => countsAs_waivedJudgementOf (hcritical c hc)
  refine ⟨by rw [hwaived], ?_⟩
  constructor
  · intro h
    by_contra hneither
    push Not at hneither
    obtain ⟨⟨c, hc, hcwaived⟩, hnothing⟩ := hneither
    -- every contribution stands for OK, while the waived one counts as a warning
    have hok : worst (contributions.map RuleContribution.severity) ≤ .ok := by
      refine worst_le_iff.2 fun v hv => ?_
      obtain ⟨d, hd, rfl⟩ := List.mem_map.1 hv
      by_contra hlt
      have hwarn : .warn ≤ d.severity := by
        revert hlt
        cases d.severity <;> decide
      rcases RuleContribution.warn_le.1 hwarn with hbreach | hunknown | hfail
      · exact (hnothing d hd).1 (hcritical d hd hbreach)
      · exact (hnothing d hd).2 hunknown
      · exact (hnothing d hd).1 hfail
    have hwarn : Verdict.warn ≤ worst (contributions.map fun c => (judgementOf c).countsAs) := by
      refine (le_worst_iff (by decide)).2 ⟨_, List.mem_map_of_mem hc, ?_⟩
      rw [countsAs_judgementOf (hcritical c hc), if_pos (by simpa using hcwaived)]
    rw [h] at hok
    exact absurd (hwarn.trans hok) (by decide)
  · rintro (hnone | ⟨c, hc, hstands⟩)
    · refine congrArg worst (List.map_congr_left fun c hc => ?_)
      rw [countsAs_judgementOf (hcritical c hc), hnone c hc]
      rfl
    · have hwarn : .warn ≤ worst (contributions.map RuleContribution.severity) := by
        refine (le_worst_iff (by decide)).2 ⟨_, List.mem_map_of_mem hc, RuleContribution.warn_le.2 ?_⟩
        rcases hstands with hfail | hunknown
        · exact Or.inr (Or.inr hfail)
        · exact Or.inr (Or.inl hunknown)
      apply le_antisymm
      · refine worst_le_iff.2 fun v hv => ?_
        obtain ⟨d, hd, rfl⟩ := List.mem_map.1 hv
        refine (?_ : d.severity ≤ (judgementOf d).countsAs).trans (le_worst (List.mem_map.2 ⟨d, hd, rfl⟩))
        rw [countsAs_judgementOf (hcritical d hd)]
        split
        · rename_i hdwaived
          rw [severity_of_waived (hcritical d hd) hdwaived]
          exact Verdict.ok_le _
        · exact le_rfl
      · refine worst_le_iff.2 fun v hv => ?_
        obtain ⟨d, hd, rfl⟩ := List.mem_map.1 hv
        rw [countsAs_judgementOf (hcritical d hd)]
        split
        · exact hwarn
        · exact le_worst (List.mem_map_of_mem hd)

/-- A breach beside an optional unknown. -/
theorem aggregate_combineVerdicts_sample :
    (aggregate (undisturbed [sampleContribution "a" .fail true true, sampleContribution "b" .unknown false false])).protocolStatus =
      combineVerdicts
        ([sampleContribution "a" .fail true true, sampleContribution "b" .unknown false false].map judgementOf) := by
  have h := aggregate_combineVerdicts
    (show [sampleContribution "a" .fail true true, sampleContribution "b" .unknown false false] ≠ [] by decide) (by decide)
  exact h.2.2 (Or.inr ⟨_, List.mem_cons_self, Or.inl rfl⟩)

/-- An optional unknown beside a passed check is OK to the aggregation, and a warning to the lattice. -/
theorem optional_unknown_differs :
    (aggregate (undisturbed [sampleContribution "a" .pass false true, sampleContribution "b" .unknown false false])).protocolStatus = .ok ∧
      combineVerdicts ([sampleContribution "a" .pass false true, sampleContribution "b" .unknown false false].map judgementOf) = .warn := by
  decide

end IcttSentinel.InvariantCore
