/-
Whether an OK is earned, packages/invariant-core/src/verdict.ts: "only when every required control is complete,
fresh and passing", "only a full OK is ever green" and "only an overall OK is zero". The status is what is left
when nothing speaks against it, so that an aggregation nothing was required of is OK as well, and it does not look
at the claim mode, which greenness does. The exact condition, over all inputs.
-/
import IcttSentinel.InvariantCore.Severity

namespace IcttSentinel.InvariantCore

open IcttSentinel.Domain IcttSentinel.Lib

/-! ## Exit codes and greenness -/

/-- `EXIT_CODES`. -/
structure ExitCodes where
  ok : Nat
  critical : Nat
  requiredUnknown : Nat
  warn : Nat

def exitCodes : ExitCodes where
  ok := 0
  critical := 2
  requiredUnknown := 3
  warn := 4

def exitCodeFor (v : GlobalVerdict) : Nat :=
  match v.protocolStatus with
  | .ok => exitCodes.ok
  | .critical => exitCodes.critical
  | .unknown => exitCodes.requiredUnknown
  | .warn => exitCodes.warn

def isOverallGreen (v : GlobalVerdict) : Bool :=
  v.protocolStatus = .ok && v.dataStatus = .complete && v.coverage = .complete && v.claimMode ≠ .unsupported &&
    v.claimMode ≠ .indeterminate

theorem exitCodeFor_eq_zero {v : GlobalVerdict} : exitCodeFor v = 0 ↔ v.protocolStatus = .ok := by
  unfold exitCodeFor
  cases v.protocolStatus <;> decide

/-! ## The weakest claim -/

/-- A claim that the evidence decides. -/
def ClaimMode.decided (m : ClaimMode) : Bool := m ≠ .unsupported && m ≠ .indeterminate

theorem ClaimMode.decided_iff {m : ClaimMode} : m.decided = true ↔ m.rank ≤ 2 := by
  cases m <;> decide

/-- The weaker of two claims is as weak as either. -/
theorem rank_weaker (worst m : ClaimMode) :
    (if m.rank > worst.rank then m else worst).rank = max worst.rank m.rank := by
  split <;> omega

theorem foldl_rank_le {modes : List ClaimMode} {first : ClaimMode} {n : Nat} :
    (modes.foldl (fun worst m => if m.rank > worst.rank then m else worst) first).rank ≤ n ↔
      first.rank ≤ n ∧ ∀ m ∈ modes, m.rank ≤ n := by
  induction modes generalizing first with
  | nil => simp
  | cons m modes ih =>
    rw [List.foldl_cons, ih, rank_weaker, max_le_iff, List.forall_mem_cons, and_assoc]

/-- The weakest claim is decided when there is a claim and all of them are. -/
theorem weakestClaim_decided {modes : List ClaimMode} :
    (weakestClaim modes).decided = true ↔ modes ≠ [] ∧ ∀ m ∈ modes, m.decided = true := by
  cases modes with
  | nil => decide
  | cons first rest =>
    simp only [ClaimMode.decided_iff]
    show (List.foldl _ first (first :: rest)).rank ≤ 2 ↔ _
    rw [foldl_rank_le, List.forall_mem_cons, and_self_left]
    exact ⟨fun h => ⟨List.cons_ne_nil _ _, h⟩, fun h => h.2⟩

/-! ## An OK -/

/-- Something speaks against an OK: a breach, a failed rule, a required rule that could not be established, or
one of the other inputs. -/
def AggregationInput.Objected (input : AggregationInput) : Prop :=
  (∃ c ∈ input.contributions, c.critical = true ∨ (c.required && c.unestablished) = true ∨ c.result = .fail) ∨
    input.background = .unknown

theorem aggregate_ok_iff {input : AggregationInput} :
    (aggregate input).protocolStatus = .ok ↔ ¬ input.Objected := by
  have hnot : (aggregate input).protocolStatus = .ok ↔ ¬ .warn ≤ (aggregate input).protocolStatus := by
    cases (aggregate input).protocolStatus <;> decide
  have hbackground : .warn ≤ input.background ↔ input.background = .unknown := by
    rcases background_eq input with h | h <;> rw [h] <;> decide
  rw [hnot, aggregate_status, le_max_iff, le_severities_iff (by decide), hbackground, or_comm]
  simp only [RuleContribution.warn_le, AggregationInput.Objected]

/-- Where nothing speaks against an OK, data and coverage are complete. -/
theorem complete_of_not_objected {input : AggregationInput} (h : ¬ input.Objected) :
    input.dataStatus = .complete ∧ input.coverage = .complete := by
  have hbackground : input.background ≠ .unknown := fun hb => h (Or.inr hb)
  unfold AggregationInput.background at hbackground
  split_ifs at hbackground with hnone
  · exact absurd rfl hbackground
  · push Not at hnone
    exact ⟨hnone.2.2.2.1, hnone.2.2.2.2⟩

/-- Where nothing speaks against an OK, every required rule passed. -/
theorem required_pass {input : AggregationInput} (h : ¬ input.Objected) {c : RuleContribution}
    (hc : c ∈ input.contributions) (hrequired : c.required = true) : c.result = .pass := by
  have hnone : ¬ (c.critical = true ∨ (c.required && c.unestablished) = true ∨ c.result = .fail) :=
    fun hobjects => h (Or.inl ⟨c, hc, hobjects⟩)
  rw [hrequired, RuleContribution.unestablished] at hnone
  cases hresult : c.result with
  | pass => rfl
  | fail => exact absurd (Or.inr (Or.inr hresult)) hnone
  | unknown => exact absurd (Or.inr (Or.inl (by simp [hresult]))) hnone
  | unsupported => exact absurd (Or.inr (Or.inl (by simp [hresult]))) hnone

theorem isOverallGreen_iff {input : AggregationInput} : isOverallGreen (aggregate input) = true ↔
    ¬ input.Objected ∧ input.contributions ≠ [] ∧ ∀ c ∈ input.contributions, c.claimMode.decided = true := by
  have hclaim : (aggregate input).claimMode.decided = true ↔
      input.contributions ≠ [] ∧ ∀ c ∈ input.contributions, c.claimMode.decided = true := by
    show (weakestClaim (input.contributions.map (·.claimMode))).decided = true ↔ _
    rw [weakestClaim_decided, ne_eq, List.map_eq_nil_iff, List.forall_mem_map]
  rw [← hclaim, ← aggregate_ok_iff]
  simp only [isOverallGreen, ClaimMode.decided, Bool.and_eq_true, decide_eq_true_eq]
  constructor
  · rintro ⟨⟨⟨⟨hok, -⟩, -⟩, hunsupported⟩, hindeterminate⟩
    exact ⟨hok, hunsupported, hindeterminate⟩
  · rintro ⟨hok, hunsupported, hindeterminate⟩
    obtain ⟨hdata, hcoverage⟩ := complete_of_not_objected (aggregate_ok_iff.1 hok)
    exact ⟨⟨⟨⟨hok, hdata⟩, hcoverage⟩, hunsupported⟩, hindeterminate⟩

/-! ## An earned OK -/

/-- An OK stands on a required rule that passed and on no required rule that did not, it is green, and the exit
code is zero for what is green and nothing else. -/
structure OkEarned (input : AggregationInput) : Prop where
  passed : (aggregate input).protocolStatus = .ok → ∃ c ∈ input.contributions, c.required = true ∧ c.result = .pass
  onlyPassed : (aggregate input).protocolStatus = .ok →
    ∀ c ∈ input.contributions, c.required = true → c.result = .pass
  green : (aggregate input).protocolStatus = .ok → isOverallGreen (aggregate input) = true
  exitZero : exitCodeFor (aggregate input) = 0 ↔ isOverallGreen (aggregate input) = true

/-- An OK is earned exactly where something speaks against it, or a rule is required and every claim is decided. -/
theorem ok_earned_iff (input : AggregationInput) :
    OkEarned input ↔ input.Objected ∨
      ((∃ c ∈ input.contributions, c.required = true) ∧ ∀ c ∈ input.contributions, c.claimMode.decided = true) := by
  constructor
  · intro h
    by_cases hobjected : input.Objected
    · exact Or.inl hobjected
    · have hok := aggregate_ok_iff.2 hobjected
      obtain ⟨c, hc, hrequired, -⟩ := h.passed hok
      exact Or.inr ⟨⟨c, hc, hrequired⟩, (isOverallGreen_iff.1 (h.green hok)).2.2⟩
  · intro h
    have hwhen : ¬ input.Objected → (∃ c ∈ input.contributions, c.required = true) ∧
        ∀ c ∈ input.contributions, c.claimMode.decided = true := fun hnot => h.resolve_left hnot
    have hgreen : (aggregate input).protocolStatus = .ok → isOverallGreen (aggregate input) = true := by
      intro hok
      obtain ⟨⟨c, hc, -⟩, hclaims⟩ := hwhen (aggregate_ok_iff.1 hok)
      exact isOverallGreen_iff.2 ⟨aggregate_ok_iff.1 hok, List.ne_nil_of_mem hc, hclaims⟩
    refine ⟨fun hok => ?_, fun hok c hc => required_pass (aggregate_ok_iff.1 hok) hc, hgreen, ?_⟩
    · obtain ⟨⟨c, hc, hrequired⟩, -⟩ := hwhen (aggregate_ok_iff.1 hok)
      exact ⟨c, hc, hrequired, required_pass (aggregate_ok_iff.1 hok) hc hrequired⟩
    · rw [exitCodeFor_eq_zero]
      exact ⟨hgreen, fun h => aggregate_ok_iff.2 (isOverallGreen_iff.1 h).1⟩

/-- Without a contribution the status is OK and the exit code zero, although nothing passed and nothing is green. -/
theorem nothing_required_is_ok :
    (aggregate (undisturbed [])).protocolStatus = .ok ∧ exitCodeFor (aggregate (undisturbed [])) = 0 ∧
      isOverallGreen (aggregate (undisturbed [])) = false ∧ ¬ OkEarned (undisturbed []) := by
  refine ⟨by decide, by decide, by decide, fun h => ?_⟩
  obtain ⟨c, hc, -⟩ := h.passed (by decide)
  exact List.not_mem_nil hc

end IcttSentinel.InvariantCore
