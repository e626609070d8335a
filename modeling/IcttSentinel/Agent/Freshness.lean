/-
Age applied to a verdict, apps/agent/src/freshness.ts, and the health of the agent, apps/agent/src/health.ts.
"Degradation is one-directional": with age a verdict moves up the lattice, never down, and a breach stays one. An
evaluation is withheld past both ages of the policy, which the schema does not order. Times are milliseconds.
-/
import IcttSentinel.Domain.Lattice

namespace IcttSentinel.Agent

open IcttSentinel.Domain

/-! ## Freshness -/

def staleReason : String := "STALE_EVALUATION"

def expiredReason : String := "EVALUATION_EXPIRED"

structure FreshnessPolicy where
  maxAgeSeconds : Nat
  expiresAfterSeconds : Nat
  deriving DecidableEq, Repr

structure FreshnessResult where
  verdict : Verdict
  stale : Bool
  reportable : Bool
  ageSeconds : Int
  reasonCodes : List String
  deriving DecidableEq, Repr

/-- `Math.floor((nowMs - atMs) / 1000)`. -/
def ageInSeconds (atMs nowMs : Int) : Int := (nowMs - atMs) / 1000

def applyFreshness (verdict : Verdict) (observedAtMs nowMs : Int) (policy : FreshnessPolicy) : FreshnessResult :=
  let ageSeconds := ageInSeconds observedAtMs nowMs
  -- an evaluation from the future is a clock fault, and as stale as can be
  let skewed := decide (ageSeconds < 0)
  let expired := skewed || decide (ageSeconds > policy.expiresAfterSeconds)
  let stale := skewed || decide (ageSeconds > policy.maxAgeSeconds)
  if !stale then { verdict, stale := false, reportable := true, ageSeconds, reasonCodes := [] }
  else
    { verdict := if verdict = .critical then .critical else .unknown
      stale := true
      reportable := !expired
      ageSeconds
      reasonCodes := if expired then [staleReason, expiredReason] else [staleReason] }

/-- The age is not negative and within the bound. -/
def WithinAge (seconds : Nat) (atMs nowMs : Int) : Prop := 0 ≤ ageInSeconds atMs nowMs ∧ ageInSeconds atMs nowMs ≤ seconds

instance (seconds : Nat) (atMs nowMs : Int) : Decidable (WithinAge seconds atMs nowMs) :=
  inferInstanceAs (Decidable (_ ∧ _))

section Freshness

variable {verdict : Verdict} {observedAtMs nowMs : Int} {policy : FreshnessPolicy}

theorem ageInSeconds_mono (observedAtMs : Int) {later : Int} (h : nowMs ≤ later) :
    ageInSeconds observedAtMs nowMs ≤ ageInSeconds observedAtMs later := by
  unfold ageInSeconds
  omega

@[simp] theorem ageInSeconds_self (t : Int) : ageInSeconds t t = 0 := by
  simp [ageInSeconds]

theorem withinAge_self (seconds : Nat) (t : Int) : WithinAge seconds t t := by
  simp [WithinAge]

theorem applyFreshness_fresh (h : WithinAge policy.maxAgeSeconds observedAtMs nowMs) :
    applyFreshness verdict observedAtMs nowMs policy =
      { verdict
        stale := false
        reportable := true
        ageSeconds := ageInSeconds observedAtMs nowMs
        reasonCodes := [] } := by
  obtain ⟨hnonneg, hle⟩ := h
  have hskewed : ¬ ageInSeconds observedAtMs nowMs < 0 := by omega
  have hold : ¬ ageInSeconds observedAtMs nowMs > (policy.maxAgeSeconds : Int) := by omega
  simp [applyFreshness, hskewed, hold]

theorem applyFreshness_aged (h : ¬ WithinAge policy.maxAgeSeconds observedAtMs nowMs) :
    (applyFreshness verdict observedAtMs nowMs policy).stale = true ∧
      (applyFreshness verdict observedAtMs nowMs policy).verdict = (if verdict = .critical then .critical else .unknown) ∧
      ((applyFreshness verdict observedAtMs nowMs policy).reportable = true ↔
        WithinAge policy.expiresAfterSeconds observedAtMs nowMs) := by
  have hstale : (decide (ageInSeconds observedAtMs nowMs < 0) ||
      decide (ageInSeconds observedAtMs nowMs > (policy.maxAgeSeconds : Int))) = true := by
    rw [Bool.or_eq_true, decide_eq_true_iff, decide_eq_true_iff]
    unfold WithinAge at h
    omega
  unfold applyFreshness
  simp only [hstale, Bool.not_true, Bool.false_eq_true, if_false, Bool.not_eq_true', Bool.or_eq_false_iff,
    decide_eq_false_iff_not, not_lt, gt_iff_lt, WithinAge, true_and]

theorem applyFreshness_stale :
    (applyFreshness verdict observedAtMs nowMs policy).stale = true ↔
      ¬ WithinAge policy.maxAgeSeconds observedAtMs nowMs := by
  refine ⟨fun h hfresh => ?_, fun h => (applyFreshness_aged h).1⟩
  rw [applyFreshness_fresh hfresh] at h
  cases h

/-- An evaluation may be reported up to the later of the two ages. -/
theorem applyFreshness_reportable :
    (applyFreshness verdict observedAtMs nowMs policy).reportable = true ↔
      WithinAge (max policy.maxAgeSeconds policy.expiresAfterSeconds) observedAtMs nowMs := by
  by_cases h : WithinAge policy.maxAgeSeconds observedAtMs nowMs
  · rw [applyFreshness_fresh h]
    unfold WithinAge at h ⊢
    rw [Nat.cast_max]
    exact iff_of_true rfl ⟨h.1, le_max_of_le_left h.2⟩
  · rw [(applyFreshness_aged h).2.2]
    unfold WithinAge at h ⊢
    rw [Nat.cast_max, le_max_iff]
    omega

theorem applyFreshness_verdict :
    (applyFreshness verdict observedAtMs nowMs policy).verdict =
      if WithinAge policy.maxAgeSeconds observedAtMs nowMs ∨ verdict = .critical then verdict else .unknown := by
  by_cases h : WithinAge policy.maxAgeSeconds observedAtMs nowMs
  · rw [applyFreshness_fresh h, if_pos (Or.inl h)]
  · rw [(applyFreshness_aged h).2.1]
    by_cases hcritical : verdict = .critical
    · rw [if_pos hcritical, if_pos (Or.inr hcritical), hcritical]
    · rw [if_neg hcritical, if_neg (not_or.2 ⟨h, hcritical⟩)]

theorem le_unknown_or_critical (v : Verdict) : v ≤ .unknown ∨ v = .critical := by
  cases v <;> decide

/-- Age never makes a verdict better. -/
theorem le_applyFreshness : verdict ≤ (applyFreshness verdict observedAtMs nowMs policy).verdict := by
  rw [applyFreshness_verdict]
  split
  · exact le_rfl
  · rename_i h
    exact (le_unknown_or_critical verdict).resolve_right fun hcritical => h (Or.inr hcritical)

/-- "Degradation is one-directional": between two readings of one evaluation, at its time or later, the verdict does not
improve, staleness stays, and what may not be reported any more never may again. A breach is reported as one throughout. -/
theorem applyFreshness_one_directional (verdict : Verdict) (observedAtMs nowMs later : Int) (policy : FreshnessPolicy)
    (hobserved : observedAtMs ≤ nowMs) (hlater : nowMs ≤ later) :
    let first := applyFreshness verdict observedAtMs nowMs policy
    let second := applyFreshness verdict observedAtMs later policy
    first.verdict ≤ second.verdict ∧ (first.stale = true → second.stale = true) ∧
      (second.reportable = true → first.reportable = true) ∧ (second.verdict = .critical ↔ verdict = .critical) := by
  intro first second
  have hage : 0 ≤ ageInSeconds observedAtMs nowMs := by
    unfold ageInSeconds
    omega
  have hmono := ageInSeconds_mono observedAtMs hlater
  -- an age within bounds later was within bounds before
  have hwithin : ∀ seconds, WithinAge seconds observedAtMs later → WithinAge seconds observedAtMs nowMs :=
    fun seconds h => ⟨hage, hmono.trans h.2⟩
  refine ⟨?_, ?_, ?_, ?_⟩
  · simp only [first]
    rw [applyFreshness_verdict]
    split
    · exact le_applyFreshness
    · rename_i hold
      rw [not_or] at hold
      have holder : ¬ (WithinAge policy.maxAgeSeconds observedAtMs later ∨ verdict = .critical) :=
        not_or.2 ⟨fun h => hold.1 (hwithin _ h), hold.2⟩
      simp only [second, applyFreshness_verdict, if_neg holder, le_refl]
  · simp only [first, second, applyFreshness_stale]
    exact fun h hfresh => h (hwithin _ hfresh)
  · simp only [first, second, applyFreshness_reportable]
    exact hwithin _
  · simp only [second, applyFreshness_verdict]
    split
    · exact Iff.rfl
    · rename_i h
      exact iff_of_false (by decide) fun hcritical => h (Or.inr hcritical)

/-- A breach a minute old, and the same breach past every age. -/
theorem applyFreshness_one_directional_breach :
    (applyFreshness .critical 0 360000 { maxAgeSeconds := 60, expiresAfterSeconds := 300 }).verdict = .critical ∧
      (applyFreshness .critical 0 360000 { maxAgeSeconds := 60, expiresAfterSeconds := 300 }).reportable = false := by
  obtain ⟨-, -, -, hcritical⟩ := applyFreshness_one_directional .critical 0 60000 360000
    { maxAgeSeconds := 60, expiresAfterSeconds := 300 } (by decide) (by decide)
  exact ⟨hcritical.2 rfl, by decide⟩

end Freshness

/-! ## Health -/

structure DeploymentHealth where
  deploymentId : String
  lastSuccessAtMs : Option Int
  lastVerdict : Option Verdict
  consecutiveFailures : Nat
  deriving DecidableEq, Repr

/-- `AgentState`: what the probes are answered from. -/
structure AgentState where
  startedAtMs : Int
  databaseReachable : Bool
  schemaCurrent : Bool
  deployments : List DeploymentHealth
  alertingDegraded : Bool
  hostedIngestDegraded : Bool

structure HealthReport where
  live : Bool
  ready : Bool
  reasons : List String
  uptimeSeconds : Int
  degraded : List String
  deriving DecidableEq, Repr

/-- The reasons that one deployment gives against readiness. -/
def deploymentReasons (nowMs : Int) (maxEvaluationAgeSeconds : Nat) (d : DeploymentHealth) : List String :=
  match d.lastSuccessAtMs with
  | none => ["DEPLOYMENT_NEVER_EVALUATED:" ++ d.deploymentId]
  | some at_ =>
    let ageSeconds := ageInSeconds at_ nowMs
    (if ageSeconds > maxEvaluationAgeSeconds || ageSeconds < 0 then ["DEPLOYMENT_EVALUATION_STALE:" ++ d.deploymentId]
      else []) ++
    if d.lastVerdict = some .unknown then ["DEPLOYMENT_VERDICT_UNKNOWN:" ++ d.deploymentId] else []

def healthReasons (state : AgentState) (nowMs : Int) (maxEvaluationAgeSeconds : Nat) : List String :=
  (if !state.databaseReachable then ["DATABASE_UNREACHABLE"] else []) ++
    (if !state.schemaCurrent then ["SCHEMA_OUTDATED"] else []) ++
    (if state.deployments.length = 0 then ["NO_DEPLOYMENTS_CONFIGURED"] else []) ++
    state.deployments.flatMap (deploymentReasons nowMs maxEvaluationAgeSeconds)

def evaluateHealth (state : AgentState) (nowMs : Int) (maxEvaluationAgeSeconds : Nat) : HealthReport where
  live := true
  ready := (healthReasons state nowMs maxEvaluationAgeSeconds).length = 0
  reasons := healthReasons state nowMs maxEvaluationAgeSeconds
  uptimeSeconds := max 0 (ageInSeconds state.startedAtMs nowMs)
  degraded := (if state.alertingDegraded then ["ALERT_DELIVERY_DEGRADED"] else []) ++
    if state.hostedIngestDegraded then ["HOSTED_INGEST_DEGRADED"] else []

/-- The truth path of a deployment: a success within the age, and a verdict that is established. -/
def DeploymentHealth.Established (d : DeploymentHealth) (nowMs : Int) (maxEvaluationAgeSeconds : Nat) : Prop :=
  (∃ at_, d.lastSuccessAtMs = some at_ ∧ WithinAge maxEvaluationAgeSeconds at_ nowMs) ∧ d.lastVerdict ≠ some .unknown

theorem deploymentReasons_nil {nowMs : Int} {maxEvaluationAgeSeconds : Nat} {d : DeploymentHealth} :
    deploymentReasons nowMs maxEvaluationAgeSeconds d = [] ↔ d.Established nowMs maxEvaluationAgeSeconds := by
  unfold deploymentReasons DeploymentHealth.Established WithinAge
  cases d.lastSuccessAtMs with
  | none => simp
  | some at_ =>
    simp only [List.append_eq_nil_iff, ite_eq_right_iff, List.cons_ne_nil, imp_false, Bool.or_eq_true,
      decide_eq_true_iff, Option.some.injEq, exists_eq_left']
    refine and_congr ?_ Iff.rfl
    omega

/-- Readiness is the truth path alone: delivery trouble and the hosted plane never count. -/
theorem evaluateHealth_ready {state : AgentState} {nowMs : Int} {maxEvaluationAgeSeconds : Nat} :
    (evaluateHealth state nowMs maxEvaluationAgeSeconds).ready = true ↔
      state.databaseReachable = true ∧ state.schemaCurrent = true ∧ state.deployments ≠ [] ∧
        ∀ d ∈ state.deployments, d.Established nowMs maxEvaluationAgeSeconds := by
  unfold evaluateHealth
  rw [decide_eq_true_iff]
  simp only [List.length_eq_zero_iff, healthReasons, List.append_eq_nil_iff,
    List.flatMap_eq_nil_iff, deploymentReasons_nil, ite_eq_right_iff, List.cons_ne_nil, imp_false, Bool.not_eq_true',
    Bool.not_eq_false, and_assoc, ne_eq]

end IcttSentinel.Agent
