/-
Gate A of packages/invariant-core/src/gate-a.ts: exact causal reconciliation of the canonical ERC20
single-hop route, `D_r - S_r = P_h2r + P_r2h` for every remote, behind the fail-closed input checks.
Each outcome is characterised by the conditions on the input that lead to it.
-/
import IcttSentinel.InvariantCore.Inputs
import IcttSentinel.Lib.Counting
import IcttSentinel.Lib.Sorting

namespace IcttSentinel.InvariantCore

open IcttSentinel.Lib

def maxUint256 : Int := 2 ^ 256 - 1

structure RemoteReconciliation where
  remoteBlockchainId : String
  remoteAddress : String
  transferredBalance : Int
  remoteTotalSupply : Int
  delta : Int
  pendingHomeToRemote : Int
  pendingRemoteToHome : Int
  pendingTotal : Int
  reconciled : Bool
  deriving DecidableEq, Repr

inductive GateAOutcome where
  | pass
  | fail
  | unknown
  | unsupported
  deriving DecidableEq, Repr

structure GateAResult where
  outcome : GateAOutcome
  reasons : List ReasonCode
  critical : Bool
  perRemote : List RemoteReconciliation
  totalDelta : Int
  totalPending : Int
  deriving DecidableEq, Repr

/-- `if (condition) out.push(reason)`. -/
def pushIf (condition : Bool) (reason : ReasonCode) : List ReasonCode := if condition then [reason] else []

@[simp] theorem pushIf_eq_nil {condition : Bool} {reason : ReasonCode} :
    pushIf condition reason = [] ↔ condition = false := by
  cases condition <;> simp [pushIf]

/-- Input-contract failures. -/
def missingInputReasons (input : ProofInput) : List ReasonCode :=
  let p := input.provenance
  (pushIf (p.manifestHash = none || p.policyHash = none) .i01NoApprovedBaseline ++
    pushIf (p.sourceLockCommitSha = none || p.adapterId = none || p.adapterVersion = none)
      .i02NoSourceLockVersion ++
    pushIf (input.census ≠ .completeFromDeploymentBlock) .i03CensusIncomplete ++
    pushIf (input.untrackedRemotes.length > 0) .b02UntrackedRemoteLiability ++
    pushIf (input.cut ≠ .closed) .i05CausalCutOpen ++
    pushIf (!input.freshness.fresh) .i06StaleObservation ++
    pushIf (input.freshness.independentWitnessGroups < input.freshness.requiredWitnessGroups)
      .i04NoPinnedBlock ++
    pushIf (input.remotes.length = 0) .i07MissingObservation ++
    input.remotes.flatMap fun r =>
      pushIf (r.transferredBalance = none || r.remoteTotalSupply = none) .i07MissingObservation ++
        pushIf (r.homePin = none || r.remotePin = none) .i04NoPinnedBlock ++
        pushIf (!r.scale.established) .i08UnknownTokenScale).eraseDups

/-- Shapes the engine refuses to interpret. -/
def unsupportedReasons (input : ProofInput) : List ReasonCode :=
  (pushIf (input.family ≠ supportedFamily) .u01UnsupportedFamily ++
    input.remotes.flatMap fun r =>
      pushIf (!r.fingerprintRecognised) .u02UnknownFingerprint ++
        pushIf (!r.tokenBehaviourCanonical) .u03UnsupportedTokenBehaviour ++
        pushIf (!r.routeSingleHop) .u04UnsupportedRoute ++
        pushIf (r.initialReserveImbalance ≠ 0) .u01UnsupportedFamily).eraseDups

def inRange (v : Int) : Bool := v ≥ 0 && v ≤ maxUint256

/-- The filter of `reconcileRemote`: the envelope travels on the remote's route. -/
def ofRemote (remote : RemoteObservation) (p : PendingEnvelope) : Bool :=
  p.remoteBlockchainId = remote.remoteBlockchainId && p.remoteAddress = remote.remoteAddress

def reconcileRemote (remote : RemoteObservation) (input : ProofInput) : Option RemoteReconciliation :=
  match remote.transferredBalance, remote.remoteTotalSupply with
  | some d, some s =>
    let mine := input.pending.filter (ofRemote remote)
    let h2r := ((mine.filter (·.direction = .homeToRemote)).map (·.amount)).sum
    let r2h := ((mine.filter (·.direction = .remoteToHome)).map (·.amount)).sum
    some
      { remoteBlockchainId := remote.remoteBlockchainId
        remoteAddress := remote.remoteAddress
        transferredBalance := d
        remoteTotalSupply := s
        delta := d - s
        pendingHomeToRemote := h2r
        pendingRemoteToHome := r2h
        pendingTotal := h2r + r2h
        reconciled := d - s = h2r + r2h }
  | _, _ => none

/-- The result of a check that fails before any arithmetic. -/
def GateAResult.refused (outcome : GateAOutcome) (reasons : List ReasonCode) : GateAResult where
  outcome
  reasons
  critical := false
  perRemote := []
  totalDelta := 0
  totalPending := 0

/-- The per-effect findings. -/
def effectReasons (input : ProofInput) : List ReasonCode :=
  input.effects.flatMap fun e =>
    pushIf e.duplicateEffect .a03DuplicateEconomicEffect ++
      pushIf (!e.hasUniqueAuthorisedSource || e.causalSourceFact = none) .a04UnauthorisedMint ++
      pushIf (!e.routeMatchesSource) .a05RouteMismatch

def livenessReasons (input : ProofInput) : List ReasonCode :=
  pushIf ((input.pending.filter fun p => p.ageSeconds > input.pendingAgeLimitSeconds).length > 0)
    .l01PendingAgeExceeded

/-- `perRemote` in `evaluateGateA`. -/
def reconciliations (input : ProofInput) : List RemoteReconciliation :=
  input.remotes.filterMap (reconcileRemote · input)

/-- The part of `evaluateGateA` behind the input checks. -/
def reconcile (input : ProofInput) : GateAResult :=
  let perRemote := reconciliations input
  let effectReasons := effectReasons input
  let liveness := livenessReasons input
  let result := fun outcome reasons critical =>
    { outcome, reasons, critical, perRemote
      totalDelta := (perRemote.map (·.delta)).sum
      totalPending := (perRemote.map (·.pendingTotal)).sum : GateAResult }
  if effectReasons ≠ [] then result .fail (effectReasons ++ liveness).eraseDups true
  else if perRemote.filter (·.delta < 0) ≠ [] then
    result .fail (.a01ExcessRemoteRepresentation :: liveness).eraseDups true
  else if perRemote.filter (!·.reconciled) ≠ [] then
    result .unknown (.a02DeltaUnexplained :: liveness).eraseDups false
  else result .pass (.a00Reconciled :: liveness).eraseDups false

def evaluateGateA (input : ProofInput) : GateAResult :=
  if unsupportedReasons input ≠ [] then .refused .unsupported (unsupportedReasons input)
  else if missingInputReasons input ≠ [] then .refused .unknown (missingInputReasons input)
  else if input.remotes.any fun r =>
      !inRange (r.transferredBalance.getD 0) || !inRange (r.remoteTotalSupply.getD 0) ||
        !inRange r.scale.tokenMultiplier then
    .refused .unknown [.a06ArithmeticOutOfRange]
  else reconcile input

/-! ## The conditions behind the checks -/

/-- A shape the engine was not verified for. -/
def Unsupported (input : ProofInput) : Prop :=
  input.family ≠ supportedFamily ∨ ∃ r ∈ input.remotes,
    r.fingerprintRecognised = false ∨ r.tokenBehaviourCanonical = false ∨ r.routeSingleHop = false ∨
      r.initialReserveImbalance ≠ 0

/-- The remote is observed, pinned on both chains, and its scale is established. -/
structure Observed (r : RemoteObservation) : Prop where
  balance : r.transferredBalance ≠ none
  supply : r.remoteTotalSupply ≠ none
  homePin : r.homePin ≠ none
  remotePin : r.remotePin ≠ none
  scale : r.scale.established = true

/-- The whole input contract. -/
structure ContractComplete (input : ProofInput) : Prop where
  manifest : input.provenance.manifestHash ≠ none
  policy : input.provenance.policyHash ≠ none
  sourceLock : input.provenance.sourceLockCommitSha ≠ none
  adapter : input.provenance.adapterId ≠ none
  version : input.provenance.adapterVersion ≠ none
  census : input.census = .completeFromDeploymentBlock
  tracked : input.untrackedRemotes = []
  cut : input.cut = .closed
  fresh : input.freshness.fresh = true
  witnesses : input.freshness.requiredWitnessGroups ≤ input.freshness.independentWitnessGroups
  remotes : input.remotes ≠ []
  observed : ∀ r ∈ input.remotes, Observed r

/-- A value of the EVM's `uint256`. -/
def Uint256 (v : Int) : Prop := 0 ≤ v ∧ v ≤ maxUint256

/-- Balances, supplies and multipliers of the remotes are `uint256` values. -/
def AmountsInRange (input : ProofInput) : Prop :=
  ∀ r ∈ input.remotes, Uint256 (r.transferredBalance.getD 0) ∧ Uint256 (r.remoteTotalSupply.getD 0) ∧
    Uint256 r.scale.tokenMultiplier

/-- An effect that is a proven breach on its own. -/
def BadEffect (e : CreditedEffect) : Prop :=
  e.duplicateEffect = true ∨ e.hasUniqueAuthorisedSource = false ∨ e.causalSourceFact = none ∨
    e.routeMatchesSource = false

/-- `D` and `S` of a remote, where it is observed. -/
def balanceOf (r : RemoteObservation) : Int := r.transferredBalance.getD 0
def supplyOf (r : RemoteObservation) : Int := r.remoteTotalSupply.getD 0

/-- The pending amount on the route of a remote. -/
def pendingOf (input : ProofInput) (r : RemoteObservation) : Int :=
  ((input.pending.filter (ofRemote r)).map (·.amount)).sum

/-- All checks before the arithmetic are satisfied. -/
def Admissible (input : ProofInput) : Prop :=
  ¬ Unsupported input ∧ ContractComplete input ∧ AmountsInRange input

theorem unsupportedReasons_ne_nil {input : ProofInput} : unsupportedReasons input ≠ [] ↔ Unsupported input := by
  simp only [unsupportedReasons, ne_eq, eraseDups_eq_nil, List.append_eq_nil_iff, List.flatMap_eq_nil_iff,
    pushIf_eq_nil, Unsupported]
  constructor
  · intro h
    by_contra hn
    push Not at hn
    exact h ⟨by simp [hn.1], fun r hr => by simpa [and_assoc] using hn.2 r hr⟩
  · rintro (h | ⟨r, hr, h⟩) ⟨h1, h2⟩
    · simp [h] at h1
    · have := h2 r hr
      simp_all

theorem missingInputReasons_eq_nil {input : ProofInput} :
    missingInputReasons input = [] ↔ ContractComplete input := by
  simp only [missingInputReasons, eraseDups_eq_nil, List.append_eq_nil_iff, List.flatMap_eq_nil_iff,
    pushIf_eq_nil, Bool.or_eq_false_iff, decide_eq_false_iff_not, Bool.not_eq_false', not_lt, ne_eq, not_not,
    Nat.le_zero_eq, List.length_eq_zero_iff]
  constructor
  · rintro ⟨⟨⟨⟨⟨⟨⟨⟨⟨h1, h2⟩, ⟨h3, h4⟩, h5⟩, h6⟩, h7⟩, h8⟩, h9⟩, h10⟩, h11⟩, h12⟩
    exact ⟨h1, h2, h3, h4, h5, h6, h7, h8, h9, h10, h11,
      fun r hr => ⟨(h12 r hr).1.1.1, (h12 r hr).1.1.2, (h12 r hr).1.2.1, (h12 r hr).1.2.2, (h12 r hr).2⟩⟩
  · intro h
    exact ⟨⟨⟨⟨⟨⟨⟨⟨⟨h.manifest, h.policy⟩, ⟨h.sourceLock, h.adapter⟩, h.version⟩, h.census⟩, h.tracked⟩, h.cut⟩,
      h.fresh⟩, h.witnesses⟩, h.remotes⟩, fun r hr => ⟨⟨⟨(h.observed r hr).balance, (h.observed r hr).supply⟩,
        (h.observed r hr).homePin, (h.observed r hr).remotePin⟩, (h.observed r hr).scale⟩⟩

theorem inRange_iff {v : Int} : inRange v = true ↔ Uint256 v := by
  simp [inRange, Uint256]

theorem outOfRange_iff {input : ProofInput} :
    (input.remotes.any fun r => !inRange (r.transferredBalance.getD 0) || !inRange (r.remoteTotalSupply.getD 0) ||
      !inRange r.scale.tokenMultiplier) = false ↔ AmountsInRange input := by
  simp only [List.any_eq_false, Bool.or_eq_true, Bool.not_eq_true', not_or, Bool.not_eq_false, inRange_iff,
    AmountsInRange, and_assoc]

theorem effectReasons_ne_nil {input : ProofInput} :
    effectReasons input ≠ [] ↔ ∃ e ∈ input.effects, BadEffect e := by
  simp only [effectReasons, ne_eq, List.flatMap_eq_nil_iff, List.append_eq_nil_iff, pushIf_eq_nil, BadEffect]
  push Not
  refine exists_congr fun e => and_congr_right fun _ => ?_
  cases e.duplicateEffect <;> cases e.hasUniqueAuthorisedSource <;> cases e.causalSourceFact <;>
    cases e.routeMatchesSource <;> simp

/-! ## Outcomes of the gate -/

theorem sum_by_direction (l : List PendingEnvelope) :
    ((l.filter (·.direction = .homeToRemote)).map (·.amount)).sum +
      ((l.filter (·.direction = .remoteToHome)).map (·.amount)).sum = (l.map (·.amount)).sum := by
  induction l with
  | nil => rfl
  | cons p l ih => cases hd : p.direction <;> simp [hd, ← ih] <;> ring

/-- The reconciliation of an observed remote. -/
theorem reconcileRemote_observed {input : ProofInput} {r : RemoteObservation} (h : Observed r) :
    ∃ x, reconcileRemote r input = some x ∧ x.delta = balanceOf r - supplyOf r ∧
      x.pendingTotal = pendingOf input r ∧
      (x.reconciled = true ↔ balanceOf r - supplyOf r = pendingOf input r) := by
  obtain ⟨d, hd⟩ := Option.ne_none_iff_exists'.1 h.balance
  obtain ⟨s, hs⟩ := Option.ne_none_iff_exists'.1 h.supply
  simp only [reconcileRemote, balanceOf, supplyOf, pendingOf, hd, hs, Option.getD_some, sum_by_direction]
  exact ⟨_, rfl, rfl, rfl, decide_eq_true_iff⟩

section Reconciliations

variable {input : ProofInput} (h : ∀ r ∈ input.remotes, Observed r)
include h

omit h in
theorem mem_reconciliations {x : RemoteReconciliation} :
    x ∈ reconciliations input ↔ ∃ r ∈ input.remotes, reconcileRemote r input = some x := by
  simp [reconciliations]

/-- A property of every reconciliation is one of every observed remote. -/
theorem forall_reconciliations {P : Int → Int → Prop} :
    (∀ x ∈ reconciliations input, P x.delta x.pendingTotal) ↔
      ∀ r ∈ input.remotes, P (balanceOf r - supplyOf r) (pendingOf input r) := by
  constructor
  · intro hx r hr
    obtain ⟨x, hrx, hd, hp, -⟩ := reconcileRemote_observed (h r hr)
    rw [← hd, ← hp]
    exact hx x (mem_reconciliations.2 ⟨r, hr, hrx⟩)
  · intro hr x hx
    obtain ⟨r, hrm, hrx⟩ := mem_reconciliations.1 hx
    obtain ⟨y, hry, hd, hp, -⟩ := reconcileRemote_observed (h r hrm)
    cases hrx.symm.trans hry
    rw [hd, hp]
    exact hr r hrm

theorem reconciled_iff {x : RemoteReconciliation} (hx : x ∈ reconciliations input) :
    x.reconciled = true ↔ x.delta = x.pendingTotal := by
  obtain ⟨r, hrm, hrx⟩ := mem_reconciliations.1 hx
  obtain ⟨y, hry, hd, hp, hrec⟩ := reconcileRemote_observed (h r hrm)
  cases hrx.symm.trans hry
  rw [hrec, hd, hp]

/-- The totals over the reconciliations are sums over the remotes. -/
theorem sum_reconciliations :
    ((reconciliations input).map (·.delta)).sum = (input.remotes.map fun r => balanceOf r - supplyOf r).sum ∧
      ((reconciliations input).map (·.pendingTotal)).sum = (input.remotes.map (pendingOf input)).sum := by
  unfold reconciliations
  have key : ∀ l : List RemoteObservation, (∀ r ∈ l, Observed r) →
      ((l.filterMap (reconcileRemote · input)).map (·.delta)).sum = (l.map fun r => balanceOf r - supplyOf r).sum ∧
      ((l.filterMap (reconcileRemote · input)).map (·.pendingTotal)).sum = (l.map (pendingOf input)).sum := by
    intro l
    induction l with
    | nil => intro _; exact ⟨rfl, rfl⟩
    | cons r l ih =>
      intro hl
      obtain ⟨x, hrx, hd, hp, -⟩ : ∃ x, reconcileRemote r input = some x ∧ _ :=
        reconcileRemote_observed (hl r (by simp))
      obtain ⟨ih1, ih2⟩ := ih fun y hy => hl y (by simp [hy])
      simp only [List.filterMap_cons, hrx, List.map_cons, List.sum_cons, hd, hp, ih1, ih2, and_self]
  exact key input.remotes h

end Reconciliations

/-- The arithmetic of an admissible input agrees: no bad effect, no remote in excess of its
accounting, and every difference explained by what is pending. -/
structure Reconciles (input : ProofInput) : Prop where
  effects : ∀ e ∈ input.effects, ¬ BadEffect e
  covered : ∀ r ∈ input.remotes, supplyOf r ≤ balanceOf r
  explained : ∀ r ∈ input.remotes, balanceOf r - supplyOf r = pendingOf input r

/-- A proven breach: a bad effect, or a remote with more supply than accounted balance. -/
def Breach (input : ProofInput) : Prop :=
  (∃ e ∈ input.effects, BadEffect e) ∨ ∃ r ∈ input.remotes, balanceOf r < supplyOf r

theorem evaluateGateA_admissible {input : ProofInput} (h : Admissible input) :
    evaluateGateA input = reconcile input := by
  obtain ⟨hu, hc, hr⟩ := h
  rw [← unsupportedReasons_ne_nil] at hu
  rw [← missingInputReasons_eq_nil] at hc
  rw [← outOfRange_iff] at hr
  simp only [evaluateGateA, if_neg hu, hc, hr, ne_eq, not_true_eq_false, if_false, Bool.false_eq_true]

/-- A refused input is neither passed nor failed, and nothing was computed from it. -/
theorem evaluateGateA_refused {input : ProofInput} (h : ¬ Admissible input) :
    ((evaluateGateA input).outcome = .unknown ∨ (evaluateGateA input).outcome = .unsupported) ∧
      (evaluateGateA input).critical = false ∧ (evaluateGateA input).perRemote = [] := by
  unfold evaluateGateA
  split
  · exact ⟨Or.inr rfl, rfl, rfl⟩
  · split
    · exact ⟨Or.inl rfl, rfl, rfl⟩
    · split
      · exact ⟨Or.inl rfl, rfl, rfl⟩
      · rename_i hu hc hr
        rw [unsupportedReasons_ne_nil] at hu
        rw [not_not, missingInputReasons_eq_nil] at hc
        rw [Bool.not_eq_true, outOfRange_iff] at hr
        exact absurd ⟨hu, hc, hr⟩ h

/-- What the arithmetic part answers, by what the input reconciles to. -/
theorem reconcile_outcome {input : ProofInput} (h : ∀ r ∈ input.remotes, Observed r) :
    (Breach input → (reconcile input).outcome = .fail ∧ (reconcile input).critical = true) ∧
      (Reconciles input → (reconcile input).outcome = .pass ∧ (reconcile input).critical = false) ∧
      (¬ Breach input → ¬ Reconciles input →
        (reconcile input).outcome = .unknown ∧ (reconcile input).critical = false) := by
  -- the three lists the code tests for emptiness, as what they stand for
  have hexcess : (reconciliations input).filter (·.delta < 0) ≠ [] ↔ ∃ r ∈ input.remotes, balanceOf r < supplyOf r := by
    have := not_congr (forall_reconciliations h (P := fun d _ => 0 ≤ d))
    push Not at this
    rw [filter_ne_nil]
    simpa [sub_neg] using this
  have hmismatch : (reconciliations input).filter (!·.reconciled) ≠ [] ↔
      ∃ r ∈ input.remotes, balanceOf r - supplyOf r ≠ pendingOf input r := by
    have := not_congr (forall_reconciliations h (P := fun d p => d = p))
    push Not at this
    rw [filter_ne_nil, ← this]
    refine exists_congr fun x => and_congr_right fun hx => ?_
    rw [Bool.not_eq_true', ← Bool.not_eq_true, reconciled_iff h hx]
  have heffect : effectReasons input ≠ [] ↔ ∃ e ∈ input.effects, BadEffect e := effectReasons_ne_nil
  refine ⟨fun hb => ?_, fun hr => ?_, fun hb hr => ?_⟩ <;> unfold reconcile
  · by_cases he : ∃ e ∈ input.effects, BadEffect e
    · simp only [if_pos (heffect.2 he), and_self]
    · rcases hb with hb | hb
      · exact absurd hb he
      · simp only [if_neg (mt heffect.1 he), if_pos (hexcess.2 hb), and_self]
  · have he : ¬ ∃ e ∈ input.effects, BadEffect e := fun ⟨e, he, hbad⟩ => hr.effects e he hbad
    have hx : ¬ ∃ r ∈ input.remotes, balanceOf r < supplyOf r :=
      fun ⟨r, hrm, hlt⟩ => absurd (hr.covered r hrm) (not_le.2 hlt)
    have hm : ¬ ∃ r ∈ input.remotes, balanceOf r - supplyOf r ≠ pendingOf input r :=
      fun ⟨r, hrm, hne⟩ => hne (hr.explained r hrm)
    simp only [if_neg (mt heffect.1 he), if_neg (mt hexcess.1 hx), if_neg (mt hmismatch.1 hm), and_self]
  · have he : ¬ ∃ e ∈ input.effects, BadEffect e := fun he => hb (Or.inl he)
    have hx : ¬ ∃ r ∈ input.remotes, balanceOf r < supplyOf r := fun hx => hb (Or.inr hx)
    have hm : ∃ r ∈ input.remotes, balanceOf r - supplyOf r ≠ pendingOf input r := by
      by_contra hm
      push Not at hm he hx
      exact hr ⟨he, hx, hm⟩
    simp only [if_neg (mt heffect.1 he), if_neg (mt hexcess.1 hx), if_pos (hmismatch.2 hm), and_self]

theorem evaluateGateA_pass {input : ProofInput} :
    (evaluateGateA input).outcome = .pass ↔ Admissible input ∧ Reconciles input := by
  by_cases ha : Admissible input
  · obtain ⟨hfail, hpass, hunknown⟩ := reconcile_outcome ha.2.1.observed
    rw [evaluateGateA_admissible ha]
    by_cases hr : Reconciles input
    · simp [hpass hr, ha, hr]
    · by_cases hb : Breach input
      · simp [hfail hb, hr]
      · simp [hunknown hb hr, hr]
  · have := (evaluateGateA_refused ha).1
    simp only [ha, false_and, iff_false]
    rcases this with h | h <;> rw [h] <;> decide

theorem evaluateGateA_fail {input : ProofInput} :
    (evaluateGateA input).outcome = .fail ↔ Admissible input ∧ Breach input := by
  by_cases ha : Admissible input
  · obtain ⟨hfail, hpass, hunknown⟩ := reconcile_outcome ha.2.1.observed
    rw [evaluateGateA_admissible ha]
    by_cases hb : Breach input
    · simp [hfail hb, ha, hb]
    · by_cases hr : Reconciles input
      · simp [hpass hr, hb]
      · simp [hunknown hb hr, hb]
  · have := (evaluateGateA_refused ha).1
    simp only [ha, false_and, iff_false]
    rcases this with h | h <;> rw [h] <;> decide

/-- Gate A is critical exactly when it fails. -/
theorem evaluateGateA_critical {input : ProofInput} :
    (evaluateGateA input).critical = true ↔ (evaluateGateA input).outcome = .fail := by
  rw [evaluateGateA_fail]
  by_cases ha : Admissible input
  · obtain ⟨hfail, hpass, hunknown⟩ := reconcile_outcome ha.2.1.observed
    rw [evaluateGateA_admissible ha]
    by_cases hb : Breach input
    · simp [hfail hb, ha, hb]
    · by_cases hr : Reconciles input
      · simp [hpass hr, hb]
      · simp [hunknown hb hr, hb]
  · simp [(evaluateGateA_refused ha).2.1, ha]

end IcttSentinel.InvariantCore
