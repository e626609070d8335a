/-
The evaluation of a rearranged input. Result, verdict, set of reasons, measurement, pending report and evidence do
not depend on the order of the remotes, the pending entries, the effects or the untracked remotes; the list of the
reasons is collected along them.
-/
import IcttSentinel.InvariantCore.Engine
import IcttSentinel.Lib.Distinct

namespace IcttSentinel.InvariantCore

open IcttSentinel.Domain IcttSentinel.Lib

/-- The lists of an input in another order. -/
structure Rearrangement (input : ProofInput) where
  remotes : List RemoteObservation
  pending : List PendingEnvelope
  effects : List CreditedEffect
  untrackedRemotes : List String
  remotes_perm : remotes.Perm input.remotes
  pending_perm : pending.Perm input.pending
  effects_perm : effects.Perm input.effects
  untracked_perm : untrackedRemotes.Perm input.untrackedRemotes

def Rearrangement.input {input : ProofInput} (order : Rearrangement input) : ProofInput :=
  { input with
    remotes := order.remotes
    pending := order.pending
    effects := order.effects
    untrackedRemotes := order.untrackedRemotes }

/-- The order the lists are in. -/
def Rearrangement.same (input : ProofInput) : Rearrangement input where
  remotes := input.remotes
  pending := input.pending
  effects := input.effects
  untrackedRemotes := input.untrackedRemotes
  remotes_perm := .refl _
  pending_perm := .refl _
  effects_perm := .refl _
  untracked_perm := .refl _

/-! ## The reasons of a phase, as parts -/

/-- The fault of the whole input in `unsupportedReasons`. -/
def familyFaults (input : ProofInput) : List ReasonCode := pushIf (input.family ≠ supportedFamily) .u01UnsupportedFamily

/-- The faults of a remote in `unsupportedReasons`. -/
def shapeFaults (r : RemoteObservation) : List ReasonCode :=
  pushIf (!r.fingerprintRecognised) .u02UnknownFingerprint ++
    pushIf (!r.tokenBehaviourCanonical) .u03UnsupportedTokenBehaviour ++
    pushIf (!r.routeSingleHop) .u04UnsupportedRoute ++
    pushIf (r.initialReserveImbalance ≠ 0) .u01UnsupportedFamily

/-- The faults of the whole input in `missingInputReasons`. -/
def contractFaults (input : ProofInput) : List ReasonCode :=
  let p := input.provenance
  pushIf (p.manifestHash = none || p.policyHash = none) .i01NoApprovedBaseline ++
    pushIf (p.sourceLockCommitSha = none || p.adapterId = none || p.adapterVersion = none)
      .i02NoSourceLockVersion ++
    pushIf (input.census ≠ .completeFromDeploymentBlock) .i03CensusIncomplete ++
    pushIf (input.untrackedRemotes.length > 0) .b02UntrackedRemoteLiability ++
    pushIf (input.cut ≠ .closed) .i05CausalCutOpen ++
    pushIf (!input.freshness.fresh) .i06StaleObservation ++
    pushIf (input.freshness.independentWitnessGroups < input.freshness.requiredWitnessGroups)
      .i04NoPinnedBlock ++
    pushIf (input.remotes.length = 0) .i07MissingObservation

/-- The faults of a remote in `missingInputReasons`. -/
def observationFaults (r : RemoteObservation) : List ReasonCode :=
  pushIf (r.transferredBalance = none || r.remoteTotalSupply = none) .i07MissingObservation ++
    pushIf (r.homePin = none || r.remotePin = none) .i04NoPinnedBlock ++
    pushIf (!r.scale.established) .i08UnknownTokenScale

/-- The faults of an effect in `evaluateGateA`. -/
def effectFaults (e : CreditedEffect) : List ReasonCode :=
  pushIf e.duplicateEffect .a03DuplicateEconomicEffect ++
    pushIf (!e.hasUniqueAuthorisedSource || e.causalSourceFact = none) .a04UnauthorisedMint ++
    pushIf (!e.routeMatchesSource) .a05RouteMismatch

theorem unsupportedReasons_eq (input : ProofInput) :
    unsupportedReasons input = (familyFaults input ++ input.remotes.flatMap shapeFaults ++ []).eraseDups := by
  rw [List.append_nil]
  rfl

theorem missingInputReasons_eq (input : ProofInput) :
    missingInputReasons input = (contractFaults input ++ input.remotes.flatMap observationFaults ++ []).eraseDups := by
  rw [List.append_nil]
  rfl

/-! ## What a rearrangement leaves -/

section Rearranged

variable {input : ProofInput} (order : Rearrangement input)

theorem contractFaults_input : contractFaults order.input = contractFaults input := by
  unfold contractFaults Rearrangement.input
  rw [order.untracked_perm.length_eq, order.remotes_perm.length_eq]

theorem mem_unsupportedReasons_input {reason : ReasonCode} :
    reason ∈ unsupportedReasons order.input ↔ reason ∈ unsupportedReasons input := by
  rw [unsupportedReasons_eq, unsupportedReasons_eq, List.mem_eraseDups, List.mem_eraseDups, List.append_nil,
    List.append_nil, List.mem_append, List.mem_append]
  exact or_congr Iff.rfl (order.remotes_perm.flatMap_right shapeFaults).mem_iff

theorem mem_missingInputReasons_input {reason : ReasonCode} :
    reason ∈ missingInputReasons order.input ↔ reason ∈ missingInputReasons input := by
  rw [missingInputReasons_eq, missingInputReasons_eq, contractFaults_input, List.mem_eraseDups, List.mem_eraseDups,
    List.append_nil, List.append_nil, List.mem_append, List.mem_append]
  exact or_congr Iff.rfl (order.remotes_perm.flatMap_right observationFaults).mem_iff

theorem mem_effectReasons_input {reason : ReasonCode} :
    reason ∈ effectReasons order.input ↔ reason ∈ effectReasons input :=
  (order.effects_perm.flatMap_right effectFaults).mem_iff

theorem ne_nil_congr {α : Type} {l m : List α} (h : ∀ a, a ∈ l ↔ a ∈ m) : l ≠ [] ↔ m ≠ [] := by
  rw [ne_eq, ne_eq, List.eq_nil_iff_forall_not_mem, List.eq_nil_iff_forall_not_mem]
  exact not_congr (forall_congr' fun a => not_congr (h a))

theorem unsupported_input : Unsupported order.input ↔ Unsupported input := by
  rw [← unsupportedReasons_ne_nil, ← unsupportedReasons_ne_nil]
  exact ne_nil_congr fun _ => mem_unsupportedReasons_input order

theorem contractComplete_input : ContractComplete order.input ↔ ContractComplete input := by
  rw [← missingInputReasons_eq_nil, ← missingInputReasons_eq_nil]
  exact not_iff_not.1 (ne_nil_congr fun _ => mem_missingInputReasons_input order)

theorem amountsInRange_input : AmountsInRange order.input ↔ AmountsInRange input :=
  forall_congr' fun _ => imp_congr_left order.remotes_perm.mem_iff

theorem admissible_input : Admissible order.input ↔ Admissible input := by
  unfold Admissible
  rw [unsupported_input, contractComplete_input, amountsInRange_input]

theorem livenessReasons_input : livenessReasons order.input = livenessReasons input := by
  unfold livenessReasons
  exact congrArg (fun n => pushIf (decide (n > 0)) _) (order.pending_perm.filter _).length_eq

theorem reconcileRemote_input (r : RemoteObservation) : reconcileRemote r order.input = reconcileRemote r input := by
  have hsum : ∀ p : PendingEnvelope → Bool, (((order.pending.filter (ofRemote r)).filter p).map (·.amount)).sum =
      (((input.pending.filter (ofRemote r)).filter p).map (·.amount)).sum :=
    fun p => (((order.pending_perm.filter _).filter _).map _).sum_eq
  unfold reconcileRemote
  cases r.transferredBalance with
  | none => rfl
  | some d =>
    cases r.remoteTotalSupply with
    | none => rfl
    | some s => simp only [Rearrangement.input, hsum]

theorem reconciliations_input : (reconciliations order.input).Perm (reconciliations input) := by
  unfold reconciliations
  rw [List.filterMap_congr fun r _ => reconcileRemote_input order r]
  exact order.remotes_perm.filterMap _

theorem filter_ne_nil_congr {α : Type} {l m : List α} (h : l.Perm m) (p : α → Bool) :
    l.filter p ≠ [] ↔ m.filter p ≠ [] :=
  ne_nil_congr fun _ => (h.filter p).mem_iff

/-- Two answers of the gate that differ in the order of their parts at most. -/
structure SameGateA (a b : GateAResult) : Prop where
  outcome : a.outcome = b.outcome
  critical : a.critical = b.critical
  reasons : ∀ reason, reason ∈ a.reasons ↔ reason ∈ b.reasons
  perRemote : a.perRemote.Perm b.perRemote
  totalDelta : a.totalDelta = b.totalDelta
  totalPending : a.totalPending = b.totalPending

theorem reconcile_input : SameGateA (reconcile order.input) (reconcile input) := by
  have hperm := reconciliations_input order
  have hdelta := (hperm.map (·.delta)).sum_eq
  have hpending := (hperm.map (·.pendingTotal)).sum_eq
  have heffects : effectReasons order.input ≠ [] ↔ effectReasons input ≠ [] :=
    ne_nil_congr fun _ => mem_effectReasons_input order
  have hliveness := livenessReasons_input order
  unfold reconcile
  simp only [heffects, filter_ne_nil_congr hperm]
  split
  · refine ⟨rfl, rfl, fun reason => ?_, hperm, hdelta, hpending⟩
    show reason ∈ (effectReasons order.input ++ livenessReasons order.input).eraseDups ↔ _
    rw [List.mem_eraseDups, List.mem_append, mem_effectReasons_input, hliveness, ← List.mem_append, ← List.mem_eraseDups]
  · split
    · exact ⟨rfl, rfl, fun reason => by rw [hliveness], hperm, hdelta, hpending⟩
    · split
      · exact ⟨rfl, rfl, fun reason => by rw [hliveness], hperm, hdelta, hpending⟩
      · exact ⟨rfl, rfl, fun reason => by rw [hliveness], hperm, hdelta, hpending⟩

theorem SameGateA.refused {outcome : GateAOutcome} {reasons reasons' : List ReasonCode}
    (h : ∀ reason, reason ∈ reasons ↔ reason ∈ reasons') :
    SameGateA (.refused outcome reasons) (.refused outcome reasons') :=
  ⟨rfl, rfl, h, .refl _, rfl, rfl⟩

theorem evaluateGateA_input : SameGateA (evaluateGateA order.input) (evaluateGateA input) := by
  have hunsupported : unsupportedReasons order.input ≠ [] ↔ unsupportedReasons input ≠ [] :=
    ne_nil_congr fun _ => mem_unsupportedReasons_input order
  have hmissing : missingInputReasons order.input ≠ [] ↔ missingInputReasons input ≠ [] :=
    ne_nil_congr fun _ => mem_missingInputReasons_input order
  have hrange : (order.input.remotes.any fun r => !inRange (r.transferredBalance.getD 0) ||
      !inRange (r.remoteTotalSupply.getD 0) || !inRange r.scale.tokenMultiplier) =
        input.remotes.any fun r => !inRange (r.transferredBalance.getD 0) ||
          !inRange (r.remoteTotalSupply.getD 0) || !inRange r.scale.tokenMultiplier := by
    rw [Bool.eq_iff_iff, List.any_eq_true, List.any_eq_true]
    exact exists_congr fun r => and_congr_left fun _ => order.remotes_perm.mem_iff
  unfold evaluateGateA
  simp only [hunsupported, hmissing, hrange]
  split
  · exact .refused fun _ => mem_unsupportedReasons_input order
  · split
    · exact .refused fun _ => mem_missingInputReasons_input order
    · split
      · exact .refused fun _ => Iff.rfl
      · exact reconcile_input order

/-- The second gate converts every remote, or names the one error there is; the order decides neither. -/
theorem mapM_liabilityOf_cases {l : List RemoteObservation} (h : ∀ r ∈ l, Observed r) :
    ((∃ r ∈ l, liabilityOf r = .error .a06ArithmeticOutOfRange) ∧ l.mapM liabilityOf = .error .a06ArithmeticOutOfRange) ∨
      ∃ xs, l.mapM liabilityOf = .ok xs ∧ l.map liabilityOf = xs.map .ok := by
  induction l with
  | nil => exact Or.inr ⟨[], rfl, rfl⟩
  | cons r l ih =>
    have hr : liabilityOf r = .error .a06ArithmeticOutOfRange ∨ ∃ x, liabilityOf r = .ok x := by
      obtain ⟨d, hd⟩ := Option.ne_none_iff_exists'.1 (h r List.mem_cons_self).balance
      cases hscaled : toHomeUnits d r.scale.tokenMultiplier r.scale.multiplyOnRemote with
      | error e => exact Or.inl (by simp only [liabilityOf, hd, hscaled])
      | ok scaled =>
        right
        simp only [liabilityOf, hd, hscaled]
        exact ⟨_, rfl⟩
    rw [List.mapM_cons]
    rcases hr with herror | ⟨x, hx⟩
    · rw [herror]
      exact Or.inl ⟨⟨r, List.mem_cons_self, herror⟩, rfl⟩
    · rw [hx]
      rcases ih fun s hs => h s (List.mem_cons_of_mem r hs) with ⟨⟨s, hs, hserror⟩, herror⟩ | ⟨xs, hxs, hmap⟩
      · rw [herror]
        exact Or.inl ⟨⟨s, List.mem_cons_of_mem r hs, hserror⟩, rfl⟩
      · rw [hxs]
        exact Or.inr ⟨x :: xs, rfl, by rw [List.map_cons, List.map_cons, hx, hmap]⟩

theorem coverage_of_perm {escrow : Int} {xs ys : List RemoteLiability} (h : xs.Perm ys) :
    (coverage escrow xs).outcome = (coverage escrow ys).outcome ∧
      (coverage escrow xs).reasons = (coverage escrow ys).reasons := by
  unfold coverage
  simp only [(h.map (·.ceilHomeUnits)).sum_eq, and_self]

theorem evaluateGateB_input (h : ContractComplete input) :
    (evaluateGateB order.input true).outcome = (evaluateGateB input true).outcome ∧
      (evaluateGateB order.input true).reasons = (evaluateGateB input true).reasons := by
  have hobserved : ∀ r ∈ order.remotes, Observed r := fun r hr => h.observed r (order.remotes_perm.mem_iff.1 hr)
  rw [evaluateGateB_of_complete h, evaluateGateB_of_complete ((contractComplete_input order).2 h)]
  simp only [Rearrangement.input]
  cases input.homeEscrow.escrowBalance with
  | none => exact ⟨rfl, rfl⟩
  | some escrow =>
    cases input.homeEscrow.homePin with
    | none => exact ⟨rfl, rfl⟩
    | some pin =>
      have hmap := order.remotes_perm.map liabilityOf
      rcases mapM_liabilityOf_cases h.observed with ⟨⟨r, hr, hrerror⟩, herror⟩ | ⟨xs, hxs, hmapped⟩
      · rcases mapM_liabilityOf_cases hobserved with ⟨-, herror'⟩ | ⟨ys, hys, hmapped'⟩
        · rw [herror, herror']
          exact ⟨rfl, rfl⟩
        · have hmem : liabilityOf r ∈ ys.map Except.ok :=
            hmapped' ▸ List.mem_map_of_mem (order.remotes_perm.mem_iff.2 hr)
          rw [hrerror] at hmem
          simp at hmem
      · rcases mapM_liabilityOf_cases hobserved with ⟨⟨r, hr, hrerror⟩, -⟩ | ⟨ys, hys, hmapped'⟩
        · have hmem : liabilityOf r ∈ xs.map Except.ok :=
            hmapped ▸ List.mem_map_of_mem (order.remotes_perm.mem_iff.1 hr)
          rw [hrerror] at hmem
          simp at hmem
        · rw [hxs, hys]
          rw [hmapped, hmapped'] at hmap
          exact coverage_of_perm ((List.map_perm_map_iff fun _ _ h => Except.ok.inj h).1 hmap)

/-! ## The output -/

theorem pinRefs_input : pinRefs order.input = pinRefs input := by
  unfold pinRefs
  refine sortStrings_eraseDups_eq fun s => ((((order.remotes_perm.flatMap_right _).append_right _).filterMap id).map _).mem_iff

theorem pendingBreakdown_input :
    pendingBreakdown order.input (evaluateGateA order.input) = pendingBreakdown input (evaluateGateA input) := by
  have hgate := evaluateGateA_input order
  unfold pendingBreakdown
  rw [(hgate.perRemote.map (·.pendingHomeToRemote)).sum_eq, (hgate.perRemote.map (·.pendingRemoteToHome)).sum_eq,
    hgate.totalPending]
  show PendingBreakdown.mk _ _ _ order.pending.length (order.pending.filter _).length = _
  rw [order.pending_perm.length_eq, (order.pending_perm.filter _).length_eq]
  rfl

theorem measurementOf_input : measurementOf (evaluateGateA order.input) = measurementOf (evaluateGateA input) := by
  have hgate := evaluateGateA_input order
  unfold measurementOf
  rw [hgate.outcome, hgate.perRemote.length_eq, hgate.totalDelta, hgate.totalPending]

/-- Where the first gate passes, the input contract is complete. -/
theorem complete_of_pass (h : (evaluateGateA input).outcome = .pass) : ContractComplete input :=
  (evaluateGateA_pass.1 h).1.2.1

theorem combine_input : combine (evaluateGateA order.input)
      (evaluateGateB order.input ((evaluateGateA order.input).outcome = .pass)) =
    combine (evaluateGateA input) (evaluateGateB input ((evaluateGateA input).outcome = .pass)) := by
  have hgate := evaluateGateA_input order
  unfold combine
  rw [hgate.outcome]
  cases hpass : (evaluateGateA input).outcome with
  | pass =>
    rw [decide_eq_true rfl, (evaluateGateB_input order (complete_of_pass hpass)).1]
  | fail => rfl
  | unknown => rfl
  | unsupported => rfl

/-- The reasons of the rule before repetitions are removed. -/
def allReasons (input : ProofInput) : List ReasonCode :=
  (evaluateGateA input).reasons ++
    if (evaluateGateA input).outcome = .pass then (evaluateGateB input true).reasons else []

theorem evaluate_reasons (input : ProofInput) (hash : String → String) :
    (evaluateCanonicalErc20 input hash).output.reasons = (allReasons input).eraseDups := by
  unfold allReasons
  show (_ ++ if (evaluateGateA input).outcome = .pass then
    (evaluateGateB input ((evaluateGateA input).outcome = .pass)).reasons else []).eraseDups = _
  split
  · rename_i hpass
    rw [hpass]
    rfl
  · rfl

/-- All of the output but the list of the reasons and the digest is the same in every order. -/
theorem evaluate_input (hash : String → String) :
    (evaluateCanonicalErc20 order.input hash).output =
      { (evaluateCanonicalErc20 input hash).output with
        reasons := (allReasons order.input).eraseDups
        inputDigest := hash (canonicalInputString order.input) } := by
  rw [← evaluate_reasons order.input hash]
  unfold evaluateCanonicalErc20
  simp only [combine_input, measurementOf_input, pendingBreakdown_input, pinRefs_input,
    (evaluateGateA_input order).critical, (evaluateGateA_input order).perRemote.length_eq]
  rfl

theorem mem_allReasons_input {reason : ReasonCode} : reason ∈ allReasons order.input ↔ reason ∈ allReasons input := by
  have hgate := evaluateGateA_input order
  unfold allReasons
  rw [List.mem_append, List.mem_append, hgate.reasons, hgate.outcome]
  cases hpass : (evaluateGateA input).outcome with
  | pass => rw [(evaluateGateB_input order (complete_of_pass hpass)).2]
  | fail => rfl
  | unknown => rfl
  | unsupported => rfl

end Rearranged

end IcttSentinel.InvariantCore
