/-
The native remote, packages/invariant-core/src/native.ts: a reported upper bound of the outstanding supply
against the home coverage, and what may be claimed from it. Amounts are bigints and every `number` field holds
an integer.
-/
import IcttSentinel.InvariantCore.GateA

namespace IcttSentinel.InvariantCore

/-! ## Inputs and outputs -/

structure NativeSupplyComponents where
  totalMinted : Option Int
  initialReserveImbalance : Option Int
  burnedTxFeesAddressBalance : Option Int
  burnedForTransferAddressBalance : Option Int
  componentsFresh : Bool
  fingerprintRecognised : Bool
  deriving DecidableEq, Repr

/-- The allow list cannot be enumerated, so exclusivity needs every part. -/
structure MinterCensus where
  manifestRosterProvided : Bool
  genesisChainConfigRead : Bool
  activationRulesKnown : Bool
  roleHistoryCompleteFromActivation : Bool
  allCandidateRolesRead : Bool
  unexpectedRoleHolders : List String
  unauthorisedMintObserved : Bool
  epochsCovered : Int
  epochsExpected : Int
  deriving DecidableEq, Repr

structure BurnedFeeReporting where
  reportedRewardAlreadyInTotalMinted : Bool
  duplicateReportObserved : Bool
  openReportEnvelopes : Int
  deriving DecidableEq, Repr

structure NativeInput where
  components : NativeSupplyComponents
  census : MinterCensus
  feeReporting : BurnedFeeReporting
  eligibleHomeCoverage : Option Int
  trustworthySupplyLowerBound : Option Int
  collateralNeeded : Option Int
  acceptedCollateral : Option Int
  deriving DecidableEq, Repr

inductive NativeAssessment where
  | sufficient
  | indeterminate
  | unknown
  deriving DecidableEq, Repr

def NativeAssessment.text : NativeAssessment → String
  | .sufficient => "sufficient"
  | .indeterminate => "indeterminate"
  | .unknown => "unknown"

structure NativeIntermediates where
  created : Option Int
  burned : Option Int
  deriving DecidableEq, Repr

structure NativeResult where
  assessment : NativeAssessment
  reportedUpperBound : Option Int
  eligibleCoverage : Option Int
  headroom : Option Int
  critical : Bool
  minterExclusivityEstablished : Bool
  reasons : List ReasonCode
  intermediates : NativeIntermediates
  deriving DecidableEq, Repr

structure MinterAssessment where
  established : Bool
  critical : Bool
  reasons : List ReasonCode
  deriving DecidableEq, Repr

/-! ## The assessment -/

def allPresent (c : NativeSupplyComponents) : Bool :=
  c.totalMinted ≠ none && c.initialReserveImbalance ≠ none && c.burnedTxFeesAddressBalance ≠ none &&
    c.burnedForTransferAddressBalance ≠ none

/-- `complete` in `assessMinterCensus`. -/
def MinterCensus.complete (census : MinterCensus) : Bool :=
  census.manifestRosterProvided && census.genesisChainConfigRead && census.activationRulesKnown &&
    census.roleHistoryCompleteFromActivation && census.allCandidateRolesRead &&
    census.epochsCovered ≥ census.epochsExpected

/-- `critical` in `assessMinterCensus`: an extra minter or an unauthorised mint. -/
def MinterCensus.breached (census : MinterCensus) : Bool :=
  census.unexpectedRoleHolders.length > 0 || census.unauthorisedMintObserved

def assessMinterCensus (census : MinterCensus) : MinterAssessment where
  established := census.complete && !census.breached
  critical := census.breached
  reasons :=
    pushIf (census.unexpectedRoleHolders.length > 0) .cfgN01UnexpectedMinterRole ++
      pushIf census.unauthorisedMintObserved .cfgN02UnauthorisedNativeMint ++
      pushIf (!census.complete) .cfgN03NativeMinterCensusIncomplete

/-- `created` and `burned` in `assessNative`. -/
def NativeSupplyComponents.created (c : NativeSupplyComponents) : Int :=
  c.totalMinted.getD 0 + c.initialReserveImbalance.getD 0

def NativeSupplyComponents.burned (c : NativeSupplyComponents) : Int :=
  c.burnedTxFeesAddressBalance.getD 0 + c.burnedForTransferAddressBalance.getD 0

/-- An answer given before any bound: `empty` with a reason. -/
def NativeResult.refused (input : NativeInput) (minter : MinterAssessment) (reasons : List ReasonCode) : NativeResult where
  assessment := .unknown
  reportedUpperBound := none
  eligibleCoverage := input.eligibleHomeCoverage
  headroom := none
  critical := minter.critical
  minterExclusivityEstablished := minter.established
  reasons
  intermediates := { created := none, burned := none }

/-- The part of `assessNative` behind the coverage. -/
def assessBound (input : NativeInput) (minter : MinterAssessment) (reasons : List ReasonCode) (coverage : Int) :
    NativeResult :=
  let c := input.components
  let upperBound := c.created - c.burned
  let result := fun assessment critical reasons established =>
    { assessment
      reportedUpperBound := some upperBound
      eligibleCoverage := some coverage
      headroom := some (coverage - upperBound)
      critical
      minterExclusivityEstablished := established
      reasons
      intermediates := { created := some c.created, burned := some c.burned } : NativeResult }
  if !minter.established then
    result (if minter.critical then .indeterminate else .unknown) minter.critical reasons false
  else if upperBound ≤ coverage then
    result .sufficient false (reasons ++ [.n00ReportedUpperBoundCovered]) true
  else match input.trustworthySupplyLowerBound with
    | some lower =>
      if lower > coverage then
        result .indeterminate true (reasons ++ [.n02SupplyLowerBoundExceedsCoverage]) true
      else result .indeterminate false (reasons ++ [.n01UpperBoundAboveCoverageIndeterminate]) true
    | none => result .indeterminate false (reasons ++ [.n01UpperBoundAboveCoverageIndeterminate]) true

def assessNative (input : NativeInput) : NativeResult :=
  let c := input.components
  let minter := assessMinterCensus input.census
  if !c.fingerprintRecognised then .refused input minter (minter.reasons ++ [.u02UnknownFingerprint])
  else if !allPresent c then .refused input minter (minter.reasons ++ [.i07MissingObservation])
  else if !c.componentsFresh then .refused input minter (minter.reasons ++ [.i06StaleObservation])
  else
    -- a duplicate report leaves its reason, and the assessment goes on
    let reasons := minter.reasons ++ pushIf input.feeReporting.duplicateReportObserved .cfgN04DuplicateFeeReport
    if !input.feeReporting.reportedRewardAlreadyInTotalMinted then
      .refused input minter (reasons ++ [.cfgN05FeeRemintSemanticsUnverified])
    else if c.created > maxUint256 then .refused input minter (reasons ++ [.a06ArithmeticOutOfRange])
    else match input.eligibleHomeCoverage with
      | none =>
        { NativeResult.refused input minter (reasons ++ [.i07MissingObservation]) with
          reportedUpperBound := some (c.created - c.burned)
          intermediates := { created := some c.created, burned := some c.burned } }
      | some coverage => assessBound input minter reasons coverage

/-! ## When the bound is established -/

/-- All components are recognised, present and fresh, with the semantics the bound was derived from. -/
structure BoundReported (input : NativeInput) : Prop where
  fingerprint : input.components.fingerprintRecognised = true
  present : allPresent input.components = true
  fresh : input.components.componentsFresh = true
  remint : input.feeReporting.reportedRewardAlreadyInTotalMinted = true
  created : input.components.created ≤ maxUint256

/-- The reported upper bound is established and covered. -/
structure BoundCovered (input : NativeInput) : Prop where
  reported : BoundReported input
  census : (assessMinterCensus input.census).established = true
  covered : ∃ coverage, input.eligibleHomeCoverage = some coverage ∧
    input.components.created - input.components.burned ≤ coverage

/-- An independently established lower bound is above the coverage. -/
def LowerBoundExceeds (input : NativeInput) : Prop :=
  ∃ lower coverage, input.trustworthySupplyLowerBound = some lower ∧ input.eligibleHomeCoverage = some coverage ∧
    coverage < lower

theorem established_not_critical {census : MinterCensus} (h : (assessMinterCensus census).established = true) :
    (assessMinterCensus census).critical = false := by
  unfold assessMinterCensus at h ⊢
  rw [Bool.and_eq_true, Bool.not_eq_true'] at h
  exact h.2

/-- What the part behind the coverage answers. -/
theorem assessBound_spec {input : NativeInput} {reasons : List ReasonCode} {coverage : Int}
    (hcoverage : input.eligibleHomeCoverage = some coverage) :
    ((assessBound input (assessMinterCensus input.census) reasons coverage).assessment = .sufficient ↔
      (assessMinterCensus input.census).established = true ∧
        input.components.created - input.components.burned ≤ coverage) ∧
    ((assessBound input (assessMinterCensus input.census) reasons coverage).critical = true ↔
      (assessMinterCensus input.census).critical = true ∨
        ((assessMinterCensus input.census).established = true ∧
          coverage < input.components.created - input.components.burned ∧ LowerBoundExceeds input)) := by
  unfold assessBound LowerBoundExceeds
  cases hest : (assessMinterCensus input.census).established with
  | false =>
    cases hcrit : (assessMinterCensus input.census).critical <;> simp
  | true =>
    have hcrit := established_not_critical hest
    by_cases hle : input.components.created - input.components.burned ≤ coverage
    · simp [hcrit, hle, not_lt.2 hle]
    · have hlt := not_le.1 hle
      cases hlower : input.trustworthySupplyLowerBound with
      | none => simp [hcrit, hle]
      | some lower =>
        by_cases hexceeds : lower > coverage
        · simp [hcrit, hle, hlt, hexceeds, hcoverage]
        · simp [hcrit, hle, hexceeds, hcoverage]

@[simp] theorem refused_assessment {input : NativeInput} {minter : MinterAssessment} {reasons : List ReasonCode} :
    (NativeResult.refused input minter reasons).assessment = .unknown := rfl

@[simp] theorem refused_critical {input : NativeInput} {minter : MinterAssessment} {reasons : List ReasonCode} :
    (NativeResult.refused input minter reasons).critical = minter.critical := rfl

/-- Every answer is a refusal, which is never sufficient, or comes from behind the coverage. -/
theorem assessNative_cases (input : NativeInput) :
    ((assessNative input).assessment = .unknown ∧
        (assessNative input).critical = (assessMinterCensus input.census).critical ∧
        ¬ (BoundReported input ∧ input.eligibleHomeCoverage ≠ none)) ∨
      ∃ reasons coverage, BoundReported input ∧ input.eligibleHomeCoverage = some coverage ∧
        assessNative input = assessBound input (assessMinterCensus input.census) reasons coverage := by
  unfold assessNative
  by_cases hfingerprint : input.components.fingerprintRecognised = true
  swap
  · refine Or.inl ⟨?_, ?_, fun h => hfingerprint h.1.fingerprint⟩ <;> simp [hfingerprint]
  by_cases hpresent : allPresent input.components = true
  swap
  · refine Or.inl ⟨?_, ?_, fun h => hpresent h.1.present⟩ <;> simp [hfingerprint, hpresent]
  by_cases hfresh : input.components.componentsFresh = true
  swap
  · refine Or.inl ⟨?_, ?_, fun h => hfresh h.1.fresh⟩ <;> simp [hfingerprint, hpresent, hfresh]
  by_cases hremint : input.feeReporting.reportedRewardAlreadyInTotalMinted = true
  swap
  · refine Or.inl ⟨?_, ?_, fun h => hremint h.1.remint⟩ <;> simp [hfingerprint, hpresent, hfresh, hremint]
  by_cases hcreated : input.components.created > maxUint256
  · refine Or.inl ⟨?_, ?_, fun h => not_lt.2 h.1.created hcreated⟩ <;>
      simp [hfingerprint, hpresent, hfresh, hremint, hcreated]
  have hreported : BoundReported input := ⟨hfingerprint, hpresent, hfresh, hremint, not_lt.1 hcreated⟩
  cases hcoverage : input.eligibleHomeCoverage with
  | none =>
    refine Or.inl ⟨?_, ?_, fun h => h.2 rfl⟩ <;> simp [hfingerprint, hpresent, hfresh, hremint, hcreated]
  | some coverage =>
    refine Or.inr ⟨(assessMinterCensus input.census).reasons ++
      pushIf input.feeReporting.duplicateReportObserved .cfgN04DuplicateFeeReport, coverage, hreported, rfl, ?_⟩
    simp only [hfingerprint, hpresent, hfresh, hremint, hcreated, Bool.not_true, Bool.false_eq_true, if_false]

theorem assessNative_sufficient (input : NativeInput) :
    (assessNative input).assessment = .sufficient ↔ BoundCovered input := by
  rcases assessNative_cases input with ⟨hunknown, -, hnot⟩ | ⟨reasons, coverage, hreported, hcoverage, heq⟩
  · rw [hunknown]
    refine iff_of_false (by decide) fun h => hnot ⟨h.reported, ?_⟩
    obtain ⟨coverage, hcoverage, -⟩ := h.covered
    rw [hcoverage]
    exact Option.some_ne_none coverage
  · rw [heq, (assessBound_spec hcoverage).1]
    constructor
    · rintro ⟨hcensus, hcovered⟩
      exact ⟨hreported, hcensus, coverage, hcoverage, hcovered⟩
    · rintro ⟨-, hcensus, coverage', hcoverage', hcovered⟩
      rw [hcoverage, Option.some_inj] at hcoverage'
      subst hcoverage'
      exact ⟨hcensus, hcovered⟩

/-- A red answer is a breached roster, or a lower bound above the coverage where the upper bound is too. -/
theorem assessNative_critical (input : NativeInput) (h : (assessNative input).critical = true) :
    (assessMinterCensus input.census).critical = true ∨ LowerBoundExceeds input := by
  rcases assessNative_cases input with ⟨-, hcritical, -⟩ | ⟨reasons, coverage, -, hcoverage, heq⟩
  · rw [hcritical] at h
    exact Or.inl h
  · rw [heq, (assessBound_spec hcoverage).2] at h
    exact h.imp_right fun hlower => hlower.2.2

theorem assessNative_sufficient_not_critical {input : NativeInput}
    (h : (assessNative input).assessment = .sufficient) : (assessNative input).critical = false := by
  have hcovered := (assessNative_sufficient input).1 h
  rcases assessNative_cases input with ⟨hunknown, -, -⟩ | ⟨reasons, coverage, -, hcoverage, heq⟩
  · rw [hunknown] at h
    cases h
  · rw [← Bool.not_eq_true, heq, (assessBound_spec hcoverage).2]
    rintro (hbreached | ⟨-, hlt, -⟩)
    · rw [established_not_critical hcovered.census] at hbreached
      cases hbreached
    · obtain ⟨coverage', hcoverage', hle⟩ := hcovered.covered
      rw [hcoverage, Option.some_inj] at hcoverage'
      exact absurd hlt (not_lt.2 (hcoverage' ▸ hle))

/-! ## Soundness -/

/-- What `sufficient` is meant to rest on. -/
structure SufficiencyGrounds (input : NativeInput) : Prop where
  fingerprint : input.components.fingerprintRecognised = true
  totalMinted : input.components.totalMinted ≠ none
  initialReserveImbalance : input.components.initialReserveImbalance ≠ none
  burnedTxFees : input.components.burnedTxFeesAddressBalance ≠ none
  burnedForTransfer : input.components.burnedForTransferAddressBalance ≠ none
  fresh : input.components.componentsFresh = true
  remint : input.feeReporting.reportedRewardAlreadyInTotalMinted = true
  noDuplicate : input.feeReporting.duplicateReportObserved = false
  census : (assessMinterCensus input.census).established = true
  notCritical : (assessNative input).critical = false
  created : input.components.created ≤ maxUint256
  covered : ∃ coverage, input.eligibleHomeCoverage = some coverage ∧
    input.components.created - input.components.burned ≤ coverage

/-- `sufficient` only on its grounds, and red only on an established breach. -/
structure SoundAssessment (input : NativeInput) : Prop where
  sufficient : (assessNative input).assessment = .sufficient → SufficiencyGrounds input
  critical : (assessNative input).critical = true →
    input.census.unexpectedRoleHolders ≠ [] ∨ input.census.unauthorisedMintObserved = true ∨ LowerBoundExceeds input

theorem breached_iff {census : MinterCensus} : (assessMinterCensus census).critical = true ↔
    census.unexpectedRoleHolders ≠ [] ∨ census.unauthorisedMintObserved = true := by
  simp only [assessMinterCensus, MinterCensus.breached, Bool.or_eq_true, decide_eq_true_eq, gt_iff_lt,
    List.length_pos_iff]

theorem allPresent_iff {c : NativeSupplyComponents} : allPresent c = true ↔
    c.totalMinted ≠ none ∧ c.initialReserveImbalance ≠ none ∧ c.burnedTxFeesAddressBalance ≠ none ∧
      c.burnedForTransferAddressBalance ≠ none := by
  simp only [allPresent, Bool.and_eq_true, decide_eq_true_eq, and_assoc]

/-- A duplicate fee report leaves a reason and blocks nothing: that is the one ground `sufficient` can lack. -/
theorem assessNative_sound_iff (input : NativeInput) :
    SoundAssessment input ↔ ¬ (input.feeReporting.duplicateReportObserved = true ∧ BoundCovered input) := by
  constructor
  · rintro ⟨hsufficient, -⟩ ⟨hduplicate, hcovered⟩
    have hgrounds := hsufficient ((assessNative_sufficient input).2 hcovered)
    rw [hgrounds.noDuplicate] at hduplicate
    cases hduplicate
  · intro hnot
    refine ⟨fun h => ?_, fun h => ?_⟩
    · have hcovered := (assessNative_sufficient input).1 h
      obtain ⟨hminted, himbalance, hfees, htransfer⟩ := allPresent_iff.1 hcovered.reported.present
      exact
        { fingerprint := hcovered.reported.fingerprint
          totalMinted := hminted
          initialReserveImbalance := himbalance
          burnedTxFees := hfees
          burnedForTransfer := htransfer
          fresh := hcovered.reported.fresh
          remint := hcovered.reported.remint
          noDuplicate := Bool.eq_false_iff.2 fun hduplicate => hnot ⟨hduplicate, hcovered⟩
          census := hcovered.census
          notCritical := assessNative_sufficient_not_critical h
          created := hcovered.reported.created
          covered := hcovered.covered }
    · rcases assessNative_critical input h with hbreached | hlower
      · exact (breached_iff.1 hbreached).imp_right Or.inl
      · exact Or.inr (Or.inr hlower)

/-- A fully observed native remote with a supply bound of 1100. -/
def sampleNative (duplicate : Bool) (coverage : Int) : NativeInput where
  components :=
    { totalMinted := some 1000, initialReserveImbalance := some 200, burnedTxFeesAddressBalance := some 40
      burnedForTransferAddressBalance := some 60, componentsFresh := true, fingerprintRecognised := true }
  census :=
    { manifestRosterProvided := true, genesisChainConfigRead := true, activationRulesKnown := true
      roleHistoryCompleteFromActivation := true, allCandidateRolesRead := true, unexpectedRoleHolders := []
      unauthorisedMintObserved := false, epochsCovered := 1, epochsExpected := 1 }
  feeReporting :=
    { reportedRewardAlreadyInTotalMinted := true, duplicateReportObserved := duplicate, openReportEnvelopes := 0 }
  eligibleHomeCoverage := some coverage
  trustworthySupplyLowerBound := none
  collateralNeeded := none
  acceptedCollateral := none

/-- A covered bound with a duplicate fee report is assessed as sufficient, with the reason beside it. -/
theorem duplicateReport_sufficient : ¬ SoundAssessment (sampleNative true 1200) ∧
    (assessNative (sampleNative true 1200)).reasons = [.cfgN04DuplicateFeeReport, .n00ReportedUpperBoundCovered] := by
  refine ⟨fun h => ?_, by decide⟩
  have hgrounds := (h.sufficient (by decide)).noDuplicate
  exact absurd hgrounds (by decide)

end IcttSentinel.InvariantCore
