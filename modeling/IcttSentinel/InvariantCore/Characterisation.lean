/-
What the canonical ERC20 rule concludes, exactly: for every input, which of the four verdicts it
gives, in terms of the conditions on the input alone. The range check covers what the contracts
store (balances, supplies, multipliers and each converted product); bigint sums are not clamped,
and unsupported or out-of-range inputs are UNKNOWN before any breach is looked for. Message keys
enter the digest of the input, and no conclusion.
-/
import IcttSentinel.InvariantCore.Engine

namespace IcttSentinel.InvariantCore

open IcttSentinel.Domain IcttSentinel.Lib

/-- Gate A passes and every remote's backing and the escrow are known, so they can be compared. -/
structure Comparable (input : ProofInput) : Prop where
  admissible : Admissible input
  reconciles : Reconciles input
  escrow : EscrowPresent input
  conversions : ConversionsDefined input

theorem gates_pass_iff {input : ProofInput} :
    (evaluateGateA input).outcome = .pass ∧ (evaluateGateB input true).outcome = .pass ↔
      Comparable input ∧ totalBacking input ≤ escrowOf input := by
  rw [evaluateGateA_pass]
  constructor
  · rintro ⟨⟨ha, hr⟩, hb⟩
    obtain ⟨hunknown, hknown⟩ := evaluateGateB_passed ha
    by_cases hec : EscrowPresent input ∧ ConversionsDefined input
    · rcases hknown hec.1 hec.2 with ⟨-, hle⟩ | ⟨hfail, -⟩
      · exact ⟨⟨ha, hr, hec.1, hec.2⟩, hle⟩
      · rw [hb] at hfail
        cases hfail
    · rw [hunknown hec] at hb
      cases hb
  · rintro ⟨h, hle⟩
    refine ⟨⟨h.admissible, h.reconciles⟩, ?_⟩
    rcases (evaluateGateB_passed h.admissible).2 h.escrow h.conversions with ⟨hpass, -⟩ | ⟨-, hlt⟩
    · exact hpass
    · exact absurd hle (not_le.2 hlt)

theorem gates_shortfall_iff {input : ProofInput} :
    (evaluateGateA input).outcome = .pass ∧ (evaluateGateB input true).outcome = .fail ↔
      Comparable input ∧ escrowOf input < totalBacking input := by
  rw [evaluateGateA_pass]
  constructor
  · rintro ⟨⟨ha, hr⟩, hb⟩
    obtain ⟨hunknown, hknown⟩ := evaluateGateB_passed ha
    by_cases hec : EscrowPresent input ∧ ConversionsDefined input
    · rcases hknown hec.1 hec.2 with ⟨hpass, -⟩ | ⟨-, hlt⟩
      · rw [hb] at hpass
        cases hpass
      · exact ⟨⟨ha, hr, hec.1, hec.2⟩, hlt⟩
    · rw [hunknown hec] at hb
      cases hb
  · rintro ⟨h, hlt⟩
    refine ⟨⟨h.admissible, h.reconciles⟩, ?_⟩
    rcases (evaluateGateB_passed h.admissible).2 h.escrow h.conversions with ⟨-, hle⟩ | ⟨hfail, -⟩
    · exact absurd hle (not_le.2 hlt)
    · exact hfail

/-- For every input and digest function: OK exactly when the input is admissible, reconciles, and
the escrow covers the rounded-up backing; WARN exactly when all of this holds but the coverage;
CRITICAL exactly when the input is admissible and shows a breach; UNKNOWN in every other case. -/
theorem erc20_verdict_characterisation (input : ProofInput) (hash : String → String) :
    ((evaluateCanonicalErc20 input hash).output.verdictCandidate = .ok ↔
      Comparable input ∧ totalBacking input ≤ escrowOf input) ∧
    ((evaluateCanonicalErc20 input hash).output.verdictCandidate = .critical ↔
      Admissible input ∧ Breach input) ∧
    ((evaluateCanonicalErc20 input hash).output.verdictCandidate = .warn ↔
      Comparable input ∧ escrowOf input < totalBacking input) ∧
    ((evaluateCanonicalErc20 input hash).output.verdictCandidate = .unknown ↔
      ¬ Comparable input ∧ ¬ (Admissible input ∧ Breach input)) := by
  have hcomparable : Comparable input ↔
      (Comparable input ∧ totalBacking input ≤ escrowOf input) ∨
        (Comparable input ∧ escrowOf input < totalBacking input) := by
    rw [← and_or_left]
    exact ⟨fun h => ⟨h, le_or_gt _ _⟩, And.left⟩
  refine ⟨?_, ?_, ?_, ?_⟩
  · rw [← gates_pass_iff, evaluate_verdict]
    cases (evaluateGateA input).outcome <;> cases (evaluateGateB input true).outcome <;> decide
  · rw [← evaluateGateA_fail, evaluate_verdict]
    cases (evaluateGateA input).outcome <;> cases (evaluateGateB input true).outcome <;> decide
  · rw [← gates_shortfall_iff, evaluate_verdict]
    cases (evaluateGateA input).outcome <;> cases (evaluateGateB input true).outcome <;> decide
  · rw [hcomparable, ← gates_pass_iff, ← gates_shortfall_iff, ← evaluateGateA_fail, evaluate_verdict]
    cases (evaluateGateA input).outcome <;> cases (evaluateGateB input true).outcome <;> decide

/-! ## Sample inputs -/

def samplePin (chain : String) : PinnedBlock := { blockchainId := chain, blockNumber := 100, blockHash := "0xb" }

/-- One observed remote with its accounted balance, its supply and its multiplier. -/
def sampleRemote (balance supply tokenMultiplier : Int) : RemoteObservation where
  remoteBlockchainId := "0xremote"
  remoteAddress := "0xr"
  transferredBalance := some balance
  remoteTotalSupply := some supply
  scale :=
    { tokenMultiplier, multiplyOnRemote := false, homeDecimals := 18, remoteDecimals := 18, established := true }
  homePin := some (samplePin "0xhome")
  remotePin := some (samplePin "0xremote")
  fingerprintRecognised := true
  tokenBehaviourCanonical := true
  routeSingleHop := true
  initialReserveImbalance := 0

/-- A pending envelope on the route of the remote at the given address. -/
def samplePending (remoteAddress : String) (amount : Int) : PendingEnvelope where
  messageKey := "m"
  direction := .homeToRemote
  amount
  ageSeconds := 5
  remoteBlockchainId := "0xremote"
  remoteAddress

/-- An input whose whole contract holds, over the given remotes, pending envelopes and escrow. -/
def sampleProof (remotes : List RemoteObservation) (pending : List PendingEnvelope) (escrow : Int) :
    ProofInput where
  deploymentId := "d"
  family := supportedFamily
  provenance :=
    { manifestHash := some "mh", policyHash := some "ph", sourceLockCommitSha := some "sha",
      adapterId := some "ictt", adapterVersion := some 1, ruleVersion := "1" }
  census := .completeFromDeploymentBlock
  untrackedRemotes := []
  cut := .closed
  freshness := { fresh := true, independentWitnessGroups := 2, requiredWitnessGroups := 2 }
  remotes
  pending
  effects := []
  homeEscrow :=
    { escrowBalance := some escrow, homePin := some (samplePin "0xhome"), acceptedCollateralHomeUnits := 0 }
  pendingAgeLimitSeconds := 3600

/-- The checks on shapes and ranges come first: with the whole input contract satisfied and
`D < S`, a multiplier outside `uint256` makes the verdict UNKNOWN. And sums are not range-checked:
two remotes whose backing only exceeds `uint256` together can still be OK. -/
theorem breach_out_of_range_is_unknown :
    (ContractComplete (sampleProof [sampleRemote 5 6 (2 ^ 256)] [] 0) ∧
      Breach (sampleProof [sampleRemote 5 6 (2 ^ 256)] [] 0) ∧
      (evaluateCanonicalErc20 (sampleProof [sampleRemote 5 6 (2 ^ 256)] [] 0) id).output.verdictCandidate =
        .unknown) ∧
    (maxUint256 < totalBacking (sampleProof [sampleRemote maxUint256 maxUint256 1,
        sampleRemote maxUint256 maxUint256 1] [] (2 ^ 257)) ∧
      (evaluateCanonicalErc20 (sampleProof [sampleRemote maxUint256 maxUint256 1,
        sampleRemote maxUint256 maxUint256 1] [] (2 ^ 257)) id).output.verdictCandidate = .ok) := by
  refine ⟨⟨?_, ?_, ?_⟩, ?_, ?_⟩
  · rw [← missingInputReasons_eq_nil]
    decide +kernel
  · exact Or.inr ⟨_, List.mem_singleton_self _, by decide⟩
  · rw [evaluate_verdict]
    decide +kernel
  · decide +kernel
  · rw [evaluate_verdict]
    decide +kernel

/-! ## Message keys -/

section Rekeyed

variable (input : ProofInput) (rename : String → String)

def PendingEnvelope.rekeyed (p : PendingEnvelope) : PendingEnvelope := { p with messageKey := rename p.messageKey }

def CreditedEffect.rekeyed (e : CreditedEffect) : CreditedEffect := { e with messageKey := rename e.messageKey }

/-- The input with other message keys. -/
def ProofInput.rekeyed : ProofInput :=
  { input with
    pending := input.pending.map (·.rekeyed rename)
    effects := input.effects.map (·.rekeyed rename) }

theorem effectReasons_rekeyed : effectReasons (input.rekeyed rename) = effectReasons input := by
  unfold effectReasons ProofInput.rekeyed
  rw [List.flatMap_map]
  rfl

theorem livenessReasons_rekeyed : livenessReasons (input.rekeyed rename) = livenessReasons input := by
  unfold livenessReasons ProofInput.rekeyed
  rw [List.filter_map, List.length_map]
  rfl

theorem reconcileRemote_rekeyed (r : RemoteObservation) :
    reconcileRemote r (input.rekeyed rename) = reconcileRemote r input := by
  have hmine : (input.rekeyed rename).pending.filter (ofRemote r) =
      (input.pending.filter (ofRemote r)).map (·.rekeyed rename) := List.filter_map
  have hamounts : ∀ (direction : Direction) (l : List PendingEnvelope),
      ((l.map (·.rekeyed rename)).filter (·.direction = direction)).map (·.amount) =
        (l.filter (·.direction = direction)).map (·.amount) := by
    intro direction l
    rw [List.filter_map, List.map_map]
    rfl
  unfold reconcileRemote
  simp only [hmine, hamounts]

theorem evaluateGateA_rekeyed : evaluateGateA (input.rekeyed rename) = evaluateGateA input := by
  have hreconcile : reconcile (input.rekeyed rename) = reconcile input := by
    have hremotes : reconciliations (input.rekeyed rename) = reconciliations input :=
      List.filterMap_congr fun r _ => reconcileRemote_rekeyed input rename r
    unfold reconcile
    rw [hremotes, effectReasons_rekeyed, livenessReasons_rekeyed]
  unfold evaluateGateA
  rw [hreconcile]
  rfl

theorem pendingBreakdown_rekeyed (gateA : GateAResult) :
    pendingBreakdown (input.rekeyed rename) gateA = pendingBreakdown input gateA := by
  have hcount : (input.rekeyed rename).pending.length = input.pending.length := List.length_map _
  have hover : ((input.rekeyed rename).pending.filter fun p => p.ageSeconds > input.pendingAgeLimitSeconds).length =
      (input.pending.filter fun p => p.ageSeconds > input.pendingAgeLimitSeconds).length := by
    show ((input.pending.map (·.rekeyed rename)).filter _).length = _
    rw [List.filter_map, List.length_map]
    rfl
  unfold pendingBreakdown
  rw [hcount]
  exact congrArg _ hover

/-- The rule reads the message keys into its digest, and nowhere else. -/
theorem evaluateCanonicalErc20_rekeyed (hash : String → String) :
    evaluateCanonicalErc20 (input.rekeyed rename) hash =
      { evaluateCanonicalErc20 input hash with
        output := { (evaluateCanonicalErc20 input hash).output with
          inputDigest := hash (canonicalInputString (input.rekeyed rename)) } } := by
  unfold evaluateCanonicalErc20
  simp only [evaluateGateA_rekeyed, pendingBreakdown_rekeyed]
  rfl

end Rekeyed

end IcttSentinel.InvariantCore
