/-
Gate B of packages/invariant-core/src/gate-b.ts: physical escrow coverage of the remotes' balances,
each converted into home units and rounded up. The conversion is the pinned one of the contracts
(multiply exactly, or divide with truncation), and its ceiling is shown to be the exact one.
-/
import IcttSentinel.InvariantCore.GateA

namespace IcttSentinel.InvariantCore

structure RemoteLiability where
  remoteBlockchainId : String
  remoteAddress : String
  remoteUnits : Int
  floorHomeUnits : Int
  ceilHomeUnits : Int
  dust : Int
  deriving DecidableEq, Repr

inductive GateBOutcome where
  | pass
  | fail
  | unknown
  deriving DecidableEq, Repr

structure GateBResult where
  outcome : GateBOutcome
  reasons : List ReasonCode
  escrowBalance : Int
  floorLiability : Int
  conservativeLiability : Int
  totalDust : Int
  surplus : Int
  perRemote : List RemoteLiability
  deriving DecidableEq, Repr

inductive ScaleFailure where
  | overflow
  | divisionByZero
  | negative
  deriving DecidableEq, Repr

structure ScaledAmount where
  floor : Int
  ceil : Int
  deriving DecidableEq, Repr

/-- Remote units to home units, both roundings. -/
def toHomeUnits (remoteAmount tokenMultiplier : Int) (multiplyOnRemote : Bool) :
    Except ScaleFailure ScaledAmount :=
  if remoteAmount < 0 || tokenMultiplier < 0 then .error .negative
  else if !multiplyOnRemote then
    let product := remoteAmount * tokenMultiplier
    if product > maxUint256 then .error .overflow else .ok ⟨product, product⟩
  else if tokenMultiplier = 0 then .error .divisionByZero
  else
    let floor := remoteAmount.tdiv tokenMultiplier
    .ok ⟨floor, if remoteAmount.tmod tokenMultiplier = 0 then floor else floor + 1⟩

/-- The result of a check that fails before anything is summed. -/
def GateBResult.unknown (reason : ReasonCode) : GateBResult where
  outcome := .unknown
  reasons := [reason]
  escrowBalance := 0
  floorLiability := 0
  conservativeLiability := 0
  totalDust := 0
  surplus := 0
  perRemote := []

/-- The loop body of `evaluateGateB`. -/
def liabilityOf (r : RemoteObservation) : Except ReasonCode RemoteLiability :=
  match r.transferredBalance with
  | none => .error .i07MissingObservation
  | some remoteUnits =>
    match toHomeUnits remoteUnits r.scale.tokenMultiplier r.scale.multiplyOnRemote with
    | .error _ => .error .a06ArithmeticOutOfRange
    | .ok scaled =>
      .ok
        { remoteBlockchainId := r.remoteBlockchainId
          remoteAddress := r.remoteAddress
          remoteUnits
          floorHomeUnits := scaled.floor
          ceilHomeUnits := scaled.ceil
          dust := scaled.ceil - scaled.floor }

/-- The comparison at the end of `evaluateGateB`. -/
def coverage (escrow : Int) (perRemote : List RemoteLiability) : GateBResult :=
  let floorLiability := (perRemote.map (·.floorHomeUnits)).sum
  let conservativeLiability := (perRemote.map (·.ceilHomeUnits)).sum
  let surplus := escrow - conservativeLiability
  { outcome := if surplus ≥ 0 then .pass else .fail
    reasons := if surplus ≥ 0 then [.b00CoverageSufficient] else [.b01CoverageShortfall]
    escrowBalance := escrow
    floorLiability
    conservativeLiability
    totalDust := conservativeLiability - floorLiability
    surplus
    perRemote }

def evaluateGateB (input : ProofInput) (gateAPassed : Bool) : GateBResult :=
  if !gateAPassed then .unknown .b03GateANotPassed
  else if input.untrackedRemotes.length > 0 then .unknown .b02UntrackedRemoteLiability
  else if input.census ≠ .completeFromDeploymentBlock then .unknown .i03CensusIncomplete
  else match input.homeEscrow.escrowBalance, input.homeEscrow.homePin with
    | some escrow, some _ =>
      match input.remotes.mapM liabilityOf with
      | .error reason => .unknown reason
      | .ok perRemote => coverage escrow perRemote
    | _, _ => .unknown .i07MissingObservation

/-! ## The conversion, exactly -/

/-- What a remote balance requires in home units: the product, or the exact ceiling of the quotient. -/
def requiredBacking (balance tokenMultiplier : Int) (multiplyOnRemote : Bool) : Int :=
  if multiplyOnRemote then ⌈(balance : ℚ) / tokenMultiplier⌉ else balance * tokenMultiplier

/-- The conversion stays inside `uint256` and divides by something. -/
def ConversionDefined (balance tokenMultiplier : Int) (multiplyOnRemote : Bool) : Prop :=
  if multiplyOnRemote then tokenMultiplier ≠ 0 else balance * tokenMultiplier ≤ maxUint256

theorem ceil_div_eq {n m : Int} (hn : 0 ≤ n) (hm : 0 < m) :
    ⌈(n : ℚ) / m⌉ = if n.tmod m = 0 then n.tdiv m else n.tdiv m + 1 := by
  lift m to ℕ using hm.le
  rw [Int.tmod_eq_emod_of_nonneg hn, Int.tdiv_eq_ediv_of_nonneg hn, Int.cast_natCast,
    Rat.ceil_intCast_div_natCast, Int.neg_ediv]
  have hsign : (m : Int).sign = 1 := Int.sign_eq_one_of_pos hm
  by_cases hd : (m : Int) ∣ n
  · rw [if_pos hd, if_pos (Int.emod_eq_zero_of_dvd hd)]
    omega
  · rw [if_neg hd, if_neg (mt Int.dvd_of_emod_eq_zero hd), hsign]
    omega

theorem toHomeUnits_spec {d m : Int} (multiplyOnRemote : Bool) (hd : 0 ≤ d) (hm : 0 ≤ m) :
    (ConversionDefined d m multiplyOnRemote →
      ∃ scaled, toHomeUnits d m multiplyOnRemote = .ok scaled ∧ scaled.ceil = requiredBacking d m multiplyOnRemote) ∧
    (¬ ConversionDefined d m multiplyOnRemote → ∃ e, toHomeUnits d m multiplyOnRemote = .error e) := by
  have hneg : (decide (d < 0) || decide (m < 0)) = false := by simp [hd, hm]
  unfold toHomeUnits ConversionDefined requiredBacking
  simp only [hneg, Bool.false_eq_true, if_false]
  cases multiplyOnRemote with
  | false =>
    simp only [Bool.not_false, if_true, Bool.false_eq_true, if_false]
    refine ⟨fun h => ⟨_, if_neg (not_lt.2 h), rfl⟩, fun h => ⟨_, if_pos (not_le.1 h)⟩⟩
  | true =>
    simp only [Bool.not_true, Bool.false_eq_true, if_false, if_true]
    refine ⟨fun h => ⟨_, if_neg h, ?_⟩, fun h => ⟨_, if_pos (not_not.1 h)⟩⟩
    exact (ceil_div_eq hd (lt_of_le_of_ne hm (Ne.symm h))).symm

/-! ## Outcomes of the gate -/

/-- Every remote's balance converts into home units. -/
def ConversionsDefined (input : ProofInput) : Prop :=
  ∀ r ∈ input.remotes, ConversionDefined (balanceOf r) r.scale.tokenMultiplier r.scale.multiplyOnRemote

/-- The escrow is observed and pinned. -/
def EscrowPresent (input : ProofInput) : Prop :=
  input.homeEscrow.escrowBalance ≠ none ∧ input.homeEscrow.homePin ≠ none

/-- The escrow balance, where it is observed. -/
def escrowOf (input : ProofInput) : Int := input.homeEscrow.escrowBalance.getD 0

/-- The rounded-up backing of all remotes, in home units. -/
def totalBacking (input : ProofInput) : Int :=
  (input.remotes.map fun r => requiredBacking (balanceOf r) r.scale.tokenMultiplier r.scale.multiplyOnRemote).sum

theorem liabilityOf_spec {r : RemoteObservation} (ho : Observed r) (hd : Uint256 (balanceOf r))
    (hm : Uint256 r.scale.tokenMultiplier) :
    (ConversionDefined (balanceOf r) r.scale.tokenMultiplier r.scale.multiplyOnRemote →
      ∃ x, liabilityOf r = .ok x ∧
        x.ceilHomeUnits = requiredBacking (balanceOf r) r.scale.tokenMultiplier r.scale.multiplyOnRemote) ∧
    (¬ ConversionDefined (balanceOf r) r.scale.tokenMultiplier r.scale.multiplyOnRemote →
      ∃ e, liabilityOf r = .error e) := by
  obtain ⟨d, hb⟩ := Option.ne_none_iff_exists'.1 ho.balance
  obtain ⟨hok, herr⟩ := toHomeUnits_spec r.scale.multiplyOnRemote hd.1 hm.1
  simp only [balanceOf, hb, Option.getD_some] at hok herr ⊢
  refine ⟨fun h => ?_, fun h => ?_⟩
  · obtain ⟨scaled, hs, hc⟩ := hok h
    simp only [liabilityOf, hb, hs]
    exact ⟨_, rfl, hc⟩
  · obtain ⟨e, he⟩ := herr h
    simp only [liabilityOf, hb, he]
    exact ⟨_, rfl⟩

/-- The loop over the remotes ends with every liability, or with the first conversion that fails. -/
theorem mapM_liabilityOf {l : List RemoteObservation}
    (h : ∀ r ∈ l, Observed r ∧ Uint256 (balanceOf r) ∧ Uint256 r.scale.tokenMultiplier) :
    ((∀ r ∈ l, ConversionDefined (balanceOf r) r.scale.tokenMultiplier r.scale.multiplyOnRemote) →
      ∃ xs, l.mapM liabilityOf = .ok xs ∧ (xs.map (·.ceilHomeUnits)).sum =
        (l.map fun r => requiredBacking (balanceOf r) r.scale.tokenMultiplier r.scale.multiplyOnRemote).sum) ∧
    ((¬ ∀ r ∈ l, ConversionDefined (balanceOf r) r.scale.tokenMultiplier r.scale.multiplyOnRemote) →
      ∃ e, l.mapM liabilityOf = .error e) := by
  induction l with
  | nil => exact ⟨fun _ => ⟨[], rfl, rfl⟩, fun h => absurd (by simp) h⟩
  | cons r l ih =>
    obtain ⟨ho, hd, hm⟩ := h r (by simp)
    obtain ⟨hok, herr⟩ := liabilityOf_spec ho hd hm
    obtain ⟨ihok, iherr⟩ := ih fun x hx => h x (by simp [hx])
    rw [List.mapM_cons, List.forall_mem_cons]
    refine ⟨fun ⟨hr, hl⟩ => ?_, fun hn => ?_⟩
    · obtain ⟨x, hx, hc⟩ := hok hr
      obtain ⟨xs, hxs, hsum⟩ := ihok hl
      rw [hx, hxs]
      exact ⟨x :: xs, rfl, by simp [hc, hsum]⟩
    · by_cases hr : ConversionDefined (balanceOf r) r.scale.tokenMultiplier r.scale.multiplyOnRemote
      · obtain ⟨x, hx, -⟩ := hok hr
        obtain ⟨e, he⟩ := iherr fun hl => hn ⟨hr, hl⟩
        rw [hx, he]
        exact ⟨e, rfl⟩
      · obtain ⟨e, he⟩ := herr hr
        rw [he]
        exact ⟨e, rfl⟩

/-- Behind the guards, which repeat what the first gate has checked. -/
theorem evaluateGateB_of_complete {input : ProofInput} (h : ContractComplete input) :
    evaluateGateB input true =
      match input.homeEscrow.escrowBalance, input.homeEscrow.homePin with
      | some escrow, some _ =>
        match input.remotes.mapM liabilityOf with
        | .error reason => .unknown reason
        | .ok perRemote => coverage escrow perRemote
      | _, _ => .unknown .i07MissingObservation := by
  simp [evaluateGateB, h.tracked, h.census]

/-- What Gate B answers once Gate A has passed. -/
theorem evaluateGateB_passed {input : ProofInput} (h : Admissible input) :
    (¬ (EscrowPresent input ∧ ConversionsDefined input) → (evaluateGateB input true).outcome = .unknown) ∧
    (EscrowPresent input → ConversionsDefined input →
      ((evaluateGateB input true).outcome = .pass ∧ totalBacking input ≤ escrowOf input) ∨
      ((evaluateGateB input true).outcome = .fail ∧ escrowOf input < totalBacking input)) := by
  obtain ⟨-, hc, hr⟩ := h
  have hinput := evaluateGateB_of_complete hc
  obtain ⟨hok, herr⟩ := mapM_liabilityOf (l := input.remotes) fun r hrm =>
    ⟨hc.observed r hrm, (hr r hrm).1, (hr r hrm).2.2⟩
  rw [hinput]
  unfold EscrowPresent escrowOf totalBacking
  cases he : input.homeEscrow.escrowBalance with
  | none => simp [GateBResult.unknown]
  | some escrow =>
    cases hp : input.homeEscrow.homePin with
    | none => simp [GateBResult.unknown]
    | some pin =>
      refine ⟨fun hn => ?_, fun _ hconv => ?_⟩
      · obtain ⟨e, hm⟩ := herr fun hall => hn ⟨⟨by simp, by simp⟩, hall⟩
        simp only [hm, GateBResult.unknown]
      · obtain ⟨xs, hm, hsum⟩ := hok hconv
        simp only [hm, coverage, hsum, Option.getD_some, sub_nonneg, ge_iff_le]
        split
        · rename_i hle
          exact Or.inl ⟨rfl, hle⟩
        · rename_i hlt
          exact Or.inr ⟨rfl, not_le.1 hlt⟩

end IcttSentinel.InvariantCore
