/-
The conversion of remote units into home units stands twice in the source: `toHomeUnits` of
packages/invariant-core/src/gate-b.ts, since layer 0 may not import the adapters, and `removeTokenScale` and
`deriveCollateralNeeded` of packages/ictt-adapters/src/scaling.ts. Both pairs of roundings are compared with one
exact quotient, and the one input on which the second guards more than the first is pinned down.
-/
import IcttSentinel.InvariantCore.GateB
import IcttSentinel.Adapters.Scaling
import Mathlib.Data.Rat.Floor

namespace IcttSentinel.InvariantCore

open Adapters (ScalingFailure removeTokenScale deriveCollateralNeeded)

/-- The failure of the adapters that a failure of this package stands for. -/
def ScaleFailure.ported : ScaleFailure → ScalingFailure
  | .overflow => .overflow
  | .divisionByZero => .divisionByZero
  | .negative => .negative

/-- What the adapters answer where this package answers `outcome` and `rounding` is asked for. -/
def ported (rounding : ScaledAmount → Int) : Except ScaleFailure ScaledAmount → Except ScalingFailure Int
  | .ok scaled => .ok (rounding scaled)
  | .error failure => .error failure.ported

/-- The home units of a remote amount, before any rounding. -/
def exactHomeUnits (remoteAmount tokenMultiplier : Int) (multiplyOnRemote : Bool) : ℚ :=
  if multiplyOnRemote then remoteAmount / tokenMultiplier else remoteAmount * tokenMultiplier

/-- The quotient is no integer and rounds up past a `uint256`. -/
def CeilingOverflows (remoteAmount tokenMultiplier : Int) (multiplyOnRemote : Bool) : Prop :=
  multiplyOnRemote = true ∧ 0 < tokenMultiplier ∧ ¬ tokenMultiplier ∣ remoteAmount ∧
    maxUint256 * tokenMultiplier < remoteAmount

variable {remoteAmount tokenMultiplier : Int} {multiplyOnRemote : Bool}

/-! ## Both roundings of one quotient -/

/-- A truncated quotient is the floor. -/
theorem tdiv_eq_floor (hamount : 0 ≤ remoteAmount) (hmultiplier : 0 < tokenMultiplier) :
    remoteAmount.tdiv tokenMultiplier = ⌊(remoteAmount / tokenMultiplier : ℚ)⌋ := by
  lift tokenMultiplier to ℕ using hmultiplier.le
  rw [Int.tdiv_eq_ediv_of_nonneg hamount, Int.cast_natCast, Rat.floor_intCast_div_natCast]

/-- One more than the floor is the ceiling, unless the division leaves no remainder. -/
theorem tdiv_eq_ceil (hamount : 0 ≤ remoteAmount) (hmultiplier : 0 < tokenMultiplier) :
    (if remoteAmount.tmod tokenMultiplier = 0 then remoteAmount.tdiv tokenMultiplier
      else remoteAmount.tdiv tokenMultiplier + 1) = ⌈(remoteAmount / tokenMultiplier : ℚ)⌉ := by
  have hpos : (0 : ℚ) < tokenMultiplier := by exact_mod_cast hmultiplier
  rw [Int.tdiv_eq_ediv_of_nonneg hamount, Int.tmod_eq_emod_of_nonneg hamount]
  have hsum := Int.mul_ediv_add_emod remoteAmount tokenMultiplier
  have hmod := Int.emod_nonneg remoteAmount hmultiplier.ne'
  have hlt := Int.emod_lt_of_pos remoteAmount hmultiplier
  symm
  by_cases hzero : remoteAmount % tokenMultiplier = 0
  · rw [if_pos hzero, Int.ceil_eq_iff, lt_div_iff₀' hpos, div_le_iff₀' hpos]
    constructor
    · have : tokenMultiplier * (remoteAmount / tokenMultiplier - 1) < remoteAmount := by
        rw [mul_sub]
        omega
      exact_mod_cast this
    · have : remoteAmount ≤ tokenMultiplier * (remoteAmount / tokenMultiplier) := by omega
      exact_mod_cast this
  · rw [if_neg hzero, Int.ceil_eq_iff, lt_div_iff₀' hpos, div_le_iff₀' hpos]
    constructor
    · have : tokenMultiplier * (remoteAmount / tokenMultiplier + 1 - 1) < remoteAmount := by
        rw [add_sub_cancel_right]
        omega
      exact_mod_cast this
    · have : remoteAmount ≤ tokenMultiplier * (remoteAmount / tokenMultiplier + 1) := by
        rw [mul_add]
        omega
      exact_mod_cast this

/-- Where the conversion divides, its two roundings are the floor and the ceiling of the quotient. -/
theorem toHomeUnits_dividing (hamount : 0 ≤ remoteAmount) (hmultiplier : 0 < tokenMultiplier) :
    toHomeUnits remoteAmount tokenMultiplier true =
      .ok ⟨⌊(remoteAmount / tokenMultiplier : ℚ)⌋, ⌈(remoteAmount / tokenMultiplier : ℚ)⌉⟩ := by
  have hsigns : (decide (remoteAmount < 0) || decide (tokenMultiplier < 0)) = false := by
    simp [hamount, hmultiplier.le]
  unfold toHomeUnits
  rw [hsigns, ← tdiv_eq_floor hamount hmultiplier, ← tdiv_eq_ceil hamount hmultiplier]
  simp [hmultiplier.ne']

/-- The adapters round down to what this package rounds down to, and fail where it fails. -/
theorem removeTokenScale_eq (remoteAmount tokenMultiplier : Int) (multiplyOnRemote : Bool) :
    removeTokenScale tokenMultiplier multiplyOnRemote remoteAmount =
      ported ScaledAmount.floor (toHomeUnits remoteAmount tokenMultiplier multiplyOnRemote) := by
  unfold removeTokenScale Adapters.scaleTokens toHomeUnits
  cases hsigns : decide (remoteAmount < 0) || decide (tokenMultiplier < 0) with
  | true => rfl
  | false =>
    cases multiplyOnRemote with
    | false =>
      simp only [Bool.false_eq_true, if_false, if_true, Bool.not_false]
      by_cases hfits : remoteAmount * tokenMultiplier > maxUint256
      · rw [if_pos hfits]
        exact if_pos hfits
      · rw [if_neg hfits]
        exact if_neg hfits
    | true =>
      simp only [Bool.false_eq_true, if_false, Bool.true_eq_false, Bool.not_true]
      by_cases hzero : tokenMultiplier = 0
      · rw [if_pos hzero, if_pos hzero]
        rfl
      · rw [if_neg hzero, if_neg hzero]
        rfl

/-- The two roundings of an amount that is converted, and what they round. -/
theorem toHomeUnits_ok {scaled : ScaledAmount}
    (h : toHomeUnits remoteAmount tokenMultiplier multiplyOnRemote = .ok scaled) :
    0 ≤ remoteAmount ∧
      scaled.floor = ⌊exactHomeUnits remoteAmount tokenMultiplier multiplyOnRemote⌋ ∧
      scaled.ceil = ⌈exactHomeUnits remoteAmount tokenMultiplier multiplyOnRemote⌉ ∧
      (multiplyOnRemote = true → 0 < tokenMultiplier) ∧
      (multiplyOnRemote = false → scaled.floor = scaled.ceil) := by
  have hsigns : ¬ (remoteAmount < 0 ∨ tokenMultiplier < 0) := by
    intro hneg
    unfold toHomeUnits at h
    rw [if_pos (by simpa using hneg)] at h
    cases h
  obtain ⟨hamount, hmultiplier⟩ : 0 ≤ remoteAmount ∧ 0 ≤ tokenMultiplier := by omega
  cases multiplyOnRemote with
  | false =>
    unfold toHomeUnits at h
    rw [if_neg (by simpa using hsigns), Bool.not_false, if_pos rfl] at h
    dsimp only at h
    split at h
    · cases h
    obtain rfl := Except.ok.inj h
    -- a product is exact, so the floor and the ceiling are both it
    have hexact : exactHomeUnits remoteAmount tokenMultiplier false =
        ((remoteAmount * tokenMultiplier : Int) : ℚ) := by
      simp [exactHomeUnits]
    rw [hexact, Int.floor_intCast, Int.ceil_intCast]
    exact ⟨hamount, rfl, rfl, by simp, fun _ => rfl⟩
  | true =>
    have hpos : 0 < tokenMultiplier := by
      refine lt_of_le_of_ne hmultiplier fun hzero => ?_
      unfold toHomeUnits at h
      rw [← hzero] at h
      rw [if_neg (by simpa using hamount), Bool.not_true, if_neg (by decide), if_pos rfl] at h
      cases h
    rw [toHomeUnits_dividing hamount hpos] at h
    obtain rfl := Except.ok.inj h
    exact ⟨hamount, rfl, rfl, fun _ => hpos, by simp⟩

theorem ceilingOverflows_iff (hamount : 0 ≤ remoteAmount) (hmultiplier : 0 < tokenMultiplier) :
    CeilingOverflows remoteAmount tokenMultiplier true ↔
      remoteAmount.tmod tokenMultiplier ≠ 0 ∧ maxUint256 < ⌈(remoteAmount / tokenMultiplier : ℚ)⌉ := by
  have hpos : (0 : ℚ) < tokenMultiplier := by exact_mod_cast hmultiplier
  have hpast : maxUint256 < ⌈(remoteAmount / tokenMultiplier : ℚ)⌉ ↔ maxUint256 * tokenMultiplier < remoteAmount := by
    rw [Int.lt_ceil, lt_div_iff₀ hpos]
    exact_mod_cast Iff.rfl
  rw [hpast, Int.tmod_eq_emod_of_nonneg hamount, Ne, ← Int.dvd_iff_emod_eq_zero]
  exact ⟨fun h => h.2.2, fun h => ⟨rfl, hmultiplier, h⟩⟩

/-- The adapters round up to what this package rounds up to, as long as that fits a `uint256`. -/
theorem deriveCollateralNeeded_eq (h : ¬ CeilingOverflows remoteAmount tokenMultiplier multiplyOnRemote) :
    deriveCollateralNeeded tokenMultiplier multiplyOnRemote remoteAmount =
      ported ScaledAmount.ceil (toHomeUnits remoteAmount tokenMultiplier multiplyOnRemote) := by
  unfold deriveCollateralNeeded
  rw [removeTokenScale_eq]
  cases hunits : toHomeUnits remoteAmount tokenMultiplier multiplyOnRemote with
  | error failure => rfl
  | ok scaled =>
    obtain ⟨hamount, -, hceil, hmultiplier, hexact⟩ := toHomeUnits_ok hunits
    dsimp only [ported]
    cases multiplyOnRemote with
    | false => rw [if_neg (by decide), hexact rfl]
    | true =>
      have hpos := hmultiplier rfl
      rw [ceilingOverflows_iff hamount hpos, not_and, not_lt] at h
      rw [toHomeUnits_dividing hamount hpos] at hunits
      obtain rfl := Except.ok.inj hunits
      dsimp only
      have hround := tdiv_eq_ceil hamount hpos
      rw [if_pos rfl, if_neg hpos.ne']
      by_cases hzero : remoteAmount.tmod tokenMultiplier = 0
      · rw [if_pos hzero, tdiv_eq_floor hamount hpos] at hround
        rw [if_neg (not_not.mpr hzero), hround]
      · rw [if_neg hzero, tdiv_eq_floor hamount hpos] at hround
        rw [if_pos hzero, hround]
        exact if_neg (not_lt.mpr (h hzero))

/-- Past a `uint256` the adapters revert where this package goes on. -/
theorem deriveCollateralNeeded_overflow
    (h : CeilingOverflows remoteAmount tokenMultiplier multiplyOnRemote) :
    deriveCollateralNeeded tokenMultiplier multiplyOnRemote remoteAmount = .error .overflow ∧
      ∃ scaled, toHomeUnits remoteAmount tokenMultiplier multiplyOnRemote = .ok scaled := by
  obtain ⟨rfl, hpos, hrest⟩ := h
  have hamount : 0 ≤ remoteAmount :=
    (mul_nonneg (by decide : (0 : Int) ≤ maxUint256) hpos.le).trans hrest.2.le
  obtain ⟨hmod, hpast⟩ := (ceilingOverflows_iff hamount hpos).mp ⟨rfl, hpos, hrest⟩
  have hround := tdiv_eq_ceil hamount hpos
  rw [if_neg hmod, tdiv_eq_floor hamount hpos] at hround
  refine ⟨?_, _, toHomeUnits_dividing hamount hpos⟩
  unfold deriveCollateralNeeded
  rw [removeTokenScale_eq, toHomeUnits_dividing hamount hpos]
  dsimp only [ported]
  rw [if_pos rfl, if_neg hpos.ne', if_pos hmod, hround]
  exact if_pos hpast

/-- Only an amount beyond `uint256` has such a quotient. -/
theorem CeilingOverflows.amount_gt (h : CeilingOverflows remoteAmount tokenMultiplier multiplyOnRemote) :
    maxUint256 < remoteAmount := by
  obtain ⟨-, hpos, -, hpast⟩ := h
  exact (le_mul_of_one_le_right (by decide) hpos).trans_lt hpast

/-! ## The two implementations -/

/-- The conversions agree on every amount and scale, failures included, but for the quotients that round up past a
`uint256`; the two roundings are the floor and the ceiling of the exact amount. -/
theorem conversions_agree (remoteAmount tokenMultiplier : Int) (multiplyOnRemote : Bool) :
    let units := toHomeUnits remoteAmount tokenMultiplier multiplyOnRemote
    let needed := deriveCollateralNeeded tokenMultiplier multiplyOnRemote remoteAmount
    let exact := exactHomeUnits remoteAmount tokenMultiplier multiplyOnRemote
    removeTokenScale tokenMultiplier multiplyOnRemote remoteAmount = ported ScaledAmount.floor units ∧
      (needed = ported ScaledAmount.ceil units ↔ ¬ CeilingOverflows remoteAmount tokenMultiplier multiplyOnRemote) ∧
      (CeilingOverflows remoteAmount tokenMultiplier multiplyOnRemote →
        maxUint256 < remoteAmount ∧ needed = .error .overflow) ∧
      ∀ scaled, units = .ok scaled →
        scaled.floor ≤ exact ∧ exact ≤ scaled.ceil ∧ scaled.floor = ⌊exact⌋ ∧ scaled.ceil = ⌈exact⌉ ∧
          scaled.floor ≤ scaled.ceil ∧ scaled.ceil ≤ scaled.floor + 1 := by
  intro units needed exact
  refine ⟨removeTokenScale_eq .., ⟨?_, deriveCollateralNeeded_eq⟩, ?_, ?_⟩
  · intro hneeded hpast
    obtain ⟨hoverflow, scaled, hscaled⟩ := deriveCollateralNeeded_overflow hpast
    -- an overflow is an error in the one conversion and a value in the other
    have : needed = .ok scaled.ceil := by
      rw [hneeded]
      exact congrArg (ported ScaledAmount.ceil) hscaled
    rw [show needed = .error .overflow from hoverflow] at this
    cases this
  · intro hpast
    exact ⟨hpast.amount_gt, (deriveCollateralNeeded_overflow hpast).1⟩
  · intro scaled hscaled
    obtain ⟨-, hfloor, hceil, -, -⟩ := toHomeUnits_ok hscaled
    refine ⟨?_, ?_, hfloor, hceil, ?_, ?_⟩
    · rw [hfloor]
      exact Int.floor_le exact
    · rw [hceil]
      exact Int.le_ceil exact
    · rw [hfloor, hceil]
      exact Int.floor_le_ceil exact
    · rw [hfloor, hceil]
      exact Int.ceil_le_floor_add_one exact

/-- An amount beyond `uint256` whose quotient rounds up to `2 ^ 256`: this package goes on with the ceiling. -/
theorem conversions_agree_past_uint256 :
    toHomeUnits (2 * 2 ^ 256 - 1) 2 true = .ok ⟨2 ^ 256 - 1, 2 ^ 256⟩ ∧
      deriveCollateralNeeded 2 true (2 * 2 ^ 256 - 1) = .error .overflow ∧
      deriveCollateralNeeded 2 true (2 * 2 ^ 256 - 1) ≠ ported ScaledAmount.ceil (toHomeUnits (2 * 2 ^ 256 - 1) 2 true) := by
  decide

end IcttSentinel.InvariantCore
