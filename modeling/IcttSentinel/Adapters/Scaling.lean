/-
Token scaling, packages/ictt-adapters/src/scaling.ts: the port of the contracts' conversion between home and
remote units. A revert on chain is a failure here.
-/
import Mathlib.Tactic

namespace IcttSentinel.Adapters

def maxUint256 : Int := 2 ^ 256 - 1

inductive ScalingFailure where
  | overflow
  | divisionByZero
  | negative
  deriving DecidableEq, Repr

def scaleTokens (tokenMultiplier : Int) (multiplyOnRemote : Bool) (amount : Int) (isSendToRemote : Bool) :
    Except ScalingFailure Int :=
  if amount < 0 || tokenMultiplier < 0 then .error .negative
  else if multiplyOnRemote = isSendToRemote then
    if amount * tokenMultiplier > maxUint256 then .error .overflow else .ok (amount * tokenMultiplier)
  else if tokenMultiplier = 0 then .error .divisionByZero
  else .ok (amount.tdiv tokenMultiplier)

/-- Home units to remote units. -/
def applyTokenScale (tokenMultiplier : Int) (multiplyOnRemote : Bool) (homeTokenAmount : Int) :
    Except ScalingFailure Int :=
  scaleTokens tokenMultiplier multiplyOnRemote homeTokenAmount true

/-- Remote units back to home units. -/
def removeTokenScale (tokenMultiplier : Int) (multiplyOnRemote : Bool) (remoteTokenAmount : Int) :
    Except ScalingFailure Int :=
  scaleTokens tokenMultiplier multiplyOnRemote remoteTokenAmount false

/-- The collateral that registering a remote asks for: its initial imbalance in home units, rounded up. -/
def deriveCollateralNeeded (tokenMultiplier : Int) (multiplyOnRemote : Bool) (initialReserveImbalance : Int) :
    Except ScalingFailure Int :=
  match removeTokenScale tokenMultiplier multiplyOnRemote initialReserveImbalance with
  | .error failure => .error failure
  | .ok value =>
    if multiplyOnRemote then
      if tokenMultiplier = 0 then .error .divisionByZero
      else if initialReserveImbalance.tmod tokenMultiplier ≠ 0 then
        if value + 1 > maxUint256 then .error .overflow else .ok (value + 1)
      else .ok value
    else .ok value

/-- The home units a redemption releases; a redemption that reverts releases none. -/
def released (tokenMultiplier : Int) (multiplyOnRemote : Bool) (remoteTokenAmount : Int) : Int :=
  match removeTokenScale tokenMultiplier multiplyOnRemote remoteTokenAmount with
  | .ok value => value
  | .error _ => 0

/-! ## Multipliers -/

/-- `MAX_TOKEN_DECIMALS`. -/
def maxTokenDecimals : Int := 18

inductive DerivationFailure where
  | decimalsOutOfRange
  | decimalsExceedMaximum
  deriving DecidableEq, Repr

structure TokenMultiplierValues where
  tokenMultiplier : Int
  multiplyOnRemote : Bool
  deriving DecidableEq, Repr

/-- The multiplier that registering a remote derives from the decimals of both sides. -/
def deriveTokenMultiplierValues (homeTokenDecimals remoteTokenDecimals : Int) :
    Except DerivationFailure TokenMultiplierValues :=
  if homeTokenDecimals < 0 || homeTokenDecimals > 255 then .error .decimalsOutOfRange
  else if remoteTokenDecimals < 0 || remoteTokenDecimals > 255 then .error .decimalsOutOfRange
  else if remoteTokenDecimals > maxTokenDecimals then .error .decimalsExceedMaximum
  else .ok {
    tokenMultiplier := 10 ^ (remoteTokenDecimals - homeTokenDecimals).natAbs
    multiplyOnRemote := remoteTokenDecimals > homeTokenDecimals }

/-! ## Redemptions -/

section Released

variable {tokenMultiplier : Int} {multiplyOnRemote : Bool}

theorem removeTokenScale_ok {amount value : Int}
    (h : removeTokenScale tokenMultiplier multiplyOnRemote amount = .ok value) :
    0 ≤ amount ∧ 0 ≤ tokenMultiplier ∧
      value = if multiplyOnRemote then amount.tdiv tokenMultiplier else amount * tokenMultiplier := by
  unfold removeTokenScale scaleTokens at h
  split at h
  · cases h
  · rename_i hneg
    rw [Bool.or_eq_true, decide_eq_true_eq, decide_eq_true_eq, not_or, not_lt, not_lt] at hneg
    refine ⟨hneg.1, hneg.2, ?_⟩
    cases multiplyOnRemote with
    | false =>
      rw [if_pos rfl] at h
      split at h
      · cases h
      · cases h
        rfl
    | true =>
      rw [if_neg (by decide)] at h
      split at h
      · cases h
      · cases h
        rfl

/-- Where the conversion multiplies, a redemption releases the product at most. -/
theorem released_le_mul (hm : 0 ≤ tokenMultiplier) (amount : Nat) :
    released tokenMultiplier false amount ≤ amount * tokenMultiplier := by
  unfold released
  cases h : removeTokenScale tokenMultiplier false amount with
  | error failure => positivity
  | ok value =>
    obtain ⟨-, -, rfl⟩ := removeTokenScale_ok h
    exact le_rfl

/-- Where it divides, the quotient rounded down at most. -/
theorem released_le_div (hm : 0 ≤ tokenMultiplier) (amount : Nat) :
    released tokenMultiplier true amount ≤ (amount : Int) / tokenMultiplier := by
  unfold released
  cases h : removeTokenScale tokenMultiplier true amount with
  | error failure => exact Int.ediv_nonneg (Int.natCast_nonneg amount) hm
  | ok value =>
    obtain ⟨-, -, rfl⟩ := removeTokenScale_ok h
    rw [if_pos rfl, Int.tdiv_eq_ediv_of_nonneg (Int.natCast_nonneg amount)]

/-- Rounded down part by part, quotients add up to the quotient of the sum at most. -/
theorem sum_ediv_le (hm : 0 < tokenMultiplier) (amounts : List Nat) :
    (amounts.map fun a : Nat => (a : Int) / tokenMultiplier).sum ≤ (amounts.sum : Int) / tokenMultiplier := by
  induction amounts with
  | nil => simp
  | cons a amounts ih =>
    rw [List.map_cons, List.sum_cons, List.sum_cons, Nat.cast_add]
    calc
      (a : Int) / tokenMultiplier + (amounts.map fun a : Nat => (a : Int) / tokenMultiplier).sum
          ≤ a / tokenMultiplier + (amounts.sum : Int) / tokenMultiplier := by gcongr
      _ ≤ (a + amounts.sum : Int) / tokenMultiplier := by
        rw [Int.le_ediv_iff_mul_le hm, add_mul]
        exact add_le_add (Int.ediv_mul_le _ hm.ne') (Int.ediv_mul_le _ hm.ne')

end Released

/-! ## Derived multipliers -/

section Derived

variable {homeTokenDecimals remoteTokenDecimals : Int} {v : TokenMultiplierValues}

/-- A derived multiplier is the power of ten between the two decimals, and multiplies on the side that has more. -/
theorem deriveTokenMultiplierValues_ok (h : deriveTokenMultiplierValues homeTokenDecimals remoteTokenDecimals = .ok v) :
    0 < v.tokenMultiplier ∧ (v.multiplyOnRemote = true ↔ homeTokenDecimals < remoteTokenDecimals) ∧
      (if v.multiplyOnRemote then (10 : Int) ^ homeTokenDecimals.toNat * v.tokenMultiplier = 10 ^ remoteTokenDecimals.toNat
        else 10 ^ remoteTokenDecimals.toNat * v.tokenMultiplier = 10 ^ homeTokenDecimals.toNat) := by
  unfold deriveTokenMultiplierValues at h
  split at h
  · cases h
  rename_i hhome
  split at h
  · cases h
  rename_i hremote
  split at h
  · cases h
  cases h
  simp only [Bool.or_eq_true, decide_eq_true_eq, not_or, not_lt] at hhome hremote
  refine ⟨by positivity, decide_eq_true_iff, ?_⟩
  dsimp only
  split
  · rename_i hmore
    have hless : homeTokenDecimals < remoteTokenDecimals := of_decide_eq_true hmore
    rw [← pow_add]
    congr 1
    omega
  · rename_i hmore
    have hless : remoteTokenDecimals ≤ homeTokenDecimals := not_lt.1 fun h => hmore (decide_eq_true h)
    rw [← pow_add]
    congr 1
    omega

/-- Home units that are sent to a remote and back lose less than one remote unit, and nothing where the remote has the
finer unit. -/
theorem applyTokenScale_removeTokenScale (h : deriveTokenMultiplierValues homeTokenDecimals remoteTokenDecimals = .ok v)
    {sent received : Int} (hbound : sent ≤ maxUint256)
    (hsent : applyTokenScale v.tokenMultiplier v.multiplyOnRemote sent = .ok received) :
    ∃ back, removeTokenScale v.tokenMultiplier v.multiplyOnRemote received = .ok back ∧ back ≤ sent ∧
      sent - back < v.tokenMultiplier ∧ (v.multiplyOnRemote = true → back = sent) := by
  obtain ⟨hpos, -, -⟩ := deriveTokenMultiplierValues_ok h
  obtain ⟨m, multiplyOnRemote⟩ := v
  dsimp only at hpos hsent ⊢
  unfold applyTokenScale scaleTokens at hsent
  split at hsent
  · cases hsent
  rename_i hneg
  simp only [Bool.or_eq_true, decide_eq_true_eq, not_or, not_lt] at hneg
  obtain ⟨hsign, -⟩ := hneg
  unfold removeTokenScale scaleTokens
  cases multiplyOnRemote with
  | true =>
    rw [if_pos rfl] at hsent
    split at hsent
    · cases hsent
    cases hsent
    have hproduct : 0 ≤ sent * m := mul_nonneg hsign hpos.le
    refine ⟨sent, ?_, le_rfl, by omega, fun _ => rfl⟩
    rw [if_neg (by simp; omega), if_neg (by decide), if_neg hpos.ne', Int.mul_tdiv_cancel _ hpos.ne']
  | false =>
    rw [if_neg (by decide), if_neg hpos.ne'] at hsent
    cases hsent
    have hquotient : sent.tdiv m = sent / m := Int.tdiv_eq_ediv_of_nonneg hsign
    have hback : sent / m * m ≤ sent := Int.ediv_mul_le _ hpos.ne'
    have hnonneg : 0 ≤ sent / m := Int.ediv_nonneg hsign hpos.le
    refine ⟨sent / m * m, ?_, hback, ?_, nofun⟩
    · rw [hquotient, if_neg (by simp; omega), if_pos rfl, if_neg (by omega)]
    · have hmod := Int.emod_lt_of_pos sent hpos
      have hsplit := Int.emod_add_mul_ediv sent m
      have hcomm : sent / m * m = m * (sent / m) := Int.mul_comm _ _
      omega

end Derived

end IcttSentinel.Adapters
