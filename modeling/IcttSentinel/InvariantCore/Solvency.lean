/-
What physical coverage is worth: whatever the balances of the remotes are redeemed in, an escrow that passes
Gate B pays for it.
-/
import IcttSentinel.Adapters.Scaling
import IcttSentinel.InvariantCore.Characterisation

namespace IcttSentinel.InvariantCore

/-- The home units the redemptions of one remote release. -/
def releasedBy (r : RemoteObservation) (amounts : List Nat) : Int :=
  (amounts.map fun amount : Nat => Adapters.released r.scale.tokenMultiplier r.scale.multiplyOnRemote amount).sum

/-- The redemptions of each remote add up to its transferred balance at most. -/
def Redeemable (remotes : List RemoteObservation) (redemptions : List (List Nat)) : Prop :=
  List.Forall₂ (fun r amounts => ∃ balance, r.transferredBalance = some balance ∧ (amounts.sum : Int) ≤ balance)
    remotes redemptions

/-- The home units all redemptions release. -/
def totalReleased (remotes : List RemoteObservation) (redemptions : List (List Nat)) : Int :=
  (List.zipWith releasedBy remotes redemptions).sum

/-- A remote redeems its rounded-up liability at most. -/
theorem releasedBy_le {r : RemoteObservation} {x : RemoteLiability} (h : liabilityOf r = .ok x) {balance : Int}
    (hbalance : r.transferredBalance = some balance) {amounts : List Nat} (hsum : (amounts.sum : Int) ≤ balance) :
    releasedBy r amounts ≤ x.ceilHomeUnits := by
  unfold liabilityOf at h
  rw [hbalance] at h
  dsimp only at h
  split at h
  · cases h
  rename_i scaled hscaled
  cases h
  unfold toHomeUnits at hscaled
  split at hscaled
  · cases hscaled
  rename_i hneg
  rw [Bool.or_eq_true, decide_eq_true_eq, decide_eq_true_eq, not_or, not_lt, not_lt] at hneg
  obtain ⟨hbal, hmult⟩ := hneg
  unfold releasedBy
  cases hway : r.scale.multiplyOnRemote with
  | false =>
    rw [hway] at hscaled
    simp only [Bool.not_false, if_true] at hscaled
    split at hscaled
    · cases hscaled
    cases hscaled
    -- dividing on the remote: each release is at most its amount times the multiplier
    have hparts : ∀ l : List Nat,
        (l.map fun amount : Nat => Adapters.released r.scale.tokenMultiplier false amount).sum ≤
          l.sum * r.scale.tokenMultiplier := by
      intro l
      induction l with
      | nil => simp
      | cons a l ih =>
        rw [List.map_cons, List.sum_cons, List.sum_cons, Nat.cast_add, add_mul]
        exact add_le_add (Adapters.released_le_mul hmult a) ih
    exact (hparts amounts).trans (mul_le_mul_of_nonneg_right hsum hmult)
  | true =>
    rw [hway] at hscaled
    simp only [Bool.not_true, Bool.false_eq_true, if_false] at hscaled
    split at hscaled
    · cases hscaled
    rename_i hzero
    cases hscaled
    have hpos : 0 < r.scale.tokenMultiplier := lt_of_le_of_ne hmult (Ne.symm hzero)
    -- multiplying on the remote: the liability is the quotient rounded up
    have hfloor : balance / r.scale.tokenMultiplier ≤
        if balance.tmod r.scale.tokenMultiplier = 0 then balance.tdiv r.scale.tokenMultiplier
        else balance.tdiv r.scale.tokenMultiplier + 1 := by
      rw [Int.tdiv_eq_ediv_of_nonneg hbal]
      split <;> omega
    refine le_trans ?_ hfloor
    calc
      (amounts.map fun amount : Nat => Adapters.released r.scale.tokenMultiplier true amount).sum
          ≤ (amounts.map fun amount : Nat => (amount : Int) / r.scale.tokenMultiplier).sum :=
        List.sum_le_sum fun amount _ => Adapters.released_le_div hmult amount
      _ ≤ (amounts.sum : Int) / r.scale.tokenMultiplier := Adapters.sum_ediv_le hpos amounts
      _ ≤ balance / r.scale.tokenMultiplier := Int.ediv_le_ediv hpos hsum

/-- The loop over the remotes leaves a liability for each, which its redemptions stay below. -/
theorem totalReleased_le {remotes : List RemoteObservation} {liabilities : List RemoteLiability}
    (h : remotes.mapM liabilityOf = .ok liabilities) {redemptions : List (List Nat)}
    (hredeemable : Redeemable remotes redemptions) :
    totalReleased remotes redemptions ≤ (liabilities.map (·.ceilHomeUnits)).sum := by
  unfold Redeemable at hredeemable
  induction hredeemable generalizing liabilities with
  | nil =>
    cases h
    exact le_rfl
  | cons hfirst hrest ih =>
    rename_i r amounts remotes redemptions
    obtain ⟨balance, hbalance, hsum⟩ := hfirst
    rw [List.mapM_cons] at h
    cases hr : liabilityOf r with
    | error reason =>
      rw [hr] at h
      cases h
    | ok x =>
      rw [hr] at h
      cases hl : remotes.mapM liabilityOf with
      | error reason =>
        rw [hl] at h
        cases h
      | ok xs =>
        rw [hl] at h
        cases h
        show releasedBy r amounts + totalReleased remotes redemptions ≤ _
        rw [List.map_cons, List.sum_cons]
        exact add_le_add (releasedBy_le hr hbalance hsum) (ih hl)

/-- Where Gate B passes, the escrow pays for any redemptions of the remotes' balances. -/
theorem gateB_solvent {input : ProofInput} {gateAPassed : Bool}
    (hpass : (evaluateGateB input gateAPassed).outcome = .pass) {redemptions : List (List Nat)}
    (hredeemable : Redeemable input.remotes redemptions) :
    ∃ escrow, input.homeEscrow.escrowBalance = some escrow ∧ totalReleased input.remotes redemptions ≤ escrow := by
  unfold evaluateGateB at hpass
  split at hpass
  · cases hpass
  split at hpass
  · cases hpass
  split at hpass
  · cases hpass
  split at hpass
  · rename_i escrow pin hescrow hpin
    split at hpass
    · cases hpass
    · rename_i liabilities hliabilities
      refine ⟨escrow, hescrow, (totalReleased_le hliabilities hredeemable).trans ?_⟩
      unfold coverage at hpass
      dsimp only at hpass
      split at hpass
      · rename_i hsurplus
        exact sub_nonneg.1 hsurplus
      · cases hpass
  · cases hpass

/-- A remote whose units are ten to one home unit. -/
def sampleDividing : RemoteObservation :=
  { sampleRemote 25 25 10 with
    scale := { tokenMultiplier := 10, multiplyOnRemote := true, homeDecimals := 18, remoteDecimals := 19, established := true } }

/-- Two remotes, of which one loses dust in every redemption. -/
theorem gateB_solvent_sample :
    ∃ escrow, (sampleProof [sampleRemote 10 7 1, sampleDividing] [] 13).homeEscrow.escrowBalance = some escrow ∧
      totalReleased [sampleRemote 10 7 1, sampleDividing] [[4, 6], [9, 16]] ≤ escrow := by
  have hpass : (evaluateGateB (sampleProof [sampleRemote 10 7 1, sampleDividing] [] 13) true).outcome = .pass := by
    decide +kernel
  have hredeemable : Redeemable [sampleRemote 10 7 1, sampleDividing] [[4, 6], [9, 16]] :=
    .cons ⟨10, rfl, by decide⟩ (.cons ⟨25, rfl, by decide⟩ .nil)
  exact gateB_solvent hpass hredeemable

end IcttSentinel.InvariantCore
