/-
Range planning and adaptive splitting, packages/replay/src/plan.ts. A plan cuts a window into chunks
that follow each other without a hole; a range that fails is retried inside its budget, then halved,
then given up.
-/
import IcttSentinel.Replay.Reasons
import IcttSentinel.Storage.Schema

namespace IcttSentinel.Replay

open IcttSentinel.Storage

structure PlanInput where
  startBlock : Int
  agreedHead : Int
  maxRangeBlocks : Int
  retryBudget : Nat
  deriving DecidableEq, Repr

def spanOf (r : BlockRange) : Int := r.toBlock - r.fromBlock + 1

/-- The height lies in the range. -/
def Within (r : BlockRange) (height : Int) : Prop := r.fromBlock ≤ height ∧ height ≤ r.toBlock

/-- The height lies in one of the ranges. -/
def Covered (ranges : List BlockRange) (height : Int) : Prop := ∃ r ∈ ranges, Within r height

instance (r : BlockRange) (height : Int) : Decidable (Within r height) :=
  inferInstanceAs (Decidable (r.fromBlock ≤ height ∧ height ≤ r.toBlock))

instance (ranges : List BlockRange) (height : Int) : Decidable (Covered ranges height) :=
  inferInstanceAs (Decidable (∃ r ∈ ranges, Within r height))

/-! ## Planning -/

/-- The loop of `planRanges`: chunks of the width from a height up to the head. -/
def chunksFrom (width : Int) (hwidth : 1 ≤ width) (agreedHead start : Int) : List BlockRange :=
  if start ≤ agreedHead then
    { fromBlock := start
      toBlock := if start + width - 1 > agreedHead then agreedHead else start + width - 1 } ::
      chunksFrom width hwidth agreedHead (start + width)
  else []
termination_by (agreedHead + 1 - start).toNat
decreasing_by omega

def planRanges (input : PlanInput) : Except String (List BlockRange) :=
  if h : input.maxRangeBlocks < 1 then .error "maxRangeBlocks must be at least 1"
  else if input.agreedHead < input.startBlock then .ok []
  else .ok (chunksFrom input.maxRangeBlocks (by omega) input.agreedHead input.startBlock)

/-- The ranges follow each other without a hole from one height to another. -/
def Tiles (lo hi : Int) : List BlockRange → Prop
  | [] => hi < lo
  | r :: rest => r.fromBlock = lo ∧ r.fromBlock ≤ r.toBlock ∧ r.toBlock ≤ hi ∧ Tiles (r.toBlock + 1) hi rest

theorem tiles_chunksFrom (width : Int) (hwidth : 1 ≤ width) (agreedHead start : Int) :
    Tiles start agreedHead (chunksFrom width hwidth agreedHead start) := by
  fun_induction chunksFrom width hwidth agreedHead start with
  | case1 start hle ih =>
    refine ⟨rfl, ?_, ?_, ?_⟩
    · dsimp only
      split <;> omega
    · dsimp only
      split <;> omega
    · dsimp only
      split
      · -- the last chunk ends at the head, past which nothing is planned
        rename_i hlast
        unfold chunksFrom
        rw [if_neg (by omega)]
        unfold Tiles
        omega
      · have hnext : start + width - 1 + 1 = start + width := by omega
        rw [hnext]
        exact ih
  | case2 start hgt =>
    unfold Tiles
    omega

/-- A plan tiles its window. -/
theorem planRanges_ok {input : PlanInput} {ranges : List BlockRange} (h : planRanges input = .ok ranges) :
    Tiles input.startBlock input.agreedHead ranges := by
  unfold planRanges at h
  split at h
  · cases h
  · split at h
    · rename_i hempty
      cases h
      exact hempty
    · cases h
      exact tiles_chunksFrom _ _ _ _

theorem planRanges_succeeds {input : PlanInput} (h : 1 ≤ input.maxRangeBlocks) :
    ∃ ranges, planRanges input = .ok ranges := by
  unfold planRanges
  rw [dif_neg (by omega)]
  split
  · exact ⟨_, rfl⟩
  · exact ⟨_, rfl⟩

namespace Tiles

variable {lo hi : Int} {ranges : List BlockRange}

theorem bounds (h : Tiles lo hi ranges) {r : BlockRange} (hr : r ∈ ranges) :
    lo ≤ r.fromBlock ∧ r.fromBlock ≤ r.toBlock ∧ r.toBlock ≤ hi := by
  induction ranges generalizing lo with
  | nil => simp at hr
  | cons a ranges ih =>
    obtain ⟨hfrom, hle, hto, hrest⟩ := h
    rcases List.mem_cons.1 hr with rfl | hr
    · exact ⟨by omega, hle, hto⟩
    · have := ih hrest hr
      omega

theorem ascending (h : Tiles lo hi ranges) : ranges.Pairwise fun a b => a.toBlock < b.fromBlock := by
  induction ranges generalizing lo with
  | nil => exact List.Pairwise.nil
  | cons a ranges ih =>
    refine List.Pairwise.cons (fun b hb => ?_) (ih h.2.2.2)
    have := h.2.2.2.bounds hb
    omega

theorem starts_ascending (h : Tiles lo hi ranges) : ranges.Pairwise fun a b => a.fromBlock < b.fromBlock := by
  refine h.ascending.imp_of_mem fun {a b} ha _ hab => ?_
  have := h.bounds ha
  omega

/-- The tiles cover exactly the window. -/
theorem covered_iff (h : Tiles lo hi ranges) {b : Int} : Covered ranges b ↔ lo ≤ b ∧ b ≤ hi := by
  induction ranges generalizing lo with
  | nil =>
    have hempty : hi < lo := h
    simp only [Covered, List.not_mem_nil, false_and, exists_false, false_iff]
    omega
  | cons a ranges ih =>
    obtain ⟨hfrom, hle, hto, hrest⟩ := h
    have hcons : Covered (a :: ranges) b ↔ Within a b ∨ Covered ranges b := by simp [Covered]
    rw [hcons, ih hrest, Within]
    omega

end Tiles

/-! ## Splitting -/

def splitRange (r : BlockRange) : Option (BlockRange × BlockRange) :=
  if spanOf r ≤ 1 then none
  else
    let half := spanOf r / 2
    some ({ fromBlock := r.fromBlock, toBlock := r.fromBlock + half - 1 },
      { fromBlock := r.fromBlock + half, toBlock := r.toBlock })

/-- The two halves follow each other and make up the range. -/
theorem splitRange_eq_some {r lower upper : BlockRange} (h : splitRange r = some (lower, upper)) :
    lower.fromBlock = r.fromBlock ∧ lower.fromBlock ≤ lower.toBlock ∧ upper.fromBlock = lower.toBlock + 1 ∧
      upper.fromBlock ≤ upper.toBlock ∧ upper.toBlock = r.toBlock := by
  unfold splitRange at h
  split at h
  · cases h
  · rename_i hspan
    obtain ⟨rfl, rfl⟩ := Prod.mk.inj (Option.some.inj h)
    unfold spanOf at hspan ⊢
    refine ⟨rfl, ?_, ?_, ?_, rfl⟩ <;> dsimp only <;> omega

structure AttemptState where
  range : BlockRange
  attempts : Nat
  retryBudget : Nat
  deriving DecidableEq, Repr

inductive NextStep where
  | retry (range : BlockRange) (attempts : Nat)
  | split (lower upper : BlockRange)
  | giveUp (reason : ReplayReason)
  deriving DecidableEq, Repr

def nextStep (state : AttemptState) (reason : ReplayReason) : NextStep :=
  if !reason.isRetryable then .giveUp reason
  else if state.attempts + 1 < state.retryBudget then .retry state.range (state.attempts + 1)
  else match splitRange state.range with
    | some (lower, upper) => .split lower upper
    | none => .giveUp (if spanOf state.range = 1 then .rangeIndivisible else .retryBudgetExhausted)

theorem nextStep_retry {state : AttemptState} {reason : ReplayReason} {range : BlockRange} {attempts : Nat}
    (h : nextStep state reason = .retry range attempts) :
    attempts = state.attempts + 1 ∧ state.attempts + 1 < state.retryBudget := by
  unfold nextStep at h
  split at h
  · cases h
  · split at h
    · rename_i hspare
      cases h
      exact ⟨rfl, hspare⟩
    · split at h <;> cases h

theorem nextStep_split {state : AttemptState} {reason : ReplayReason} {lower upper : BlockRange}
    (h : nextStep state reason = .split lower upper) : splitRange state.range = some (lower, upper) := by
  unfold nextStep at h
  split at h
  · cases h
  · split at h
    · cases h
    · split at h
      · rename_i hhalves
        cases h
        exact hhalves
      · cases h

/-- A range is only given up for a reason that blocks the replay or contests the chain view. -/
theorem nextStep_giveUp {state : AttemptState} {reason given : ReplayReason}
    (h : nextStep state reason = .giveUp given) : given.isBlocking = true ∨ given = .providerDivergence := by
  unfold nextStep at h
  split at h
  · rename_i hstructural
    cases h
    exact ReplayReason.blocking_of_not_retryable (by simpa using hstructural)
  · split at h
    · cases h
    · split at h
      · cases h
      · cases h
        left
        split <;> rfl

end IcttSentinel.Replay
