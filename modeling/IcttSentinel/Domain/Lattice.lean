/-
The verdict lattice as an order, packages/domain/src/verdict.ts: verdicts ordered by their rank, the worst of a
list of them, and the combination of required and optional judgements.
-/
import IcttSentinel.Domain.Verdict

namespace IcttSentinel.Domain

theorem Verdict.rank_injective : Function.Injective Verdict.rank := by
  intro v w
  cases v <;> cases w <;> decide

/-- `CRITICAL > UNKNOWN > WARN > OK`. -/
instance : LinearOrder Verdict := LinearOrder.lift' Verdict.rank Verdict.rank_injective

theorem Verdict.le_iff {v w : Verdict} : v ≤ w ↔ v.rank ≤ w.rank := Iff.rfl

theorem Verdict.lt_iff {v w : Verdict} : v < w ↔ v.rank < w.rank := Iff.rfl

theorem Verdict.ok_le (v : Verdict) : .ok ≤ v := Nat.zero_le _

/-! ## The worst of a list -/

/-- The worst verdict of a list, `OK` if there is none. -/
def worst (verdicts : List Verdict) : Verdict := verdicts.foldr max .ok

@[simp] theorem worst_nil : worst [] = .ok := rfl

@[simp] theorem worst_cons (v : Verdict) (vs : List Verdict) : worst (v :: vs) = max v (worst vs) := rfl

theorem worst_append (vs ws : List Verdict) : worst (vs ++ ws) = max (worst vs) (worst ws) := by
  induction vs with
  | nil => exact (max_eq_right (Verdict.ok_le _)).symm
  | cons v vs ih => rw [List.cons_append, worst_cons, worst_cons, ih, max_assoc]

theorem worst_le_iff {vs : List Verdict} {w : Verdict} : worst vs ≤ w ↔ ∀ v ∈ vs, v ≤ w := by
  induction vs with
  | nil =>
    rw [worst_nil]
    exact iff_of_true (Verdict.ok_le w) fun v hv => absurd hv List.not_mem_nil
  | cons v vs ih => rw [worst_cons, max_le_iff, ih, List.forall_mem_cons]

theorem le_worst {vs : List Verdict} {v : Verdict} (h : v ∈ vs) : v ≤ worst vs := worst_le_iff.1 le_rfl v h

theorem worst_mono {vs ws : List Verdict} (h : vs ⊆ ws) : worst vs ≤ worst ws :=
  worst_le_iff.2 fun _ hv => le_worst (h hv)

/-- A verdict above `OK` is reached by some member. -/
theorem le_worst_iff {vs : List Verdict} {w : Verdict} (hw : w ≠ .ok) : w ≤ worst vs ↔ ∃ v ∈ vs, w ≤ v := by
  induction vs with
  | nil =>
    rw [worst_nil]
    refine iff_of_false (fun h => hw ?_) (by simp)
    exact le_antisymm h (Verdict.ok_le w)
  | cons v vs ih => rw [worst_cons, le_max_iff, ih, List.exists_mem_cons_iff]

/-! ## Judgements -/

inductive Requirement where
  | required
  | optional
  deriving DecidableEq, Repr

structure Judgement where
  verdict : Verdict
  requirement : Requirement
  deriving DecidableEq, Repr

/-- `BY_RANK`. -/
def byRank : List Verdict := [.ok, .warn, .unknown, .critical]

/-- An `UNKNOWN` on a check nobody requires ranks as `WARN`. -/
def rankOf (j : Judgement) : Nat :=
  if j.verdict = .unknown ∧ j.requirement = .optional then Verdict.warn.rank else j.verdict.rank

def combineVerdicts (judgements : List Judgement) : Verdict :=
  if judgements.length = 0 then .unknown
  else (byRank[judgements.foldl (fun highest j => if rankOf j > highest then rankOf j else highest) 0]?).getD .unknown

/-- The verdict a judgement counts as. -/
def Judgement.countsAs (j : Judgement) : Verdict :=
  if j.verdict = .unknown ∧ j.requirement = .optional then .warn else j.verdict

theorem rankOf_eq (j : Judgement) : rankOf j = j.countsAs.rank := by
  unfold rankOf Judgement.countsAs
  split <;> rfl

theorem byRank_rank (v : Verdict) : (byRank[v.rank]?).getD .unknown = v := by
  cases v <;> rfl

/-- The loop keeps the rank of the worst verdict so far. -/
theorem highest_eq (judgements : List Judgement) (v : Verdict) :
    judgements.foldl (fun highest j => if rankOf j > highest then rankOf j else highest) v.rank =
      (max v (worst (judgements.map Judgement.countsAs))).rank := by
  induction judgements generalizing v with
  | nil => exact congrArg Verdict.rank (max_eq_left (Verdict.ok_le v)).symm
  | cons j judgements ih =>
    have hstep : (if rankOf j > v.rank then rankOf j else v.rank) = (max v j.countsAs).rank := by
      rw [rankOf_eq]
      split
      · rename_i hlt
        rw [max_eq_right (le_of_lt (Verdict.lt_iff.2 hlt))]
      · rename_i hle
        rw [max_eq_left (Verdict.le_iff.2 (not_lt.1 hle))]
    rw [List.foldl_cons, hstep, ih, List.map_cons, worst_cons, max_assoc]

/-- Judgements combine to the worst verdict any of them counts as. -/
theorem combineVerdicts_eq {judgements : List Judgement} (h : judgements ≠ []) :
    combineVerdicts judgements = worst (judgements.map Judgement.countsAs) := by
  unfold combineVerdicts
  rw [if_neg (by simpa using h)]
  have hloop := highest_eq judgements .ok
  rw [max_eq_right (Verdict.ok_le _)] at hloop
  have hrank : Verdict.ok.rank = 0 := rfl
  rw [hrank] at hloop
  rw [hloop, byRank_rank]

end IcttSentinel.Domain
