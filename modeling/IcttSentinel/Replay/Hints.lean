/-
Priority hints, packages/replay/src/hints.ts: the only influence of a hint is the order in which
planned ranges are served.
-/
import IcttSentinel.Lib.Sorting
import IcttSentinel.Replay.Plan

namespace IcttSentinel.Replay

open IcttSentinel.Lib IcttSentinel.Storage

inductive HintSource where
  | webhook
  | metricsApi
  | dataApi
  deriving DecidableEq, Repr

structure PriorityHint where
  hintId : String
  deploymentId : String
  chainKey : String
  suggestedBlockNumber : Int
  source : HintSource
  dedupKey : String
  receivedAt : Int
  deriving DecidableEq, Repr

/-- A range that holds a hinted height comes first. -/
def score (hints : List PriorityHint) (r : BlockRange) : Nat :=
  if hints.any fun h => decide (r.fromBlock ≤ h.suggestedBlockNumber) && decide (h.suggestedBlockNumber ≤ r.toBlock)
  then 0 else 1

def prioritise (planned : List BlockRange) (hints : List PriorityHint) : List BlockRange :=
  sortOn (fun r => toLex (score hints r, r.fromBlock)) planned

theorem prioritise_perm (planned : List BlockRange) (hints : List PriorityHint) :
    (prioritise planned hints).Perm planned := sortOn_perm _ _

/-- A hint asks for a height of the range. -/
def Hinted (hints : List PriorityHint) (r : BlockRange) : Prop := ∃ h ∈ hints, Within r h.suggestedBlockNumber

/-- The hints ask for the lowest ranges of the plan: none is left without a hint below one that has a hint. -/
def HintsInOrder (planned : List BlockRange) (hints : List PriorityHint) : Prop :=
  ∀ r ∈ planned, Hinted hints r → ∀ r' ∈ planned, r'.fromBlock < r.fromBlock → Hinted hints r'

theorem score_eq_zero_iff {hints : List PriorityHint} {r : BlockRange} : score hints r = 0 ↔ Hinted hints r := by
  unfold score Hinted Within
  simp only [ite_eq_left_iff, one_ne_zero, imp_false, not_not, List.any_eq_true, Bool.and_eq_true, decide_eq_true_eq]

theorem score_le_one (hints : List PriorityHint) (r : BlockRange) : score hints r ≤ 1 := by
  unfold score
  split <;> omega

/-- Hints for the lowest ranges leave an ascending plan as it is. -/
theorem prioritise_eq_self {planned : List BlockRange} {hints : List PriorityHint}
    (hplan : planned.Pairwise fun a b => a.fromBlock < b.fromBlock) (h : HintsInOrder planned hints) :
    prioritise planned hints = planned := by
  refine sortOn_of_pairwise (hplan.imp_of_mem fun {a b} ha hb hab => Prod.Lex.toLex_le_toLex.2 ?_)
  have hscore : score hints a ≤ score hints b := by
    by_cases hhinted : score hints b = 0
    · rw [hhinted, score_eq_zero_iff.2 (h b hb (score_eq_zero_iff.1 hhinted) a ha hab)]
    · have := score_le_one hints a
      omega
  rcases hscore.lt_or_eq with hlt | heq
  · exact Or.inl hlt
  · exact Or.inr ⟨heq, hab.le⟩

theorem hintsInOrder_nil (planned : List BlockRange) : HintsInOrder planned [] := by
  rintro r _ ⟨h, hh, _⟩
  cases hh

end IcttSentinel.Replay
