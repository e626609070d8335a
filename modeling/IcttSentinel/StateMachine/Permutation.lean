/-
Message derivation is order- and duplication-independent: state is derived from a set of facts, so
two lists with the same inputs, in whatever order and with whatever repetitions, derive the same
message in every field.
-/
import IcttSentinel.StateMachine.FailClosed

namespace IcttSentinel.StateMachine

open IcttSentinel.Domain IcttSentinel.Lib

section Congr

variable {a b : MessageAggregate} (h : a.facts.rows.Perm b.facts.rows)
include h

theorem has_congr (kind : TransitionKind) : a.has kind = b.has kind := by
  rw [Bool.eq_iff_iff, MessageAggregate.has_iff, MessageAggregate.has_iff]
  simp only [h.mem_iff]

theorem lifecycleState_congr : lifecycleState a = lifecycleState b := by
  have hnil : a.facts.rows = [] ↔ b.facts.rows = [] := by
    rw [← List.length_eq_zero_iff, h.length_eq, List.length_eq_zero_iff]
  unfold lifecycleState executionState inFlightState
  simp only [hnil, has_congr h]

/-- The references of an aggregate separate its facts, so its canonical order is one of the set. -/
theorem sortOn_filter_congr (p : TransitionInput → Bool) :
    sortOn (fun f => codeUnits f.ref) (a.facts.rows.filter p) =
      sortOn (fun f => codeUnits f.ref) (b.facts.rows.filter p) := by
  refine sortOn_eq_of_perm (fun f hf g hg hfg => ?_) (h.filter p)
  exact a.facts.eq_of_key (List.mem_filter.1 hf).1 (List.mem_filter.1 hg).1 (codeUnits_injective hfg)

theorem supportingFacts_congr : supportingFacts a = supportingFacts b := by
  have hs := sortOn_filter_congr h fun _ => true
  simp only [List.filter_true] at hs
  rw [supportingFacts, supportingFacts, hs]

theorem economicEffectOf_congr : economicEffectOf a = economicEffectOf b := by
  unfold economicEffectOf
  simp only [distinctEffects_eq, sortOn_filter_congr h]

theorem latestObservedAt_congr : latestObservedAt a = latestObservedAt b := by
  have hcomm : RightCommutative laterObservedAt := by
    constructor
    intro t f g
    unfold laterObservedAt
    cases f.observedAt <;> cases g.observedAt <;> cases t <;> simp only <;> repeat' split
    all_goals simp only [Option.some.injEq] at *
    all_goals grind
  exact List.Perm.foldl_eq h none

theorem isStale_congr (context : EvaluationContext) : isStale a context = isStale b context := by
  unfold isStale
  rw [lifecycleState_congr h, latestObservedAt_congr h]

theorem sortStrings_filterMap_congr (field : TransitionInput → Option String) :
    sortStrings (a.facts.rows.filterMap field).eraseDups = sortStrings (b.facts.rows.filterMap field).eraseDups :=
  sortStrings_eraseDups_eq fun s => by simp only [List.mem_filterMap, h.mem_iff]

/-- The derived message depends on the facts of the aggregate only, not on their order. -/
theorem deriveState_congr (context : EvaluationContext) : deriveState a context = deriveState b context := by
  unfold deriveState factsOfKind
  simp only [lifecycleState_congr h, isStale_congr h, economicEffectOf_congr h, sortOn_filter_congr h,
    sortStrings_filterMap_congr h, has_congr h, supportingFacts_congr h]

end Congr

/-- For every list of inputs of one message in which the raw-fact reference determines the input,
and every other list with exactly the same inputs: both fold without an error, and the derived
messages are equal in every field. -/
theorem derive_order_independent (key : MessageKey) (context : EvaluationContext)
    (inputs inputs' : List TransitionInput) (hkey : OfMessage key inputs)
    (hdet : Keyed.Determines TransitionInput.ref inputs) (hset : ∀ i, i ∈ inputs ↔ i ∈ inputs') :
    ∃ d, derive key context inputs = .ok d ∧ derive key context inputs' = .ok d := by
  have hkey' : OfMessage key inputs' := fun i hi => hkey i ((hset i).2 hi)
  refine ⟨_, derive_eq hkey, ?_⟩
  rw [derive_eq hkey', deriveState_congr (aggregateOf_facts_perm hdet hset)]

theorem derive_order_independent_reversed :
    ∃ d, derive sampleKey sampleContext [sampleInput .icmSent 1, sampleInput .delivered 2] = .ok d ∧
      derive sampleKey sampleContext
        [sampleInput .delivered 2, sampleInput .icmSent 1, sampleInput .delivered 2] = .ok d := by
  refine derive_order_independent sampleKey sampleContext _ _ (by decide) ?_ (by simp)
  intro f hf g hg h
  fin_cases hf <;> fin_cases hg <;> first | rfl | exact absurd h (by decide)

end IcttSentinel.StateMachine
