/-
At most one economic effect per message. The effect of a derived message is capped at one, and the
cap is reported: two distinct destination effects make the verdict CRITICAL, no further fact takes
that verdict away, and an OK verdict needs an execution with at most one effect and none of the
fail-closed conditions.
-/
import IcttSentinel.StateMachine.Permutation

namespace IcttSentinel.StateMachine

open IcttSentinel.Domain IcttSentinel.Lib

/-- Two facts of the list, read from different logs, each credit the destination. -/
def TwoEffects (inputs : List TransitionInput) : Prop :=
  ∃ f ∈ inputs, ∃ g ∈ inputs, isDestinationEffect f = true ∧ isDestinationEffect g = true ∧ f.ref ≠ g.ref

theorem TwoEffects.mono {inputs more : List TransitionInput} (h : TwoEffects inputs)
    (hsub : ∀ i ∈ inputs, i ∈ more) : TwoEffects more := by
  obtain ⟨f, hf, g, hg, hrest⟩ := h
  exact ⟨f, hsub f hf, g, hsub g hg, hrest⟩

theorem twoEffects_congr {inputs inputs' : List TransitionInput} (h : ∀ i, i ∈ inputs ↔ i ∈ inputs') :
    TwoEffects inputs ↔ TwoEffects inputs' :=
  ⟨fun ht => ht.mono fun i => (h i).1, fun ht => ht.mono fun i => (h i).2⟩

/-! ## The verdict of an aggregate -/

theorem one_lt_length_iff {α : Type} {l : List α} (h : l.Nodup) :
    1 < l.length ↔ ∃ x ∈ l, ∃ y ∈ l, x ≠ y := by
  constructor
  · intro hlen
    match l, h with
    | x :: y :: l, h => exact ⟨x, by simp, y, by simp, fun hxy => by simp [hxy] at h⟩
  · rintro ⟨x, hx, y, hy, hxy⟩
    match l with
    | [z] => simp only [List.mem_singleton] at hx hy; exact absurd (hx.trans hy.symm) hxy
    | _ :: _ :: _ => simp

theorem one_lt_distinctEffects {aggregate : MessageAggregate} :
    1 < (distinctEffects aggregate).length ↔ TwoEffects aggregate.facts.rows := by
  rw [length_distinctEffects, one_lt_length_iff (aggregate.facts.nodup.of_map.filter _)]
  simp only [List.mem_filter]
  constructor
  · rintro ⟨f, ⟨hf, hfe⟩, g, ⟨hg, hge⟩, hne⟩
    exact ⟨f, hf, g, hg, hfe, hge, fun h => hne (aggregate.facts.eq_of_key hf hg h)⟩
  · rintro ⟨f, hf, g, hg, hfe, hge, hne⟩
    exact ⟨f, ⟨hf, hfe⟩, g, ⟨hg, hge⟩, fun h => hne (by rw [h])⟩

theorem duplicates_ne_nil {aggregate : MessageAggregate} :
    (economicEffectOf aggregate).2.length > 0 ↔ TwoEffects aggregate.facts.rows := by
  rw [← one_lt_distinctEffects]
  simp only [economicEffectOf]
  split
  · rename_i h
    exact ⟨fun _ => h, fun _ => by omega⟩
  · rename_i h
    simp [h]

theorem deriveState_critical (context : EvaluationContext) {aggregate : MessageAggregate} :
    (deriveState aggregate context).verdict = .critical ↔ TwoEffects aggregate.facts.rows := by
  rw [← duplicates_ne_nil]
  simp only [deriveState]
  split
  · rename_i h
    simp [h]
  · rename_i h
    simp [stateVerdict_ne_critical, h]

/-- The effect is counted as soon as the aggregate holds one destination effect. -/
theorem deriveState_count (context : EvaluationContext) {aggregate : MessageAggregate} :
    (deriveState aggregate context).effect.count = 1 ↔
      ∃ f ∈ aggregate.facts.rows, isDestinationEffect f = true := by
  have hnone : (distinctEffects aggregate).head? = none ↔
      ∀ f ∈ aggregate.facts.rows, ¬ isDestinationEffect f = true := by
    rw [List.head?_eq_none_iff, ← List.length_eq_zero_iff, length_distinctEffects, List.length_eq_zero_iff,
      List.filter_eq_nil_iff]
  simp only [deriveState, economicEffectOf]
  split
  · rename_i h
    simpa using hnone.1 h
  · rename_i h
    rw [hnone] at h
    push Not at h
    simpa using h

theorem executionState_executed {aggregate : MessageAggregate}
    (h : executionState aggregate = .executedSuccess ∨ executionState aggregate = .retriedSuccess) :
    aggregate.has .executionSucceeded = true ∨ aggregate.has .executionRetried = true := by
  by_contra hnone
  rw [not_or] at hnone
  have hne : ∀ s : MessageState, s = .executedSuccess ∨ s = .retriedSuccess → executionState aggregate ≠ s := by
    intro s hs
    unfold executionState
    rw [if_neg hnone.2, if_neg hnone.1]
    rcases hs with rfl | rfl <;>
      exact ite_ne (ite_ne (by decide) (by decide)) (inFlightState_ne (by decide))
  rcases h with h | h
  · exact hne _ (Or.inl rfl) h
  · exact hne _ (Or.inr rfl) h

/-- An executed message has an execution fact and none of the conditions that outrank it. -/
theorem lifecycleState_executed {aggregate : MessageAggregate}
    (h : lifecycleState aggregate = .executedSuccess ∨ lifecycleState aggregate = .retriedSuccess) :
    (aggregate.has .executionSucceeded = true ∨ aggregate.has .executionRetried = true) ∧
      ∀ k ∈ [TransitionKind.unsupported, .orphaned, .pausedVersion, .unreceivableByVersionPolicy],
        aggregate.has k = false := by
  unfold lifecycleState at h
  split at h
  · rcases h with h | h <;> cases h
  split at h
  · rcases h with h | h <;> cases h
  rename_i hu
  split at h
  · rcases h with h | h <;> cases h
  rename_i ho
  split at h
  · rcases h with h | h <;> cases h
  rename_i hp
  split at h
  · rcases h with h | h <;> cases h
  rename_i hv
  -- each earlier return names another state, so its kind was not seen
  refine ⟨executionState_executed h, fun k hk => ?_⟩
  simp only [List.mem_cons, List.not_mem_nil, or_false] at hk
  rcases hk with rfl | rfl | rfl | rfl
  · simpa using hu
  · simpa using ho
  · simpa using hp
  · simpa using hv

theorem deriveState_ok {aggregate : MessageAggregate} {context : EvaluationContext}
    (h : (deriveState aggregate context).verdict = .ok) :
    (∃ f ∈ aggregate.facts.rows, f.kind = .executionSucceeded ∨ f.kind = .executionRetried) ∧
      ¬ TwoEffects aggregate.facts.rows ∧
      ∀ f ∈ aggregate.facts.rows,
        f.kind ∉ [TransitionKind.unsupported, .orphaned, .pausedVersion, .unreceivableByVersionPolicy] := by
  have htwo : ¬ TwoEffects aggregate.facts.rows := by
    rw [← deriveState_critical context, h]
    decide
  have hstate : stateVerdict (deriveState aggregate context).state = .ok := by
    rw [← duplicates_ne_nil] at htwo
    rw [← h]
    simp only [deriveState, if_neg htwo]
  rw [stateVerdict_eq_ok, deriveState_state (by decide) (by decide),
    deriveState_state (by decide) (by decide)] at hstate
  obtain ⟨hexec, hnone⟩ := lifecycleState_executed hstate
  refine ⟨?_, htwo, fun f hf hk => ?_⟩
  · rcases hexec with hexec | hexec <;> obtain ⟨f, hf, hk⟩ := MessageAggregate.has_iff.1 hexec
    · exact ⟨f, hf, Or.inl hk⟩
    · exact ⟨f, hf, Or.inr hk⟩
  · exact MessageAggregate.has_eq_false.1 (hnone _ hk) f hf rfl

/-! ## The law over lists of inputs -/

/-- For every list of inputs of one message in which the raw-fact reference determines the input:
the verdict is CRITICAL exactly when two distinct destination effects were folded; OK needs an
execution with at most one effect and no unsupported, orphaned, paused or unreceivable fact; and
folding further facts keeps a CRITICAL verdict and never lowers the effect count. -/
theorem at_most_one_effect (key : MessageKey) (context : EvaluationContext) (inputs : List TransitionInput)
    (hkey : OfMessage key inputs) (hdet : Keyed.Determines TransitionInput.ref inputs) :
    ∃ d, derive key context inputs = .ok d ∧
      (d.verdict = .critical ↔ TwoEffects inputs) ∧
      (d.verdict = .ok →
        (∃ f ∈ inputs, f.kind = .executionSucceeded ∨ f.kind = .executionRetried) ∧ ¬ TwoEffects inputs ∧
        ∀ f ∈ inputs,
          f.kind ∉ [TransitionKind.unsupported, .orphaned, .pausedVersion, .unreceivableByVersionPolicy]) ∧
      ∀ more context', OfMessage key more → Keyed.Determines TransitionInput.ref more →
        (∀ i ∈ inputs, i ∈ more) →
        ∃ d', derive key context' more = .ok d' ∧ (d.verdict = .critical → d'.verdict = .critical) ∧
          d.effect.count ≤ d'.effect.count := by
  have hmem : ∀ {l}, Keyed.Determines TransitionInput.ref l → ∀ f, f ∈ (aggregateOf key l).facts.rows ↔ f ∈ l :=
    fun hl f => mem_aggregateOf_of_determines hl
  refine ⟨_, derive_eq hkey, ?_, fun h => ?_, fun more context' hkey' hdet' hsub => ⟨_, derive_eq hkey', ?_, ?_⟩⟩
  · rw [deriveState_critical, twoEffects_congr (hmem hdet)]
  · have hok := deriveState_ok h
    rw [twoEffects_congr (hmem hdet)] at hok
    simpa only [hmem hdet] using hok
  · rw [deriveState_critical, deriveState_critical, twoEffects_congr (hmem hdet), twoEffects_congr (hmem hdet')]
    exact fun h => h.mono hsub
  · -- a count of zero is below everything, and a count of one has an effect that is still there
    by_cases hone : (deriveState (aggregateOf key inputs) context).effect.count = 1
    · obtain ⟨f, hf, he⟩ := (deriveState_count context).1 hone
      rw [hmem hdet] at hf
      have hmore := (deriveState_count context').2 ⟨f, (hmem hdet' f).2 (hsub f hf), he⟩
      rw [hone, hmore]
    · omega

/-- Two logs that each credit the destination: the message is CRITICAL, and stays so with its delivery. -/
theorem at_most_one_effect_executed :
    let inputs := [sampleInput .sourceAccounted 0, sampleInput .executionSucceeded 1, sampleInput .executionSucceeded 2]
    ∃ d, derive sampleKey sampleContext inputs = .ok d ∧ d.verdict = .critical ∧
      ∃ d', derive sampleKey sampleContext (sampleInput .delivered 3 :: inputs) = .ok d' ∧ d'.verdict = .critical ∧
        d.effect.count ≤ d'.effect.count := by
  intro inputs
  have hkey : OfMessage sampleKey inputs := by decide
  have hkeys : OfMessage sampleKey (sampleInput .delivered 3 :: inputs) := by decide
  have hdets : Keyed.Determines TransitionInput.ref (sampleInput .delivered 3 :: inputs) := by
    unfold Keyed.Determines
    decide
  have hdet : Keyed.Determines TransitionInput.ref inputs := fun i hi j hj =>
    hdets i (List.mem_cons_of_mem _ hi) j (List.mem_cons_of_mem _ hj)
  obtain ⟨d, hd, hcritical, -, hmore⟩ := at_most_one_effect sampleKey sampleContext inputs hkey hdet
  have hverdict : d.verdict = .critical :=
    hcritical.2 ⟨sampleInput .executionSucceeded 1, by simp [inputs], sampleInput .executionSucceeded 2, by simp [inputs],
      rfl, rfl, by decide⟩
  obtain ⟨d', hd', hkept, hcount⟩ := hmore _ sampleContext hkeys hdets fun i hi => List.mem_cons_of_mem _ hi
  exact ⟨d, hd, hverdict, d', hd', hkept hverdict, hcount⟩

end IcttSentinel.StateMachine
