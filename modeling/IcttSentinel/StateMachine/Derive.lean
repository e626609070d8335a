/-
Deriving the state of a message, packages/state-machine/src/derive.ts: a prioritised case analysis
over the kinds of the facts, the economic effect with its duplicates, and the staleness overlay.
-/
import IcttSentinel.StateMachine.Aggregate

namespace IcttSentinel.StateMachine

open IcttSentinel.Domain IcttSentinel.Lib

/-- `EvaluationContext`: the injected evaluation time and the staleness bound, in milliseconds. -/
structure EvaluationContext where
  evaluatedAt : Int
  staleAfterMs : Int
  deriving DecidableEq, Repr

/-- `EconomicEffect`; its count is `0 | 1` by type. -/
structure EconomicEffect where
  count : Fin 2
  sourceFact : Option RawFactRef
  destinationFact : Option RawFactRef
  deriving DecidableEq, Repr

structure DerivedMessage where
  state : MessageState
  verdict : Verdict
  effect : EconomicEffect
  duplicateEffectFacts : List RawFactRef
  sendAttempts : Nat
  executionAttempts : Nat
  envelopeIds : List String
  receiptObserved : Bool
  unsupportedReasons : List String
  supportingFacts : List RawFactRef
  deriving DecidableEq, Repr

def carriesEffect (f : TransitionInput) : Bool := f.carriesEconomicEffect ≠ some false

/-- The loop body of `latestObservedAt`. -/
def laterObservedAt (latest : Option Int) (f : TransitionInput) : Option Int :=
  match f.observedAt, latest with
  | none, _ => latest
  | some t, none => some t
  | some t, some u => if t > u then some t else some u

def latestObservedAt (aggregate : MessageAggregate) : Option Int :=
  aggregate.facts.rows.foldl laterObservedAt none

/-- Steps 6 and 7 of `lifecycleState`: in flight, most advanced first, and a receipt last. -/
def inFlightState (aggregate : MessageAggregate) : MessageState :=
  if aggregate.has .delivered then .delivered
  else if aggregate.has .icmSent || aggregate.has .sendRetry then .icmSent
  else if aggregate.has .sourceAccounted then .sourceAccounted
  else if aggregate.has .intentObserved then .intentObserved
  else if aggregate.has .sourceApplicationEmitted then .sourceApplicationEmitted
  else if aggregate.has .receiptObserved then .receiptObserved
  else .unclassifiable

/-- Steps 4 and 5 of `lifecycleState`: success, then failure, then whatever is in flight. -/
def executionState (aggregate : MessageAggregate) : MessageState :=
  if aggregate.has .executionRetried then .retriedSuccess
  else if aggregate.has .executionSucceeded then .executedSuccess
  else if aggregate.has .executionFailed then
    if aggregate.has .sendRetry || aggregate.has .envelopeResigned then .retryPending else .executedFailed
  else inFlightState aggregate

/-- The lifecycle position before any staleness overlay, in fail-closed precedence. -/
def lifecycleState (aggregate : MessageAggregate) : MessageState :=
  if aggregate.facts.rows = [] then .unclassifiable
  else if aggregate.has .unsupported then .unclassifiable
  else if aggregate.has .orphaned then .orphaned
  else if aggregate.has .pausedVersion then .pausedVersion
  else if aggregate.has .unreceivableByVersionPolicy then .unreceivableByVersionPolicy
  else executionState aggregate

/-- Whether the input is a destination fact that credits. -/
def isDestinationEffect (f : TransitionInput) : Bool :=
  destinationEffectKinds.contains f.kind && carriesEffect f

/-- Whether the input is a source fact that debits. -/
def isSourceEffect (f : TransitionInput) : Bool :=
  sourceEffectKinds.contains f.kind && carriesEffect f

/-- `distinct` in `economicEffectOf`: the destination effects, one per raw fact, in canonical order. -/
def distinctEffects (aggregate : MessageAggregate) : List RawFactRef :=
  let destinationFacts := aggregate.facts.rows.filter isDestinationEffect
  (sortOn (fun f => codeUnits f.ref) ((∅ : Keyed TransitionInput.ref).upsertAll destinationFacts).rows).map (·.fact)

/-- `economicEffectOf`: the effect, capped at one, and the duplicates the cap had to be applied to. -/
def economicEffectOf (aggregate : MessageAggregate) : EconomicEffect × List RawFactRef :=
  let sourceFacts := aggregate.facts.rows.filter isSourceEffect
  let distinct := distinctEffects aggregate
  let first := distinct.head?
  let sourceFirst := ((sortOn (fun f => codeUnits f.ref) sourceFacts).map (·.fact)).head?
  ({ count := if first = none then 0 else 1, sourceFact := sourceFirst, destinationFact := first },
    if distinct.length > 1 then distinct else [])

/-- `stale` in `deriveState`. -/
def isStale (aggregate : MessageAggregate) (context : EvaluationContext) : Bool :=
  let base := lifecycleState aggregate
  !isTerminal base && stateVerdict base = .warn &&
    match latestObservedAt aggregate with
    | none => false
    | some observedAt => context.evaluatedAt - observedAt > context.staleAfterMs

def deriveState (aggregate : MessageAggregate) (context : EvaluationContext) : DerivedMessage :=
  let state := if isStale aggregate context then .stale else lifecycleState aggregate
  let duplicates := (economicEffectOf aggregate).2
  { state
    verdict := if duplicates.length > 0 then .critical else stateVerdict state
    effect := (economicEffectOf aggregate).1
    duplicateEffectFacts := duplicates
    sendAttempts := (factsOfKind aggregate .icmSent).length + (factsOfKind aggregate .sendRetry).length
    executionAttempts := (factsOfKind aggregate .executionSucceeded).length +
      (factsOfKind aggregate .executionFailed).length + (factsOfKind aggregate .executionRetried).length
    envelopeIds := sortStrings (aggregate.facts.rows.filterMap (·.envelopeId)).eraseDups
    receiptObserved := aggregate.has .receiptObserved
    unsupportedReasons := sortStrings (aggregate.facts.rows.filterMap (·.unsupportedReason)).eraseDups
    supportingFacts := supportingFacts aggregate }

/-- The inputs of one message folded by `reduce` one by one, and the state derived from them. -/
def derive (key : MessageKey) (context : EvaluationContext) (inputs : List TransitionInput) :
    Except MessageKeyMismatchError DerivedMessage :=
  (reduceAll key inputs).map (deriveState · context)

theorem derive_eq {key : MessageKey} {context : EvaluationContext} {inputs : List TransitionInput}
    (h : OfMessage key inputs) :
    derive key context inputs = .ok (deriveState (aggregateOf key inputs) context) := by
  rw [derive, reduceAll_eq h]; rfl

/-! ## Which facts decide the state -/

theorem MessageAggregate.has_eq_false {aggregate : MessageAggregate} {kind : TransitionKind} :
    aggregate.has kind = false ↔ ∀ f ∈ aggregate.facts.rows, f.kind ≠ kind := by
  simp [MessageAggregate.has]

theorem ite_ne {c : Prop} [Decidable c] {a b s : MessageState} (ha : a ≠ s) (hb : b ≠ s) :
    (if c then a else b) ≠ s := by
  split
  · exact ha
  · exact hb

/-- A message in flight is in no state that an execution decides. -/
theorem inFlightState_ne {aggregate : MessageAggregate} {s : MessageState}
    (h : ∀ t ∈ [MessageState.delivered, .icmSent, .sourceAccounted, .intentObserved, .sourceApplicationEmitted,
      .receiptObserved, .unclassifiable], t ≠ s) : inFlightState aggregate ≠ s := by
  unfold inFlightState
  repeat' apply ite_ne
  all_goals exact h _ (by decide)

theorem inFlightState_unclassifiable {aggregate : MessageAggregate} :
    inFlightState aggregate = .unclassifiable ↔
      ∀ k ∈ [TransitionKind.delivered, .icmSent, .sendRetry, .sourceAccounted, .intentObserved,
        .sourceApplicationEmitted, .receiptObserved], aggregate.has k = false := by
  unfold inFlightState
  constructor
  · intro h
    repeat' split at h
    all_goals first | exact absurd h (by decide) | simp_all
  · intro h
    simp_all

theorem executionState_unclassifiable {aggregate : MessageAggregate} :
    executionState aggregate = .unclassifiable ↔
      (∀ k ∈ [TransitionKind.executionRetried, .executionSucceeded, .executionFailed], aggregate.has k = false) ∧
        inFlightState aggregate = .unclassifiable := by
  unfold executionState
  constructor
  · intro h
    repeat' split at h
    all_goals first | cases h | simp_all
  · rintro ⟨h, hf⟩
    simp_all

/-- Every kind but that of a re-signed envelope names a position. -/
theorem position_of_ne_resigned (kind : TransitionKind) (h : kind ≠ .envelopeResigned) :
    kind ∈ [TransitionKind.unsupported, .orphaned, .pausedVersion, .unreceivableByVersionPolicy] ∨
      kind ∈ [TransitionKind.executionRetried, .executionSucceeded, .executionFailed] ∨
      kind ∈ [TransitionKind.delivered, .icmSent, .sendRetry, .sourceAccounted, .intentObserved,
        .sourceApplicationEmitted, .receiptObserved] := by
  cases kind <;> first | exact absurd rfl h | decide

/-- The facts leave the message unclassifiable: an unsupported one, or nothing but re-signed
envelopes, which name no lifecycle position. -/
theorem lifecycleState_unclassifiable {aggregate : MessageAggregate} :
    lifecycleState aggregate = .unclassifiable ↔
      aggregate.has .unsupported = true ∨ ∀ f ∈ aggregate.facts.rows, f.kind = .envelopeResigned := by
  constructor
  · intro h
    unfold lifecycleState at h
    split at h
    · rename_i hnil
      exact Or.inr fun f hf => by simp [hnil] at hf
    split at h
    · rename_i hu
      exact Or.inl hu
    rename_i hu
    split at h
    · cases h
    rename_i ho
    split at h
    · cases h
    rename_i hp
    split at h
    · cases h
    rename_i hv
    -- every kind that names a position is absent
    rw [executionState_unclassifiable, inFlightState_unclassifiable] at h
    refine Or.inr fun f hf => by_contra fun hk => ?_
    have hkind : aggregate.has f.kind = true := MessageAggregate.has_iff.2 ⟨f, hf, rfl⟩
    rcases position_of_ne_resigned f.kind hk with hk | hk | hk
    · simp only [List.mem_cons, List.not_mem_nil, or_false] at hk
      rcases hk with hk | hk | hk | hk <;> rw [hk] at hkind <;> contradiction
    · rw [h.1 _ hk] at hkind
      cases hkind
    · rw [h.2 _ hk] at hkind
      cases hkind
  · rintro (h | h)
    · simp [lifecycleState, h]
    · have hfalse : ∀ k, k ≠ .envelopeResigned → aggregate.has k = false := by
        intro k hk
        rw [MessageAggregate.has_eq_false]
        intro f hf hfk
        exact hk (hfk.symm.trans (h f hf))
      simp [lifecycleState, executionState, inFlightState, hfalse]

theorem executionState_ne_orphaned (aggregate : MessageAggregate) : executionState aggregate ≠ .orphaned := by
  unfold executionState
  exact ite_ne (by decide) (ite_ne (by decide) (ite_ne (ite_ne (by decide) (by decide)) (inFlightState_ne (by decide))))

theorem lifecycleState_orphaned {aggregate : MessageAggregate} :
    lifecycleState aggregate = .orphaned ↔
      aggregate.has .unsupported = false ∧ aggregate.has .orphaned = true := by
  constructor
  · intro h
    unfold lifecycleState at h
    repeat' split at h
    all_goals first | cases h | skip
    · rename_i hu ho
      exact ⟨by simpa using hu, ho⟩
    · exact absurd h (executionState_ne_orphaned aggregate)
  · rintro ⟨hu, ho⟩
    obtain ⟨f, hf, -⟩ := MessageAggregate.has_iff.1 ho
    have hne : aggregate.facts.rows ≠ [] := List.ne_nil_of_mem hf
    simp [lifecycleState, hne, hu, ho]

/-- Staleness only overlays a state in flight: every other state is the lifecycle position itself. -/
theorem deriveState_state {aggregate : MessageAggregate} {context : EvaluationContext} {s : MessageState}
    (hs : stateVerdict s ≠ .warn) (hstale : s ≠ .stale) :
    (deriveState aggregate context).state = s ↔ lifecycleState aggregate = s := by
  simp only [deriveState]
  split
  · rename_i h
    simp only [isStale, Bool.and_eq_true, decide_eq_true_eq] at h
    refine ⟨fun he => absurd he.symm hstale, fun he => ?_⟩
    rw [he] at h
    exact absurd h.1.2 hs
  · exact Iff.rfl

/-- A fact is stored once, so collecting the destination effects by reference drops none of them. -/
theorem distinctEffects_eq (aggregate : MessageAggregate) :
    distinctEffects aggregate =
      (sortOn (fun f => codeUnits f.ref) (aggregate.facts.rows.filter isDestinationEffect)).map (·.fact) := by
  have hnd : ((aggregate.facts.rows.filter isDestinationEffect).map TransitionInput.ref).Nodup :=
    aggregate.facts.nodup.sublist (List.filter_sublist.map _)
  have hrows : ((∅ : Keyed TransitionInput.ref).upsertAll (aggregate.facts.rows.filter isDestinationEffect)).rows =
      aggregate.facts.rows.filter isDestinationEffect := by
    rw [Keyed.rows_upsertAll_of_nodup (by simpa using hnd)]
    simp
  unfold distinctEffects
  simp only [hrows]

theorem length_distinctEffects (aggregate : MessageAggregate) :
    (distinctEffects aggregate).length = (aggregate.facts.rows.filter isDestinationEffect).length := by
  rw [distinctEffects_eq]
  simp

end IcttSentinel.StateMachine
