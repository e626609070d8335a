/-
Transaction-atomic folding, packages/state-machine/src/transaction.ts. A batch is filtered by the id of its messages
and then folded by an aggregate that compares whole message keys: when the two ways to tell messages apart agree.
-/
import IcttSentinel.StateMachine.FailClosed

namespace IcttSentinel.StateMachine

open IcttSentinel.Lib

/-- Transaction identity, for reducing a whole transaction atomically. -/
def transactionKeyOf (r : RawFactRef) : String := sep.intercalate [toString r.evmChainId, r.blockHash, r.txHash]

structure TransactionBatch where
  inputs : List TransitionInput
  complete : Bool
  deriving DecidableEq, Repr

/-- What `reduceTransaction` throws: a `PartialTransactionError`, a `MixedTransactionError`, or the error of `reduce`. -/
inductive TransactionError where
  | incomplete (transactionKey : String)
  | mixed (keys : List String)
  | mismatch (error : MessageKeyMismatchError)
  deriving DecidableEq, Repr

def TransactionError.message : TransactionError → String
  | .incomplete transactionKey => "refusing to reduce a partial transaction (" ++ transactionKey ++ "); " ++
      "a terminal state derived from half a transaction is not a fact"
  | .mixed keys => "a transaction batch must come from one transaction, got " ++ toString keys.length ++ ": " ++
      ", ".intercalate keys
  | .mismatch error => error.message

/-- The keys of the transactions a batch carries, each once. -/
def transactionKeys (inputs : List TransitionInput) : List String :=
  (inputs.map fun i => transactionKeyOf i.fact).eraseDups

def reduceTransaction (aggregate : MessageAggregate) (batch : TransactionBatch) :
    Except TransactionError MessageAggregate :=
  match transactionKeys batch.inputs with
  | [] => .ok aggregate
  | [txKey] =>
    if !batch.complete then .error (.incomplete txKey)
    else ((batch.inputs.filter fun i => i.message.messageId = aggregate.key.messageId).foldlM reduce aggregate).mapError
      .mismatch
  | keys => .error (.mixed keys)

/-- Every input of the batch comes from one transaction. -/
def OneTransaction (inputs : List TransitionInput) : Prop :=
  ∀ i ∈ inputs, ∀ j ∈ inputs, transactionKeyOf i.fact = transactionKeyOf j.fact

instance (inputs : List TransitionInput) : Decidable (OneTransaction inputs) :=
  inferInstanceAs (Decidable (∀ i ∈ inputs, ∀ j ∈ inputs, _))

/-! ## What a complete batch folds -/

variable {aggregate : MessageAggregate} {inputs : List TransitionInput}

theorem transactionKeys_of_oneTransaction (h : OneTransaction inputs) (hne : inputs ≠ []) :
    ∃ txKey, transactionKeys inputs = [txKey] := by
  have hnodup : (transactionKeys inputs).Nodup := nodup_eraseDups _
  have hsame : ∀ a ∈ transactionKeys inputs, ∀ b ∈ transactionKeys inputs, a = b := by
    intro a ha b hb
    obtain ⟨i, hi, rfl⟩ := List.mem_map.mp (List.mem_eraseDups.mp ha)
    obtain ⟨j, hj, rfl⟩ := List.mem_map.mp (List.mem_eraseDups.mp hb)
    exact h i hi j hj
  have hsome : transactionKeys inputs ≠ [] := fun hnil => by
    rw [transactionKeys, eraseDups_eq_nil, List.map_eq_nil_iff] at hnil
    exact hne hnil
  match hkeys : transactionKeys inputs with
  | [] => exact absurd hkeys hsome
  | [txKey] => exact ⟨txKey, rfl⟩
  | a :: b :: rest =>
    rw [hkeys] at hnodup hsame
    exact absurd (hsame a (by simp) b (by simp)) (List.ne_of_not_mem_cons (List.nodup_cons.mp hnodup).1)

/-- A complete batch of one transaction folds the inputs with the message id of the aggregate. -/
theorem reduceTransaction_complete (h : OneTransaction inputs) :
    reduceTransaction aggregate { inputs, complete := true } =
      ((inputs.filter fun i => i.message.messageId = aggregate.key.messageId).foldlM reduce aggregate).mapError
        .mismatch := by
  unfold reduceTransaction
  by_cases hne : inputs = []
  · subst hne
    rfl
  · obtain ⟨txKey, hkeys⟩ := transactionKeys_of_oneTransaction h hne
    dsimp only
    rw [hkeys]
    rfl

/-- The fold of inputs that are not all of the aggregate's message ends with the first foreign one. -/
theorem foldlM_reduce_ok {result : MessageAggregate} (h : inputs.foldlM reduce aggregate = .ok result) :
    OfMessage aggregate.key inputs := by
  induction inputs generalizing aggregate with
  | nil => simp [OfMessage]
  | cons i inputs ih =>
    rw [List.foldlM_cons] at h
    cases hstep : reduce aggregate i with
    | error e =>
      rw [hstep] at h
      cases h
    | ok next =>
      rw [hstep] at h
      unfold reduce at hstep
      split at hstep
      · cases hstep
      · rename_i hkey
        obtain rfl := Except.ok.inj hstep
        change inputs.foldlM reduce ⟨aggregate.key, aggregate.facts.insertIfAbsent i⟩ = .ok result at h
        have hrest := ih h
        intro j hj
        rcases List.mem_cons.mp hj with rfl | hj
        · exact not_not.mp hkey
        · exact hrest j hj

/-- The inputs of the batch whose whole message key is that of the aggregate. -/
def ownInputs (key : MessageKey) (inputs : List TransitionInput) : List TransitionInput :=
  inputs.filter fun i => messageKeyOf i.message = messageKeyOf key

theorem ofMessage_ownInputs (key : MessageKey) (inputs : List TransitionInput) :
    OfMessage key (ownInputs key inputs) := fun i hi => by
  simpa using (List.mem_filter.mp hi).2

/-- The message id is as good as the whole key: an input with the id of the aggregate has its key, and one with its
key and another id (a part of which holds the separator) brings a fact that is known already. -/
structure IdIdentifies (aggregate : MessageAggregate) (inputs : List TransitionInput) : Prop where
  whole : ∀ i ∈ inputs, i.message.messageId = aggregate.key.messageId → messageKeyOf i.message = messageKeyOf aggregate.key
  known : ∀ pre i post, ownInputs aggregate.key inputs = pre ++ i :: post →
    i.message.messageId ≠ aggregate.key.messageId →
      (∃ f ∈ aggregate.facts.rows, f.ref = i.ref) ∨ ∃ j ∈ pre, j.ref = i.ref

/-- A complete batch of one transaction is folded like its own inputs exactly when the message id identifies them. -/
theorem reduceTransaction_isolates (aggregate : MessageAggregate) (batch : TransactionBatch)
    (hcomplete : batch.complete = true) (hone : OneTransaction batch.inputs) :
    (∃ result, reduceTransaction aggregate batch = .ok result ∧
        (ownInputs aggregate.key batch.inputs).foldlM reduce aggregate = .ok result) ↔
      IdIdentifies aggregate batch.inputs := by
  obtain ⟨inputs, complete⟩ := batch
  dsimp only at hcomplete hone ⊢
  subst hcomplete
  rw [reduceTransaction_complete hone, foldlM_reduce _ _ (ofMessage_ownInputs _ _)]
  have hfilter : (∀ i ∈ inputs, i.message.messageId = aggregate.key.messageId →
      messageKeyOf i.message = messageKeyOf aggregate.key) →
      (inputs.filter fun i => i.message.messageId = aggregate.key.messageId) =
        (ownInputs aggregate.key inputs).filter fun i => i.message.messageId = aggregate.key.messageId := by
    intro hwhole
    unfold ownInputs
    rw [List.filter_filter]
    refine List.filter_congr fun i hi => ?_
    by_cases hid : i.message.messageId = aggregate.key.messageId
    · simp [hid, hwhole i hi hid]
    · simp [hid]
  -- a fact left out changes nothing when its reference is known already
  have hknown : ((aggregate.facts.insertAll ((ownInputs aggregate.key inputs).filter fun i =>
      i.message.messageId = aggregate.key.messageId)) = aggregate.facts.insertAll (ownInputs aggregate.key inputs)) ↔
      ∀ pre i post, ownInputs aggregate.key inputs = pre ++ i :: post →
        i.message.messageId ≠ aggregate.key.messageId →
          (∃ f ∈ aggregate.facts.rows, f.ref = i.ref) ∨ ∃ j ∈ pre, j.ref = i.ref := by
    rw [Keyed.insertAll_filter_eq_iff]
    simp only [Keyed.has_insertAll]
    simp only [Keyed.has_iff, decide_eq_false_iff_not, ne_eq]
  constructor
  · rintro ⟨result, hresult, hown⟩
    obtain ⟨result', hfold⟩ : ∃ result', (inputs.filter fun i =>
        i.message.messageId = aggregate.key.messageId).foldlM reduce aggregate = .ok result' := by
      cases hcase : (inputs.filter fun i => i.message.messageId = aggregate.key.messageId).foldlM reduce aggregate with
      | error e =>
        rw [hcase] at hresult
        cases hresult
      | ok result' => exact ⟨result', rfl⟩
    have hof := foldlM_reduce_ok hfold
    have hwhole : ∀ i ∈ inputs, i.message.messageId = aggregate.key.messageId →
        messageKeyOf i.message = messageKeyOf aggregate.key := fun i hi hid =>
      hof i (List.mem_filter.mpr ⟨hi, by simpa using hid⟩)
    refine ⟨hwhole, hknown.mp ?_⟩
    rw [foldlM_reduce _ _ hof, hfilter hwhole] at hresult
    rw [← Except.ok.inj hown] at hresult
    exact (MessageAggregate.mk.inj (Except.ok.inj hresult)).2
  · rintro ⟨hwhole, hnew⟩
    have hof : OfMessage aggregate.key (inputs.filter fun i => i.message.messageId = aggregate.key.messageId) :=
      fun i hi => hwhole i (List.mem_filter.mp hi).1 (by simpa using (List.mem_filter.mp hi).2)
    refine ⟨_, ?_, rfl⟩
    rw [foldlM_reduce _ _ hof, hfilter hwhole, hknown.mpr hnew]
    rfl

theorem reduceTransaction_isolates_delivery :
    (∃ result, reduceTransaction (emptyAggregate sampleKey)
          { inputs := [sampleInput .delivered 1, sampleInput .executionSucceeded 2], complete := true } = .ok result ∧
        (ownInputs sampleKey [sampleInput .delivered 1, sampleInput .executionSucceeded 2]).foldlM reduce
          (emptyAggregate sampleKey) = .ok result) ↔
      IdIdentifies (emptyAggregate sampleKey) [sampleInput .delivered 1, sampleInput .executionSucceeded 2] :=
  reduceTransaction_isolates (emptyAggregate sampleKey) _ rfl (by decide)

/-- Two messages of one transaction that share their id under two messengers: the batch is refused, although the
aggregate's own input alone folds. -/
theorem reduceTransaction_throws :
    let other : TransitionInput := { sampleInput .delivered 2 with
      message := { sampleKey with teleporterMessengerAddress := "0xother" } }
    let inputs := [sampleInput .delivered 1, other]
    OneTransaction inputs ∧
      reduceTransaction (emptyAggregate sampleKey) { inputs, complete := true } =
        .error (.mismatch ⟨sampleKey, other.message⟩) ∧
      (ownInputs sampleKey inputs).foldlM reduce (emptyAggregate sampleKey) =
        .ok (aggregateOf sampleKey [sampleInput .delivered 1]) := by
  decide +kernel

end IcttSentinel.StateMachine
