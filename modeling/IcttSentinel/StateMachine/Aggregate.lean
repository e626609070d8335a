/-
The message aggregate of packages/state-machine/src/aggregate.ts: the facts known about one
message, a table keyed by raw-fact reference in which the first reading of a log stays.
-/
import IcttSentinel.StateMachine.Inputs
import IcttSentinel.Lib.Keyed
import IcttSentinel.Lib.Sorting

namespace IcttSentinel.StateMachine

open IcttSentinel.Lib

/-- The key an input is stored under. -/
def TransitionInput.ref (i : TransitionInput) : String := rawFactRefOf i.fact

/-- `MessageAggregate`: the map of facts, each under its own raw-fact reference. -/
structure MessageAggregate where
  key : MessageKey
  facts : Keyed TransitionInput.ref
  deriving DecidableEq

def emptyAggregate (key : MessageKey) : MessageAggregate := ⟨key, ∅⟩

structure MessageKeyMismatchError where
  expected : MessageKey
  got : MessageKey
  deriving DecidableEq, Repr

/-- The error's text. -/
def MessageKeyMismatchError.message (e : MessageKeyMismatchError) : String :=
  "transition input belongs to " ++ messageKeyOf e.got ++ ", not " ++ messageKeyOf e.expected ++ "; " ++
    "messageId alone is not identity"

/-- `reduce`: fold one input, keeping the first observation of its raw fact. -/
def reduce (aggregate : MessageAggregate) (input : TransitionInput) :
    Except MessageKeyMismatchError MessageAggregate :=
  if messageKeyOf input.message ≠ messageKeyOf aggregate.key then
    .error ⟨aggregate.key, input.message⟩
  else .ok ⟨aggregate.key, aggregate.facts.insertIfAbsent input⟩

def reduceAll (key : MessageKey) (inputs : List TransitionInput) :
    Except MessageKeyMismatchError MessageAggregate :=
  inputs.foldlM reduce (emptyAggregate key)

def factsOfKind (aggregate : MessageAggregate) (kind : TransitionKind) : List TransitionInput :=
  sortOn (fun f => codeUnits f.ref) (aggregate.facts.rows.filter fun f => f.kind = kind)

def MessageAggregate.has (aggregate : MessageAggregate) (kind : TransitionKind) : Bool :=
  aggregate.facts.rows.any fun f => f.kind = kind

def supportingFacts (aggregate : MessageAggregate) : List RawFactRef :=
  (sortOn (fun f => codeUnits f.ref) aggregate.facts.rows).map (·.fact)

theorem MessageAggregate.has_iff {aggregate : MessageAggregate} {kind : TransitionKind} :
    aggregate.has kind = true ↔ ∃ f ∈ aggregate.facts.rows, f.kind = kind := by
  simp [MessageAggregate.has]

/-! ## What a batch of inputs leaves in the aggregate -/

/-- Every input of the list belongs to the message. -/
def OfMessage (key : MessageKey) (inputs : List TransitionInput) : Prop :=
  ∀ i ∈ inputs, messageKeyOf i.message = messageKeyOf key

instance (key : MessageKey) (inputs : List TransitionInput) : Decidable (OfMessage key inputs) :=
  inferInstanceAs (Decidable (∀ i ∈ inputs, _))

/-- The inputs of one message fold without an error, each into the table of facts. -/
theorem foldlM_reduce (aggregate : MessageAggregate) (inputs : List TransitionInput)
    (h : OfMessage aggregate.key inputs) :
    inputs.foldlM reduce aggregate = .ok ⟨aggregate.key, aggregate.facts.insertAll inputs⟩ := by
  induction inputs generalizing aggregate with
  | nil => rfl
  | cons i inputs ih =>
    have hi : reduce aggregate i = .ok ⟨aggregate.key, aggregate.facts.insertIfAbsent i⟩ := by
      simp [reduce, h i (by simp)]
    rw [List.foldlM_cons, hi]
    exact ih _ fun x hx => h x (by simp [hx])

/-- The aggregate of a list of inputs of one message. -/
def aggregateOf (key : MessageKey) (inputs : List TransitionInput) : MessageAggregate :=
  ⟨key, (∅ : Keyed TransitionInput.ref).insertAll inputs⟩

theorem reduceAll_eq {key : MessageKey} {inputs : List TransitionInput} (h : OfMessage key inputs) :
    reduceAll key inputs = .ok (aggregateOf key inputs) :=
  foldlM_reduce (emptyAggregate key) inputs h

/-- The aggregate holds the first reading of every raw fact of the list, and nothing else. -/
theorem mem_aggregateOf {key : MessageKey} {inputs : List TransitionInput} {f : TransitionInput} :
    f ∈ (aggregateOf key inputs).facts.rows ↔ Keyed.IsFirst TransitionInput.ref inputs f :=
  Keyed.mem_insertAll_empty

/-- Where the reference determines the reading, the aggregate holds every input of the list. -/
theorem mem_aggregateOf_of_determines {key : MessageKey} {inputs : List TransitionInput}
    (h : Keyed.Determines TransitionInput.ref inputs) {f : TransitionInput} :
    f ∈ (aggregateOf key inputs).facts.rows ↔ f ∈ inputs :=
  h.mem_insertAll_empty

theorem aggregateOf_facts_perm {key : MessageKey} {inputs inputs' : List TransitionInput}
    (h : Keyed.Determines TransitionInput.ref inputs) (hset : ∀ f, f ∈ inputs ↔ f ∈ inputs') :
    (aggregateOf key inputs).facts.rows.Perm (aggregateOf key inputs').facts.rows := by
  have h' : Keyed.Determines TransitionInput.ref inputs' := fun a ha b hb =>
    h a ((hset a).2 ha) b ((hset b).2 hb)
  refine Keyed.rows_perm fun f => ?_
  rw [mem_aggregateOf_of_determines h, mem_aggregateOf_of_determines h', hset]

end IcttSentinel.StateMachine
