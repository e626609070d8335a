/-
Fail-closed facts in message derivation. An unsupported fact is meant to leave the whole message
UNCLASSIFIABLE and an orphaned one ORPHANED, whatever else is known. The aggregate keeps the first
reading of a raw log only, so this holds of the facts that survive as first readings, and the
exact condition on a list of inputs is about its first readings.
-/
import IcttSentinel.StateMachine.Derive

namespace IcttSentinel.StateMachine

open IcttSentinel.Domain IcttSentinel.Lib

/-- A reading of the kind is the first of its raw fact, so it is the one the aggregate keeps. -/
def FirstReadingOf (inputs : List TransitionInput) (kind : TransitionKind) : Prop :=
  ∃ i, Keyed.IsFirst TransitionInput.ref inputs i ∧ i.kind = kind

theorem has_aggregateOf {key : MessageKey} {inputs : List TransitionInput} {kind : TransitionKind} :
    (aggregateOf key inputs).has kind = true ↔ FirstReadingOf inputs kind := by
  simp only [MessageAggregate.has_iff, mem_aggregateOf]
  rfl

/-- What the fail-closed facts of a list owe the derived state. -/
def FailClosedKept (inputs : List TransitionInput) (state : MessageState) : Prop :=
  ((∃ i ∈ inputs, i.kind = .unsupported) → state = .unclassifiable) ∧
    ((∃ i ∈ inputs, i.kind = .orphaned) → (∀ i ∈ inputs, i.kind ≠ .unsupported) → state = .orphaned)

/-- No fail-closed fact is hidden by an earlier reading of its own log: some unsupported input is a
first reading (or no first reading names a position at all), and likewise for orphaned inputs in
the absence of unsupported ones. -/
def FailClosedFirst (inputs : List TransitionInput) : Prop :=
  ((∃ i ∈ inputs, i.kind = .unsupported) → FirstReadingOf inputs .unsupported ∨
      ∀ i, Keyed.IsFirst TransitionInput.ref inputs i → i.kind = .envelopeResigned) ∧
    ((∃ i ∈ inputs, i.kind = .orphaned) → (∀ i ∈ inputs, i.kind ≠ .unsupported) →
      FirstReadingOf inputs .orphaned)

theorem deriveState_unclassifiable {key : MessageKey} {context : EvaluationContext}
    {inputs : List TransitionInput} :
    (deriveState (aggregateOf key inputs) context).state = .unclassifiable ↔
      FirstReadingOf inputs .unsupported ∨
        ∀ i, Keyed.IsFirst TransitionInput.ref inputs i → i.kind = .envelopeResigned := by
  rw [deriveState_state (by decide) (by decide), lifecycleState_unclassifiable, has_aggregateOf]
  simp only [mem_aggregateOf]

theorem deriveState_orphaned {key : MessageKey} {context : EvaluationContext} {inputs : List TransitionInput} :
    (deriveState (aggregateOf key inputs) context).state = .orphaned ↔
      ¬ FirstReadingOf inputs .unsupported ∧ FirstReadingOf inputs .orphaned := by
  rw [deriveState_state (by decide) (by decide), lifecycleState_orphaned, ← Bool.not_eq_true,
    has_aggregateOf, has_aggregateOf]

/-- For every list of inputs of one message, in any order and with any repetitions and
reclassifications: the derived state keeps the fail-closed facts exactly when none of them is
hidden by an earlier reading of its log. -/
theorem failClosed_kept_iff (key : MessageKey) (context : EvaluationContext) (inputs : List TransitionInput)
    (hkey : OfMessage key inputs) :
    ∃ d, derive key context inputs = .ok d ∧ (FailClosedKept inputs d.state ↔ FailClosedFirst inputs) := by
  refine ⟨_, derive_eq hkey, ?_⟩
  unfold FailClosedKept FailClosedFirst
  rw [deriveState_unclassifiable, deriveState_orphaned]
  refine and_congr Iff.rfl ⟨fun h ho hu => (h ho hu).2, fun h ho hu => ⟨?_, h ho hu⟩⟩
  rintro ⟨i, hi, hk⟩
  exact hu i hi.mem hk

/-! ## A reclassified log -/

def sampleKey : MessageKey where
  sourceBlockchainId := "0xhome"
  destinationBlockchainId := "0xremote"
  teleporterMessengerAddress := "0xmessenger"
  registryProtocolVersion := 1
  messageId := "0xm"

/-- A fact of one message, read from the log at the given index of one block. -/
def sampleInput (kind : TransitionKind) (logIndex : Int) : TransitionInput where
  kind
  message := sampleKey
  fact := { evmChainId := 43114, blockHash := "0xb", txHash := "0xt", logIndex }
  position := { blockchainId := "0xhome", blockNumber := 100, blockHash := "0xb" }
  envelopeId := none
  carriesEconomicEffect := none
  unsupportedReason := none
  observedAt := some 0
  adapterId := "ictt-home"
  adapterVersion := 1

def sampleContext : EvaluationContext := { evaluatedAt := 1000, staleAfterMs := 60000 }

theorem failClosed_kept_in_flight :
    OfMessage sampleKey [sampleInput .delivered 1, sampleInput .unsupported 2] ∧
      ∃ d, derive sampleKey sampleContext [sampleInput .delivered 1, sampleInput .unsupported 2] = .ok d ∧
        (FailClosedKept [sampleInput .delivered 1, sampleInput .unsupported 2] d.state ↔
          FailClosedFirst [sampleInput .delivered 1, sampleInput .unsupported 2]) :=
  ⟨by decide, failClosed_kept_iff sampleKey sampleContext _ (by decide)⟩

/-- One log read as a source accounting and then reclassified as unsupported: the message is
reported as SOURCE_ACCOUNTED. -/
theorem reclassified_log_is_lost :
    (derive sampleKey sampleContext [sampleInput .sourceAccounted 1, sampleInput .unsupported 1]).map (·.state) =
        .ok .sourceAccounted ∧
      ¬ FailClosedKept [sampleInput .sourceAccounted 1, sampleInput .unsupported 1] .sourceAccounted := by
  refine ⟨by decide +kernel, fun h => ?_⟩
  exact absurd (h.1 ⟨sampleInput .unsupported 1, by simp, rfl⟩) (by decide)

end IcttSentinel.StateMachine
