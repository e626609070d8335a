/-
The vocabulary of packages/state-machine/src/{keys,inputs,states}.ts: message and raw-fact
identity, transition inputs, and the semantic states with their verdicts.
-/
import IcttSentinel.Domain.Verdict

namespace IcttSentinel.StateMachine

open IcttSentinel.Domain

/-! ## Identity -/

/-- `MessageKey`: the semantic message. -/
structure MessageKey where
  sourceBlockchainId : String
  destinationBlockchainId : String
  teleporterMessengerAddress : String
  registryProtocolVersion : Int
  messageId : String
  deriving DecidableEq, Repr

structure FactPosition where
  blockchainId : String
  blockNumber : Int
  blockHash : String
  deriving DecidableEq, Repr

/-- `RawFactRef`: the log a fact came from. The height is absent, the block hash is the identity. -/
structure RawFactRef where
  evmChainId : Int
  blockHash : String
  txHash : String
  logIndex : Int
  deriving DecidableEq, Repr

def sep : String := "|"

def messageKeyOf (k : MessageKey) : String :=
  sep.intercalate [k.sourceBlockchainId, k.destinationBlockchainId, k.teleporterMessengerAddress,
    toString k.registryProtocolVersion, k.messageId]

def rawFactRefOf (r : RawFactRef) : String :=
  sep.intercalate [toString r.evmChainId, r.blockHash, r.txHash, toString r.logIndex]

/-! ## Transition inputs -/

inductive TransitionKind where
  | sourceApplicationEmitted
  | intentObserved
  | sourceAccounted
  | icmSent
  | sendRetry
  | envelopeResigned
  | delivered
  | executionSucceeded
  | executionFailed
  | executionRetried
  | receiptObserved
  | unreceivableByVersionPolicy
  | pausedVersion
  | orphaned
  | unsupported
  deriving DecidableEq, Repr

/-- `TransitionInput`; an optional field of the source is `none` when absent, and a `Date` is its
time value in milliseconds. -/
structure TransitionInput where
  kind : TransitionKind
  message : MessageKey
  fact : RawFactRef
  position : FactPosition
  envelopeId : Option String
  carriesEconomicEffect : Option Bool
  unsupportedReason : Option String
  observedAt : Option Int
  adapterId : String
  adapterVersion : Int
  deriving DecidableEq, Repr

def sourceEffectKinds : List TransitionKind := [.sourceAccounted]

def destinationEffectKinds : List TransitionKind := [.executionSucceeded, .executionRetried]

/-! ## States -/

inductive MessageState where
  | sourceApplicationEmitted
  | intentObserved
  | sourceAccounted
  | icmSent
  | delivered
  | executedSuccess
  | executedFailed
  | retryPending
  | retriedSuccess
  | receiptObserved
  | unreceivableByVersionPolicy
  | pausedVersion
  | stale
  | orphaned
  | unclassifiable
  deriving DecidableEq, Repr

def terminalStates : List MessageState := [.executedSuccess, .retriedSuccess, .orphaned]

def isTerminal (s : MessageState) : Bool := terminalStates.contains s

def stateVerdict : MessageState → Verdict
  | .executedSuccess | .retriedSuccess => .ok
  | .executedFailed | .retryPending => .warn
  | .sourceApplicationEmitted | .intentObserved | .sourceAccounted | .icmSent | .delivered
  | .receiptObserved => .warn
  | .unreceivableByVersionPolicy | .pausedVersion | .stale | .orphaned | .unclassifiable => .unknown

theorem stateVerdict_ne_critical (s : MessageState) : stateVerdict s ≠ .critical := by
  cases s <;> decide

theorem stateVerdict_eq_ok {s : MessageState} :
    stateVerdict s = .ok ↔ s = .executedSuccess ∨ s = .retriedSuccess := by
  cases s <;> decide

end IcttSentinel.StateMachine
