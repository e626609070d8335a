/-
The data-quality reasons of a replay, packages/replay/src/reasons.ts: what each tells the operator,
and whether another attempt could help.
-/
import Mathlib.Tactic

namespace IcttSentinel.Replay

inductive ReplayReason where
  | silentTruncation
  | missingBlock
  | missingLog
  | prunedHistory
  | emptyResponseAmbiguity
  | providerDivergence
  | insufficientWitnesses
  | retryBudgetExhausted
  | rangeIndivisible
  | staleCollection
  | archiveFallbackUnavailable
  | remoteHistoryUnavailable
  | noncanonicalBlockRejected
  deriving DecidableEq, Repr

structure ReasonMetadata where
  summary : String
  runbook : String
  retryable : Bool
  deriving DecidableEq, Repr

namespace ReplayReason

def text : ReplayReason → String
  | silentTruncation => "SILENT_TRUNCATION"
  | missingBlock => "MISSING_BLOCK"
  | missingLog => "MISSING_LOG"
  | prunedHistory => "PRUNED_HISTORY"
  | emptyResponseAmbiguity => "EMPTY_RESPONSE_AMBIGUITY"
  | providerDivergence => "PROVIDER_DIVERGENCE"
  | insufficientWitnesses => "INSUFFICIENT_WITNESSES"
  | retryBudgetExhausted => "RETRY_BUDGET_EXHAUSTED"
  | rangeIndivisible => "RANGE_INDIVISIBLE"
  | staleCollection => "STALE_COLLECTION"
  | archiveFallbackUnavailable => "ARCHIVE_FALLBACK_UNAVAILABLE"
  | remoteHistoryUnavailable => "REMOTE_HISTORY_UNAVAILABLE"
  | noncanonicalBlockRejected => "NONCANONICAL_BLOCK_REJECTED"

/-- `REASON_METADATA`. -/
def metadata : ReplayReason → ReasonMetadata
  | silentTruncation =>
    { summary := "Provider returned a short answer without signalling a limit"
      runbook := "docs/RUNBOOK.md#replay-silent-truncation", retryable := true }
  | missingBlock =>
    { summary := "A height inside the planned range returned no block"
      runbook := "docs/RUNBOOK.md#replay-missing-block", retryable := true }
  | missingLog =>
    { summary := "Log index sequence has a hole inside a block"
      runbook := "docs/RUNBOOK.md#replay-missing-log", retryable := true }
  | prunedHistory =>
    { summary := "Endpoint cannot serve this depth; history is pruned"
      runbook := "docs/RUNBOOK.md#replay-pruned-history", retryable := false }
  | emptyResponseAmbiguity =>
    { summary := "Empty result is indistinguishable from unserved range"
      runbook := "docs/RUNBOOK.md#replay-empty-ambiguity", retryable := true }
  | providerDivergence =>
    { summary := "Independent provider groups disagree on range content"
      runbook := "docs/RUNBOOK.md#replay-divergence", retryable := false }
  | insufficientWitnesses =>
    { summary := "Fewer independent provider groups than the policy requires"
      runbook := "docs/RUNBOOK.md#replay-insufficient-witnesses", retryable := false }
  | retryBudgetExhausted =>
    { summary := "Range retry budget spent without a usable answer"
      runbook := "docs/RUNBOOK.md#replay-retry-budget", retryable := false }
  | rangeIndivisible =>
    { summary := "A single-block range still failed; splitting cannot help"
      runbook := "docs/RUNBOOK.md#replay-indivisible", retryable := false }
  | staleCollection =>
    { summary := "Newest successful collection is past its freshness TTL"
      runbook := "docs/RUNBOOK.md#replay-stale", retryable := true }
  | archiveFallbackUnavailable =>
    { summary := "No independent archive witness is declared in policy"
      runbook := "docs/RUNBOOK.md#replay-archive-fallback", retryable := false }
  | remoteHistoryUnavailable =>
    { summary := "Registered remote has no reachable start block or history"
      runbook := "docs/RUNBOOK.md#replay-remote-history", retryable := false }
  | noncanonicalBlockRejected =>
    { summary := "Provider returned a candidate block on the canonical truth path"
      runbook := "docs/RUNBOOK.md#replay-noncanonical-block", retryable := false }

def isRetryable (reason : ReplayReason) : Bool := reason.metadata.retryable

/-- `BLOCKING_REASONS`: the reasons that stop a replay short of a divergence. -/
def isBlocking : ReplayReason → Bool
  | prunedHistory | retryBudgetExhausted | rangeIndivisible | archiveFallbackUnavailable | remoteHistoryUnavailable
  | noncanonicalBlockRejected | insufficientWitnesses => true
  | _ => false

/-- A reason that no attempt can cure blocks the replay or contests the chain view. -/
theorem blocking_of_not_retryable {reason : ReplayReason} (h : reason.isRetryable = false) :
    reason.isBlocking = true ∨ reason = providerDivergence := by
  cases reason <;> simp_all [isRetryable, metadata, isBlocking]

end ReplayReason

end IcttSentinel.Replay
