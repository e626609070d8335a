/-
Replay completeness and freshness, packages/replay/src/completeness.ts: the evidence of a run
collapses into one status, and only a covered, uncontested and fresh window is `OK`.
-/
import IcttSentinel.Domain.Verdict
import IcttSentinel.Replay.Range

namespace IcttSentinel.Replay

open IcttSentinel.Domain IcttSentinel.Storage

structure CompletenessInput where
  window : BlockRange
  committed : List BlockRange
  lastSuccessAt : Option Int
  freshnessTtlMs : Int
  openReasons : List ReplayReason
  now : Int
  deriving DecidableEq, Repr

structure CompletenessResult where
  status : ReplayStatus
  verdict : Verdict
  gaps : List BlockRange
  reasons : List ReplayReason
  ageMs : Option Int
  deriving DecidableEq, Repr

def assessCompleteness (input : CompletenessInput) : CompletenessResult :=
  let gaps := findRangeGaps input.committed input.window
  let ageMs := input.lastSuccessAt.map fun t => input.now - t
  let unknown := fun status reasons : _ => ({ status, verdict := .unknown, gaps, reasons, ageMs } : CompletenessResult)
  if input.openReasons.contains .providerDivergence then unknown .divergent input.openReasons
  else if input.openReasons.any (·.isBlocking) then unknown .blocked input.openReasons
  else if gaps.length > 0 then unknown .gap input.openReasons
  else match ageMs with
    | none => unknown .pending input.openReasons
    | some age =>
      if age > input.freshnessTtlMs then unknown .stale (input.openReasons ++ [.staleCollection])
      else { status := .complete, verdict := .ok, gaps, reasons := input.openReasons, ageMs }

/-- A window is complete exactly when nothing is contested or blocked, no gap is left and the last
success is within its time to live; only then it is `OK`. -/
theorem assessCompleteness_complete {input : CompletenessInput} :
    (assessCompleteness input).status = .complete ↔
      ReplayReason.providerDivergence ∉ input.openReasons ∧ (∀ r ∈ input.openReasons, r.isBlocking = false) ∧
      findRangeGaps input.committed input.window = [] ∧
      ∃ t, input.lastSuccessAt = some t ∧ input.now - t ≤ input.freshnessTtlMs := by
  unfold assessCompleteness
  dsimp only
  split
  · rename_i hdivergent
    simp [List.contains_iff_mem.1 hdivergent]
  · rename_i hdivergent
    rw [List.contains_iff_mem] at hdivergent
    split
    · rename_i hblocked
      obtain ⟨r, hr, hblocking⟩ := List.any_eq_true.1 hblocked
      simp only [reduceCtorEq, false_iff, not_and]
      intro _ hnone
      rw [hnone r hr] at hblocking
      cases hblocking
    · rename_i hblocked
      have hnone : ∀ r ∈ input.openReasons, r.isBlocking = false := by simpa using hblocked
      split
      · rename_i hgaps
        simp [List.length_pos_iff.1 hgaps]
      · rename_i hgaps
        have hnil : findRangeGaps input.committed input.window = [] := by
          rw [← List.length_eq_zero_iff]
          omega
        -- a lane that has never succeeded is pending
        cases hlast : input.lastSuccessAt with
        | none => simp
        | some t =>
          simp only [Option.map_some]
          split
          · rename_i hold
            simp only [reduceCtorEq, false_iff, not_and, Option.some.injEq, not_exists]
            rintro _ _ _ _ rfl
            omega
          · rename_i hfresh
            exact iff_of_true rfl ⟨hdivergent, hnone, hnil, t, rfl, by omega⟩

theorem assessCompleteness_gaps (input : CompletenessInput) :
    (assessCompleteness input).gaps = findRangeGaps input.committed input.window := by
  unfold assessCompleteness
  dsimp only
  split
  · rfl
  · split
    · rfl
    · split
      · rfl
      · split
        · rfl
        · split <;> rfl

theorem assessCompleteness_verdict {input : CompletenessInput} :
    (assessCompleteness input).verdict = .ok ↔ (assessCompleteness input).status = .complete := by
  unfold assessCompleteness
  dsimp only
  split
  · simp
  · split
    · simp
    · split
      · simp
      · split
        · simp
        · split <;> simp

theorem assessCompleteness_reasons {input : CompletenessInput} (h : (assessCompleteness input).status = .complete) :
    (assessCompleteness input).reasons = input.openReasons := by
  unfold assessCompleteness at h ⊢
  dsimp only at h ⊢
  split
  · rfl
  · split
    · rfl
    · split
      · rfl
      · split
        · rfl
        · split <;> simp_all

end IcttSentinel.Replay
