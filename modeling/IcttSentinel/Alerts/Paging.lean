/-
When an incident pages. `raiseAlert` promises that a signal "opens or worsens an incident and
queues a notification"; the lifecycle derives the page from the change of state, and an incident
that is already escalated does not change state when it gets worse again. The exact rule, over
every history of an incident: a worse verdict pages unless an earlier worsening is still
outstanding, that is, neither acknowledged nor recovered since.
-/
import IcttSentinel.Alerts.Lifecycle

namespace IcttSentinel.Alerts

open IcttSentinel.Domain

/-- What happens to an incident after it has been opened. -/
inductive IncidentEvent where
  | observed (observation : Observation)
  | acknowledged (by_ : String) (at_ : Int)
  deriving DecidableEq, Repr

section History

variable (sha256 : String → String)

/-- One event folded into the record of an incident. -/
def incidentStep (r : AlertRecord) : IncidentEvent → AlertRecord
  | .observed o => foldSignal sha256 (some r) o
  | .acknowledged by_ at_ => r.acknowledge by_ at_

/-- The record of an incident opened by `first` after the events of `history`. -/
def incident (first : Observation) (history : List IncidentEvent) : AlertRecord :=
  history.foldl (incidentStep sha256) (.open sha256 first)

@[simp] theorem incident_nil (first : Observation) : incident sha256 first [] = .open sha256 first := rfl

theorem incident_snoc (first : Observation) (history : List IncidentEvent) (e : IncidentEvent) :
    incident sha256 first (history ++ [e]) = incidentStep sha256 (incident sha256 first history) e := by
  simp [incident, List.foldl_append]

/-- An event that closes the case of an earlier page: a human acknowledged it, or the verdict
returned to OK. -/
def IncidentEvent.settles : IncidentEvent → Bool
  | .observed o => o.identity.toVerdict = .ok
  | .acknowledged _ _ => true

/-- Some observation of the history made the incident worse, and nothing has settled it since. -/
def WorseningOutstanding (first : Observation) (history : List IncidentEvent) : Prop :=
  ∃ past o since, history = past ++ .observed o :: since ∧
    isEscalation (some (incident sha256 first past).currentVerdict) o.identity.toVerdict = true ∧
    ∀ e ∈ since, e.settles = false

theorem not_worseningOutstanding_nil (first : Observation) : ¬ WorseningOutstanding sha256 first [] := by
  rintro ⟨past, o, since, h, -⟩
  cases past <;> cases h

/-- One more event: it worsens the incident itself, or it leaves an earlier worsening unsettled. -/
theorem worseningOutstanding_snoc (first : Observation) (history : List IncidentEvent) (e : IncidentEvent) :
    WorseningOutstanding sha256 first (history ++ [e]) ↔
      (∃ o, e = .observed o ∧
        isEscalation (some (incident sha256 first history).currentVerdict) o.identity.toVerdict = true) ∨
      (WorseningOutstanding sha256 first history ∧ e.settles = false) := by
  constructor
  · rintro ⟨past, o, since, h, hw, hs⟩
    rcases List.eq_nil_or_concat since with rfl | ⟨since, last, rfl⟩
    · obtain ⟨rfl, he⟩ := List.append_inj' h rfl
      obtain rfl := List.singleton_inj.1 he
      exact Or.inl ⟨o, rfl, hw⟩
    · have h' : history ++ [e] = (past ++ .observed o :: since) ++ [last] := by simpa using h
      obtain ⟨rfl, he⟩ := List.append_inj' h' rfl
      obtain rfl := List.singleton_inj.1 he
      refine Or.inr ⟨⟨past, o, since, rfl, hw, fun x hx => hs x ?_⟩, hs e ?_⟩ <;> simp_all
  · rintro (⟨o, rfl, hw⟩ | ⟨⟨past, o, since, rfl, hw, hs⟩, he⟩)
    · exact ⟨history, o, [], rfl, hw, by simp⟩
    · refine ⟨past, o, since ++ [e], by simp, hw, fun x hx => ?_⟩
      rcases List.mem_append.1 hx with hx | hx
      · exact hs x hx
      · rw [List.mem_singleton.1 hx]; exact he

/-! ## The state of an incident over its whole history -/

/-- An escalated incident is never at OK: the verdict that escalated it was worse than another. -/
theorem incident_escalated_ne_ok (first : Observation) (history : List IncidentEvent) :
    (incident sha256 first history).state = .escalated →
      (incident sha256 first history).currentVerdict ≠ .ok := by
  induction history using List.reverseRecOn with
  | nil => simp [AlertRecord.open]
  | append_singleton history e ih =>
    rw [incident_snoc]
    cases e with
    | acknowledged by_ at_ => intro h; simp only [incidentStep, AlertRecord.acknowledge] at h; split at h <;> cases h
    | observed o =>
      simp only [incidentStep]
      cases hr : isRecovery (some (incident sha256 first history).currentVerdict) o.identity.toVerdict with
      | true => simp [(foldSignal_recovery sha256 hr).1]
      | false =>
        cases he : isEscalation (some (incident sha256 first history).currentVerdict) o.identity.toVerdict with
        | true =>
          rw [(foldSignal_escalation sha256 he).2]
          intro _ hok
          rw [hok, isEscalation_some] at he
          exact Nat.not_lt_zero _ he
        | false =>
          rw [(foldSignal_repeat sha256 hr he).1, (foldSignal_repeat sha256 hr he).2]
          intro h
          exact ih (by split at h <;> simp_all)

/-- The lifecycle state `escalated` records exactly an outstanding worsening. -/
theorem incident_escalated_iff (first : Observation) (history : List IncidentEvent) :
    (incident sha256 first history).state = .escalated ↔ WorseningOutstanding sha256 first history := by
  induction history using List.reverseRecOn with
  | nil => simp [AlertRecord.open, not_worseningOutstanding_nil]
  | append_singleton history e ih =>
    rw [incident_snoc, worseningOutstanding_snoc, ← ih]
    have hne := incident_escalated_ne_ok sha256 first history
    cases e with
    | acknowledged by_ at_ =>
      simp only [incidentStep, AlertRecord.acknowledge, IncidentEvent.settles]
      split <;> simp
    | observed o =>
      simp only [incidentStep, IncidentEvent.settles, IncidentEvent.observed.injEq, exists_eq_left',
        decide_eq_false_iff_not]
      cases hr : isRecovery (some (incident sha256 first history).currentVerdict) o.identity.toVerdict with
      | true =>
        have hok := (isRecovery_some.1 hr).2
        have he : isEscalation (some (incident sha256 first history).currentVerdict) o.identity.toVerdict = false := by
          rw [Bool.eq_false_iff]; intro h; simp [isRecovery_of_isEscalation h] at hr
        simp only [(foldSignal_recovery sha256 hr).1, he]
        simp [hok]
      | false =>
        cases he : isEscalation (some (incident sha256 first history).currentVerdict) o.identity.toVerdict with
        | true => simp [(foldSignal_escalation sha256 he).1]
        | false =>
          -- a repeat keeps `escalated`, and at an escalated record a repeat is never an OK
          have hnot : (incident sha256 first history).state = .escalated → o.identity.toVerdict ≠ .ok := by
            intro hs hok
            rw [hok] at hr
            exact absurd (isRecovery_some.2 ⟨hne hs, rfl⟩) (by rw [hr]; decide)
          rw [(foldSignal_repeat sha256 hr he).1]
          constructor
          · intro h
            have hs : (incident sha256 first history).state = .escalated := by split at h <;> simp_all
            exact Or.inr ⟨hs, hnot hs⟩
          · rintro (h | ⟨hs, -⟩)
            · cases h
            · simp [hs]

/-- A worse observation pages exactly when no earlier worsening of the incident is outstanding:
for every opening, every history of observations and acknowledgements, and every next observation
that is worse than the verdict the incident stands at. -/
theorem worse_pages_iff (first : Observation) (history : List IncidentEvent) (next : Observation)
    (hworse : isEscalation (some (incident sha256 first history).currentVerdict) next.identity.toVerdict = true) :
    pages sha256 (some (incident sha256 first history)) next = true ↔
      ¬ WorseningOutstanding sha256 first history := by
  rw [pages_escalation sha256 hworse, ← incident_escalated_iff]

end History

/-! ## WARN, UNKNOWN, CRITICAL -/

/-- An observation of one rule, one minute after another. -/
def sampleObservation (fromVerdict : Option Verdict) (toVerdict : Verdict) (minute : Int) : Observation where
  identity :=
    { deploymentId := "d", ruleId := "canonical_erc20.v1", reasonCode := "RULE_VIOLATED",
      fromVerdict, toVerdict, evidenceDigest := "e" ++ toVerdict.text }
  observedAt := 60000 * minute

/-- An acknowledged incident pages again when it gets worse. -/
theorem worse_pages_after_acknowledgement :
    pages id (some (incident id (sampleObservation none .warn 0) [.acknowledged "ops" 30000]))
      (sampleObservation (some .warn) .critical 1) = true :=
  (worse_pages_iff id _ _ _ (by decide)).2 (by
    rw [← incident_escalated_iff]; decide)

/-- WARN, UNKNOWN, CRITICAL without an acknowledgement: the last step is worse and nobody is paged. -/
theorem second_worsening_is_silent :
    isEscalation (some (incident id (sampleObservation none .warn 0)
        [.observed (sampleObservation (some .warn) .unknown 1)]).currentVerdict) .critical = true ∧
      pages id (some (incident id (sampleObservation none .warn 0)
        [.observed (sampleObservation (some .warn) .unknown 1)]))
        (sampleObservation (some .unknown) .critical 2) = false := by
  decide

end IcttSentinel.Alerts
