/-
What the record of an incident says, packages/alerts/src/lifecycle.ts: over every interleaving of observations and
acknowledgements the stored verdict is the worst one since the incident was opened or was last at OK, an
acknowledgement outlasts the repeats, and only an observation of OK closes the incident.
-/
import IcttSentinel.Alerts.Paging

namespace IcttSentinel.Alerts

open IcttSentinel.Domain

/-- The verdict that an event observes. -/
def IncidentEvent.verdict? : IncidentEvent → Option Verdict
  | .observed o => some o.identity.toVerdict
  | .acknowledged _ _ => none

def verdictsOf (history : List IncidentEvent) : List Verdict := history.filterMap IncidentEvent.verdict?

theorem verdictsOf_observed (history : List IncidentEvent) (o : Observation) :
    verdictsOf (history ++ [.observed o]) = verdictsOf history ++ [o.identity.toVerdict] := by
  simp [verdictsOf, IncidentEvent.verdict?]

theorem verdictsOf_acknowledged (history : List IncidentEvent) (by_ : String) (at_ : Int) :
    verdictsOf (history ++ [.acknowledged by_ at_]) = verdictsOf history := by
  simp [verdictsOf, IncidentEvent.verdict?]

/-- The verdict is one of those listed, and none of them is worse. -/
def Worst (v : Verdict) (verdicts : List Verdict) : Prop := v ∈ verdicts ∧ ∀ w ∈ verdicts, w.rank ≤ v.rank

theorem Worst.singleton (v : Verdict) : Worst v [v] := ⟨List.mem_cons_self, fun w hw => by rw [List.mem_singleton.1 hw]⟩

/-- One more verdict: the worse of the two is the worst. -/
theorem Worst.snoc {v : Verdict} {verdicts : List Verdict} (h : Worst v verdicts) (next : Verdict) :
    Worst (if v.rank < next.rank then next else v) (verdicts ++ [next]) := by
  obtain ⟨hmem, hle⟩ := h
  split
  next hworse =>
    refine ⟨List.mem_append_right _ List.mem_cons_self, fun w hw => ?_⟩
    rcases List.mem_append.1 hw with hw | hw
    · exact (hle w hw).trans (Nat.le_of_lt hworse)
    · rw [List.mem_singleton.1 hw]
  next hworse =>
    refine ⟨List.mem_append_left _ hmem, fun w hw => ?_⟩
    rcases List.mem_append.1 hw with hw | hw
    · exact hle w hw
    · rw [List.mem_singleton.1 hw]
      exact Nat.not_lt.1 hworse

/-! ## One event -/

section Step

variable (sha256 : String → String) {r : AlertRecord} {o : Observation}

theorem foldSignal_of_ok (h : o.identity.toVerdict = .ok) : (foldSignal sha256 (some r) o).currentVerdict = .ok := by
  cases hr : isRecovery (some r.currentVerdict) o.identity.toVerdict with
  | true => exact (foldSignal_recovery sha256 hr).2
  | false =>
    have hcurrent : r.currentVerdict = .ok := by
      by_contra hne
      rw [isRecovery_some.2 ⟨hne, h⟩] at hr
      cases hr
    have he : isEscalation (some r.currentVerdict) o.identity.toVerdict = false := by
      rw [hcurrent, h]
      rfl
    rw [(foldSignal_repeat sha256 hr he).2, hcurrent]

theorem foldSignal_of_ne_ok (h : o.identity.toVerdict ≠ .ok) : (foldSignal sha256 (some r) o).currentVerdict =
    if r.currentVerdict.rank < o.identity.toVerdict.rank then o.identity.toVerdict else r.currentVerdict := by
  have hr : isRecovery (some r.currentVerdict) o.identity.toVerdict = false :=
    Bool.eq_false_iff.2 fun hrecovery => h (isRecovery_some.1 hrecovery).2
  cases he : isEscalation (some r.currentVerdict) o.identity.toVerdict with
  | true => rw [(foldSignal_escalation sha256 he).2, if_pos (isEscalation_some.1 he)]
  | false =>
    have hnot : ¬r.currentVerdict.rank < o.identity.toVerdict.rank := fun hlt => by
      rw [isEscalation_some.2 hlt] at he
      cases he
    rw [(foldSignal_repeat sha256 hr he).2, if_neg hnot]

/-- No observation takes an acknowledgement back. -/
theorem foldSignal_acknowledgement : (foldSignal sha256 (some r) o).acknowledgedBy = r.acknowledgedBy ∧
    (foldSignal sha256 (some r) o).acknowledgedAt = r.acknowledgedAt := by
  cases hr : isRecovery (some r.currentVerdict) o.identity.toVerdict with
  | true => simp [foldSignal, AlertRecord.recover, hr]
  | false => simp [foldSignal, AlertRecord.recover, AlertRecord.observe, hr]

end Step

/-- An observation that neither worsens nor recovers an incident at the verdict. -/
def IncidentEvent.Repeats (current : Verdict) : IncidentEvent → Prop
  | .observed o => o.identity.toVerdict.rank ≤ current.rank ∧ (o.identity.toVerdict = .ok → current = .ok)
  | .acknowledged _ _ => False

section Fold

variable (sha256 : String → String) (first : Observation)

theorem incidentStep_repeats {r : AlertRecord} {e : IncidentEvent} (h : e.Repeats r.currentVerdict) :
    (incidentStep sha256 r e).state = (if r.state = .firstSeen then .repeated else r.state) ∧
      (incidentStep sha256 r e).currentVerdict = r.currentVerdict ∧
      (incidentStep sha256 r e).acknowledgedBy = r.acknowledgedBy ∧
      (incidentStep sha256 r e).acknowledgedAt = r.acknowledgedAt := by
  cases e with
  | acknowledged by_ at_ => exact h.elim
  | observed o =>
    have hr : isRecovery (some r.currentVerdict) o.identity.toVerdict = false :=
      Bool.eq_false_iff.2 fun hrecovery => (isRecovery_some.1 hrecovery).1 (h.2 (isRecovery_some.1 hrecovery).2)
    have he : isEscalation (some r.currentVerdict) o.identity.toVerdict = false :=
      Bool.eq_false_iff.2 fun hworse => Nat.not_lt.2 h.1 (isEscalation_some.1 hworse)
    exact ⟨(foldSignal_repeat sha256 hr he).1, (foldSignal_repeat sha256 hr he).2, (foldSignal_acknowledgement sha256).1,
      (foldSignal_acknowledgement sha256).2⟩

/-- Only an observation of OK, of an incident that is not at OK, closes it. -/
theorem incidentStep_recovered {r : AlertRecord} {e : IncidentEvent} (hopen : r.state ≠ .recovered) :
    (incidentStep sha256 r e).state = .recovered ↔
      ∃ o, e = .observed o ∧ o.identity.toVerdict = .ok ∧ r.currentVerdict ≠ .ok := by
  cases e with
  | acknowledged by_ at_ =>
    rw [incidentStep, AlertRecord.acknowledge, if_neg hopen]
    constructor
    · intro h
      cases h
    · rintro ⟨o, ho, -⟩
      cases ho
  | observed o =>
    simp only [incidentStep, IncidentEvent.observed.injEq, exists_eq_left']
    cases hr : isRecovery (some r.currentVerdict) o.identity.toVerdict with
    | true => exact iff_of_true (foldSignal_recovery sha256 hr).1 (isRecovery_some.1 hr).symm
    | false =>
      refine iff_of_false ?_ fun hok => ?_
      · cases he : isEscalation (some r.currentVerdict) o.identity.toVerdict with
        | true => rw [(foldSignal_escalation sha256 he).1]; decide
        | false =>
          rw [(foldSignal_repeat sha256 hr he).1]
          split
          · decide
          · exact hopen
      · rw [isRecovery_some.2 hok.symm] at hr
        cases hr

/-! ## The whole history -/

/-- From a record at a verdict, the verdict after a history without OK is the worst of it and what was observed. -/
theorem worst_foldl {r : AlertRecord} {history : List IncidentEvent} (h : .ok ∉ verdictsOf history) :
    Worst (history.foldl (incidentStep sha256) r).currentVerdict (r.currentVerdict :: verdictsOf history) := by
  induction history using List.reverseRecOn with
  | nil => exact Worst.singleton _
  | append_singleton history e ih =>
    rw [List.foldl_append, List.foldl_cons, List.foldl_nil]
    cases e with
    | acknowledged by_ at_ =>
      rw [verdictsOf_acknowledged] at h ⊢
      exact ih h
    | observed o =>
      rw [verdictsOf_observed] at h ⊢
      have hne : o.identity.toVerdict ≠ .ok := fun hok => h (List.mem_append_right _ (by rw [hok]; exact List.mem_cons_self))
      rw [incidentStep, foldSignal_of_ne_ok sha256 hne]
      exact (ih fun hmem => h (List.mem_append_left _ hmem)).snoc _

/-- Repeats leave the state, the verdict and the acknowledgement of an incident that was seen before. -/
theorem foldl_repeats {r : AlertRecord} {history : List IncidentEvent} (hseen : r.state ≠ .firstSeen)
    (h : ∀ e ∈ history, e.Repeats r.currentVerdict) :
    (history.foldl (incidentStep sha256) r).state = r.state ∧
      (history.foldl (incidentStep sha256) r).currentVerdict = r.currentVerdict ∧
      (history.foldl (incidentStep sha256) r).acknowledgedBy = r.acknowledgedBy ∧
      (history.foldl (incidentStep sha256) r).acknowledgedAt = r.acknowledgedAt := by
  induction history using List.reverseRecOn with
  | nil => exact ⟨rfl, rfl, rfl, rfl⟩
  | append_singleton history e ih =>
    obtain ⟨hstate, hverdict, hby, hat⟩ := ih fun e he => h e (List.mem_append_left _ he)
    have hlast : e.Repeats (history.foldl (incidentStep sha256) r).currentVerdict := by
      rw [hverdict]
      exact h e (List.mem_append_right _ List.mem_cons_self)
    obtain ⟨hstate', hverdict', hby', hat'⟩ := incidentStep_repeats sha256 hlast
    rw [List.foldl_append, List.foldl_cons, List.foldl_nil]
    refine ⟨?_, hverdict'.trans hverdict, hby'.trans hby, hat'.trans hat⟩
    rw [hstate', hstate, if_neg hseen]

/-- The verdict of an incident is the worst since it was opened or was last observed at OK; an acknowledgement outlasts
the repeats, no observation takes it back, and it changes no verdict; and only an observation of OK closes it. -/
theorem incident_folds :
    (∀ history, .ok ∉ verdictsOf history →
      Worst (incident sha256 first history).currentVerdict (first.identity.toVerdict :: verdictsOf history)) ∧
    (∀ past o since, o.identity.toVerdict = .ok → .ok ∉ verdictsOf since →
      Worst (incident sha256 first (past ++ .observed o :: since)).currentVerdict (.ok :: verdictsOf since)) ∧
    (∀ past by_ at_ since, (incident sha256 first past).state ≠ .recovered →
      (∀ e ∈ since, e.Repeats (incident sha256 first past).currentVerdict) →
      (incident sha256 first (past ++ .acknowledged by_ at_ :: since)).state = .acknowledged ∧
      (incident sha256 first (past ++ .acknowledged by_ at_ :: since)).acknowledgedBy = some by_ ∧
      (incident sha256 first (past ++ .acknowledged by_ at_ :: since)).acknowledgedAt = some at_) ∧
    (∀ past o, (incident sha256 first (past ++ [.observed o])).acknowledgedBy = (incident sha256 first past).acknowledgedBy ∧
      (incident sha256 first (past ++ [.observed o])).acknowledgedAt = (incident sha256 first past).acknowledgedAt) ∧
    (∀ past by_ at_, (incident sha256 first (past ++ [.acknowledged by_ at_])).currentVerdict =
      (incident sha256 first past).currentVerdict) ∧
    (incident sha256 first []).state ≠ .recovered ∧
    ∀ past e, (incident sha256 first past).state ≠ .recovered →
      ((incident sha256 first (past ++ [e])).state = .recovered ↔
        ∃ o, e = .observed o ∧ o.identity.toVerdict = .ok ∧ (incident sha256 first past).currentVerdict ≠ .ok) := by
  have hsplit : ∀ past e since, incident sha256 first (past ++ e :: since) =
      since.foldl (incidentStep sha256) (incidentStep sha256 (incident sha256 first past) e) := by
    intro past e since
    rw [incident, List.foldl_append, List.foldl_cons]
    rfl
  refine ⟨fun history h => worst_foldl sha256 h, fun past o since hok hsince => ?_, fun past by_ at_ since hopen hrepeats => ?_,
    fun past o => ?_, fun past by_ at_ => ?_, by simp [AlertRecord.open], fun past e hopen => ?_⟩
  -- an OK observation resets the verdict, and the folding starts over from it
  · have hcurrent : (incidentStep sha256 (incident sha256 first past) (.observed o)).currentVerdict = .ok :=
      foldSignal_of_ok sha256 hok
    rw [hsplit, ← hcurrent]
    exact worst_foldl sha256 hsince
  · have hstate : (incidentStep sha256 (incident sha256 first past) (.acknowledged by_ at_)).state = .acknowledged := by
      rw [incidentStep, AlertRecord.acknowledge, if_neg hopen]
    obtain ⟨hkept, -, hby, hat⟩ := foldl_repeats sha256
      (r := incidentStep sha256 (incident sha256 first past) (.acknowledged by_ at_)) (by rw [hstate]; decide) hrepeats
    rw [hsplit]
    exact ⟨hkept.trans hstate, hby, hat⟩
  · rw [incident_snoc]
    exact foldSignal_acknowledgement sha256
  · rw [incident_snoc]
    rfl
  · rw [incident_snoc]
    exact incidentStep_recovered sha256 hopen

end Fold

end IcttSentinel.Alerts
