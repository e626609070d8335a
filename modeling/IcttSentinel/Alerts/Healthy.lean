/-
What a healthy run leaves in the outbox. `raiseAlert` says of "an OK for a deployment that had no
open incident" that it "writes nothing". An OK that nothing precedes is worse than nothing, so the
first OK of an agent opens an incident and pages for it. The exact condition, over every history of
the outbox.
-/
import IcttSentinel.Alerts.Closing

namespace IcttSentinel.Alerts

open IcttSentinel.Domain IcttSentinel.Lib IcttSentinel.Storage

/-- A signal raises no alert: it pages nobody, queues no row that was not queued before, and leaves
nothing of its deployment and rule open. -/
structure RaisesNoAlert (rows rows' : List AlertOutboxRow) (signal : AlertSignal) (result : RaiseResult) : Prop where
  notified : result.notified = false
  queued : ∀ r ∈ rows', r.status = .pending → ∃ old ∈ rows, old.outboxId = r.outboxId ∧ old.status = .pending
  noneOpen : NoneOpen rows' signal.deploymentId signal.ruleId

section Healthy

variable {sha256 : String → String} {gates : String → Except String Unit} {outboxIdFor : String → String}
  {ties : AlertOutboxRow → Nat} {db db' : AlertDb} {signal : AlertSignal} {now dbNow : Int} {result : RaiseResult}

/-- Folding an OK into a recovered row that stands at OK pages nobody. -/
theorem shouldNotify_of_ok {context : IncidentContext} {row : AlertOutboxRow}
    (hbefore : beforeOf context (identityOf signal) = some (toRecord row (identityOf signal)))
    (hok : signal.verdict = .ok) (hrow : row.verdictTo = some .ok) (hclosed : row.isOpen = false) :
    shouldNotify (beforeOf context (identityOf signal)) (afterOf sha256 context signal now) = false := by
  have hafter : (afterOf sha256 context signal now).state = .recovered := by
    have hopen : decide ((afterOf sha256 context signal now).state ≠ .recovered) = row.isOpen :=
      afterOf_of_ok hbefore hok hrow
    simpa [hclosed] using hopen
  have hstate : (toRecord row (identityOf signal)).state = .recovered := isOpen_eq_false.1 hclosed
  rw [hbefore]
  simp [shouldNotify, hafter, hstate]

/-- A row overwritten by one of the status it had is queued only if it was. -/
theorem queued_overwrite {rows : List AlertOutboxRow} {next : AlertOutboxRow}
    (hstatus : ∀ r ∈ rows, r.dedupKey = next.dedupKey → next.status = r.status) :
    ∀ r ∈ rows.map (overwriteRow next), r.status = .pending →
      ∃ old ∈ rows, old.outboxId = r.outboxId ∧ old.status = .pending := by
  intro r hr hpending
  obtain ⟨old, hold, rfl⟩ := List.mem_map.1 hr
  refine ⟨old, hold, (overwriteRow_outboxId next old).symm, ?_⟩
  unfold overwriteRow at hpending
  split at hpending
  · rename_i hkey
    exact (hstatus old hold hkey).symm.trans hpending
  · exact hpending

section Cases

variable {signals : List AlertSignal} (hids : CollisionFree sha256 signals) (hfiled : AllFiled sha256 signals db)
  (hsignal : signal ∈ signals)

include hids hfiled hsignal in
/-- Folded into the closed row under its dedup key, an OK raises no alert. -/
theorem raisesNoAlert_of_existing (hnone : NoneOpen db.rows signal.deploymentId signal.ruleId)
    (hok : signal.verdict = .ok)
    (hraise : raiseAlert sha256 gates outboxIdFor ties db signal now dbNow = .ok (result, db'))
    {existing : AlertOutboxRow} (hexisting : (contextOf sha256 ties db signal).existing = some existing) :
    RaisesNoAlert db.rows db'.rows signal result := by
  have hbefore : beforeOf (contextOf sha256 ties db signal) (identityOf signal) =
      some (toRecord existing (identityOf signal)) := by
    unfold beforeOf
    rw [hexisting]
  obtain ⟨hshaped, hopen⟩ := noneOpen_of_existing hids hfiled hsignal hok hraise hexisting
  obtain ⟨hmem, hkey, hverdict, hdeployment, hrule⟩ := existing_of_ok hids hfiled hsignal hshaped hok
    (contextOf_existing.symm.trans hexisting)
  obtain ⟨-, ⟨hnothing, -⟩ | ⟨-, -, hnotified, payload, hrows⟩⟩ := raiseAlert_ok hraise
  · cases hbefore.symm.trans hnothing
  have hquiet : result.notified = false :=
    hnotified.trans (shouldNotify_of_ok hbefore hok hverdict (hnone existing hmem hdeployment hrule))
  refine ⟨hquiet, ?_, hopen.2 hnone⟩
  unfold closedRows at hrows
  rw [recovers_of_ok hbefore hok hverdict, hexisting, hquiet] at hrows
  change db'.rows = db.rows.map (overwriteRow _) at hrows
  rw [hrows]
  apply queued_overwrite
  intro r hr hrkey
  obtain rfl : r = existing := db.alertOutbox.table.eq_of_key hr hmem (hrkey.trans hkey.symm)
  rfl

/-- With nothing to fold into, an OK raises no alert exactly when something preceded it. -/
theorem raisesNoAlert_of_nothing (hnone : NoneOpen db.rows signal.deploymentId signal.ruleId)
    (hok : signal.verdict = .ok)
    (hraise : raiseAlert sha256 gates outboxIdFor ties db signal now dbNow = .ok (result, db'))
    (hexisting : (contextOf sha256 ties db signal).existing = none)
    (hnewest : (contextOf sha256 ties db signal).openIncident = none) :
    RaisesNoAlert db.rows db'.rows signal result ↔ signal.previousVerdict ≠ none := by
  have hopen := noneOpen_of_nothing hok hraise hexisting hnewest
  constructor
  · exact fun h => (hopen.1 h.noneOpen).2
  · intro hprevious
    obtain ⟨-, ⟨-, -, hrows, hquiet⟩ | ⟨hwrites, -⟩⟩ := raiseAlert_ok hraise
    · refine ⟨hquiet, fun r hr hpending => ⟨r, hrows ▸ hr, rfl, hpending⟩, hopen.2 ⟨hnone, hprevious⟩⟩
    · refine absurd ⟨?_, ?_⟩ hwrites
      · unfold beforeOf
        rw [hexisting, hnewest]
        rfl
      · rw [← Bool.not_eq_true, escalates_of_ok hok]
        exact hprevious

end Cases

/-- Over every history of the outbox that leaves nothing of a deployment and rule open: an OK signal
of theirs that `raiseAlert` has processed raises no alert exactly when a verdict precedes it or its
dedup key is stored. -/
theorem healthy_raises_no_alert_iff (deployments : List String) (deploymentTenants : List (String × String))
    (history : List OutboxEvent) (hids : CollisionFree sha256 (signal :: signalsOf history))
    (hnone : NoneOpen (outboxAfter sha256 gates outboxIdFor deployments deploymentTenants history).rows
      signal.deploymentId signal.ruleId)
    (hok : signal.verdict = .ok)
    (hraise : raiseAlert sha256 gates outboxIdFor ties
      (outboxAfter sha256 gates outboxIdFor deployments deploymentTenants history) signal now dbNow = .ok (result, db')) :
    RaisesNoAlert (outboxAfter sha256 gates outboxIdFor deployments deploymentTenants history).rows db'.rows signal
        result ↔
      signal.previousVerdict ≠ none ∨
        (outboxAfter sha256 gates outboxIdFor deployments deploymentTenants history).alertOutbox.table.has
          (dedupKey sha256 (identityOf signal)) = true := by
  have hfiled : AllFiled sha256 (signal :: signalsOf history)
      (outboxAfter sha256 gates outboxIdFor deployments deploymentTenants history) :=
    outboxAfter_filed deployments deploymentTenants hids fun _ => List.mem_cons_of_mem _
  generalize outboxAfter sha256 gates outboxIdFor deployments deploymentTenants history = db at *
  cases hexisting : (contextOf sha256 ties db signal).existing with
  | some existing =>
    obtain ⟨hmem, hkey⟩ := Keyed.lookup_eq_some.1 (contextOf_existing.symm.trans hexisting)
    exact iff_of_true (raisesNoAlert_of_existing hids hfiled List.mem_cons_self hnone hok hraise hexisting)
      (Or.inr (Keyed.has_iff.2 ⟨existing, hmem, hkey⟩))
  | none =>
    have hfree : db.alertOutbox.table.has (dedupKey sha256 (identityOf signal)) = false :=
      Keyed.has_eq_false.2 (Keyed.lookup_eq_none.1 (contextOf_existing.symm.trans hexisting))
    rw [hfree, or_iff_left Bool.false_ne_true]
    cases hnewest : (contextOf sha256 ties db signal).openIncident with
    | none => exact raisesNoAlert_of_nothing hnone hok hraise hexisting hnewest
    | some newest =>
      -- the newest open row of the incident would be open in the deployment and rule
      obtain ⟨-, ⟨hnothing, -⟩ | ⟨-, hshaped, -⟩⟩ := raiseAlert_ok hraise
      · unfold beforeOf at hnothing
        rw [hexisting, hnewest] at hnothing
        cases hnothing
      · exact absurd hnone (not_noneOpen_of_newest hids hfiled List.mem_cons_self hshaped hnewest)

end Healthy

/-! ### An OK after an OK, and the first OK of an agent -/

/-- The first OK after a start, when the agent knows of no verdict before it. -/
def sampleFirstTick : AlertSignal := sampleTick none .ok [] "bbbbbbbbbbbbbbbbbbbbbbbbbbbbbbbbbbbbbbbbbbbbbbbbbbbbbbbbbbbbbbbb"

/-- An OK after an OK. -/
def sampleHealthy : AlertSignal := sampleSignal (some .ok) .ok "cccccccccccccccccccccccccccccccccccccccccccccccccccccccccccccccc"

/-- SHA-256 on the key texts of the two. -/
def sampleTickSha256 (text : String) : String :=
  if text = dedupText (identityOf sampleFirstTick) then "4b7802b38ef9a115ebdaf1ac559ef29b3f1236146d0eabf397cc3d39a5ad412d"
  else if text = dedupText (identityOf sampleHealthy) then "6249780fac0229cf0d78550ceccbad92f054c80fd21ed9d6a4d7635a4740d741"
  else sampleSha256 text

/-- The outbox after an incident that was opened and has recovered. -/
def sampleRecovered : AlertDb :=
  outboxAfter sampleTickSha256 (fun _ => .ok ()) id ["sample"] [] (sampleEvents 0 [sampleBreach, sampleRecovery])

/-- An OK after an OK raises no alert in the outbox of an incident that has recovered. -/
theorem healthy_raises_no_alert_sample : sampleRecovered.rows.length = 2 ∧ ∃ result db',
    raiseAlert sampleTickSha256 (fun _ => .ok ()) id (fun _ => 0) sampleRecovered sampleHealthy 60000 60000 =
        .ok (result, db') ∧
      RaisesNoAlert sampleRecovered.rows db'.rows sampleHealthy result := by
  have hids : CollisionFree sampleTickSha256
      (sampleHealthy :: signalsOf (sampleEvents 0 [sampleBreach, sampleRecovery])) :=
    ⟨by decide +kernel, by decide +kernel⟩
  have hstore : sampleRecovered.rows.length = 2 ∧
      NoneOpen sampleRecovered.rows sampleHealthy.deploymentId sampleHealthy.ruleId ∧
      (raiseAlert sampleTickSha256 (fun _ => .ok ()) id (fun _ => 0) sampleRecovered sampleHealthy 60000 60000).toBool =
        true := by
    unfold NoneOpen
    decide +kernel
  obtain ⟨hrows, hnone, hok⟩ := hstore
  refine ⟨hrows, ?_⟩
  cases hraise : raiseAlert sampleTickSha256 (fun _ => .ok ()) id (fun _ => 0) sampleRecovered sampleHealthy 60000
      60000 with
  | error failure =>
    rw [hraise] at hok
    cases hok
  | ok a =>
    exact ⟨a.1, a.2, rfl, (healthy_raises_no_alert_iff ["sample"] [] (sampleEvents 0 [sampleBreach, sampleRecovery]) hids
      hnone rfl hraise).2 (Or.inl (by decide))⟩

/-- The first OK of an agent on an empty outbox: an incident is opened and queued for it. -/
theorem first_ok_pages :
    sampleFirstTick.verdict = .ok ∧ (AlertDb.registered ["sample"] []).rows = [] ∧
      leaves (raiseAlert sampleTickSha256 (fun _ => .ok ()) id (fun _ => 0) (.registered ["sample"] []) sampleFirstTick
          0 0) (fun result rows =>
        result.notified && rows.any fun r =>
          r.deploymentId = "sample" && r.ruleId = some "replay-completeness" && r.isOpen && r.status = .pending) =
        true := by
  decide +kernel

end IcttSentinel.Alerts
