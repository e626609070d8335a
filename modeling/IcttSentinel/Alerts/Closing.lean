/-
When an incident closes and when it opens again. `raiseAlert` promises that a recovery "closes every
open row of the incident", and the migration of the outbox that "a closed incident is never the one a
new observation folds into". A recovery only reaches the rows filed under its own reason code, and a
signal whose dedup key is already stored is folded into the row under it, closed or not. The exact
conditions, over every history of the outbox.
-/
import IcttSentinel.Alerts.Filing

namespace IcttSentinel.Alerts

open IcttSentinel.Domain IcttSentinel.Lib IcttSentinel.Storage

/-- Every row of the deployment and rule has recovered. -/
def NoneOpen (rows : List AlertOutboxRow) (deploymentId ruleId : String) : Prop :=
  ∀ r ∈ rows, r.deploymentId = deploymentId → r.ruleId = some ruleId → r.isOpen = false

/-- The incident was opened once, and all of its rows have recovered. -/
def IncidentRecovered (rows : List AlertOutboxRow) (incidentKey : String) : Prop :=
  (∃ r ∈ rows, r.incidentKey = incidentKey) ∧ ∀ r ∈ rows, r.incidentKey = incidentKey → r.isOpen = false

/-! ## Rows -/

section Rows

variable {rows : List AlertOutboxRow} {deploymentId ruleId incidentKey : String} {dbNow : Int}

theorem isOpen_eq_false {r : AlertOutboxRow} : r.isOpen = false ↔ r.lifecycleState = .recovered := by
  simp [AlertOutboxRow.isOpen]

theorem noneOpen_append {next : AlertOutboxRow} :
    NoneOpen (rows ++ [next]) deploymentId ruleId ↔
      NoneOpen rows deploymentId ruleId ∧
        (next.deploymentId = deploymentId → next.ruleId = some ruleId → next.isOpen = false) := by
  simp only [NoneOpen, List.mem_append, List.mem_singleton, or_imp, forall_and, forall_eq]

/-- A closed row is closed by the update already, or was closed before. -/
theorem closeRow_isOpen {r : AlertOutboxRow} :
    (closeRow incidentKey dbNow r).isOpen = true ↔ r.isOpen = true ∧ r.incidentKey ≠ incidentKey := by
  unfold closeRow
  split
  · rename_i h
    simp only [Bool.and_eq_true, decide_eq_true_eq] at h
    constructor
    · intro hopen
      simp [AlertOutboxRow.isOpen] at hopen
    · rintro ⟨-, hne⟩
      exact absurd h.1 hne
  · rename_i h
    simp only [Bool.and_eq_true, decide_eq_true_eq, not_and] at h
    constructor
    · intro hopen
      exact ⟨hopen, fun hkey => h hkey hopen⟩
    · exact And.left

/-- Closing an incident leaves nothing open where every open row belongs to it. -/
theorem noneOpen_close :
    NoneOpen (rows.map (closeRow incidentKey dbNow)) deploymentId ruleId ↔
      ∀ r ∈ rows, r.deploymentId = deploymentId → r.ruleId = some ruleId → r.isOpen = true →
        r.incidentKey = incidentKey := by
  have hfiling : ∀ r, (closeRow incidentKey dbNow r).deploymentId = r.deploymentId ∧
      (closeRow incidentKey dbNow r).ruleId = r.ruleId := by
    intro r
    have h := closeRow_filing incidentKey dbNow r
    simp only [AlertOutboxRow.filing, Prod.mk.injEq] at h
    exact ⟨h.2.2.1, h.2.2.2.1⟩
  constructor
  · intro h r hr hdeployment hrule hopen
    by_contra hne
    have hclosed := h _ (List.mem_map_of_mem hr) ((hfiling r).1.trans hdeployment) ((hfiling r).2.trans hrule)
    rw [closeRow_isOpen.2 ⟨hopen, hne⟩] at hclosed
    cases hclosed
  · intro h x hx hdeployment hrule
    obtain ⟨r, hr, rfl⟩ := List.mem_map.1 hx
    rw [(hfiling r).1] at hdeployment
    rw [(hfiling r).2] at hrule
    rw [← Bool.not_eq_true, closeRow_isOpen]
    rintro ⟨hopen, hne⟩
    exact hne (h r hr hdeployment hrule hopen)

/-- A stored row has recovered exactly if it says when. -/
theorem AlertDb.recovered_iff (db : AlertDb) {r : AlertOutboxRow} (hr : r ∈ db.rows) :
    r.lifecycleState = .recovered ↔ r.recoveredAt.isSome = true := by
  obtain ⟨-, -, -, -, -, -, hrecovered⟩ := AlertOutboxRow.check_eq_ok.1 (db.alertOutbox.checks r hr)
  rw [← hrecovered, decide_eq_true_eq]

end Rows

section Closing

variable {sha256 : String → String} {gates : String → Except String Unit} {outboxIdFor : String → String}
  {ties : AlertOutboxRow → Nat} {db db' : AlertDb} {signal : AlertSignal} {now dbNow : Int} {result : RaiseResult}

/-! ## Recovery -/

/-- When an OK signal leaves nothing of its deployment and rule open: every open row carries its
reason code; if any of the incident is open, the signal's dedup key is new and the newest open row
stands at a breach; and if none is, the signal does not open a row itself. -/
structure Closes (sha256 : String → String) (ties : AlertOutboxRow → Nat) (db : AlertDb) (signal : AlertSignal) :
    Prop where
  sameReason : ∀ r ∈ db.rows, r.deploymentId = signal.deploymentId → r.ruleId = some signal.ruleId →
    r.isOpen = true → r.reasonCode = some signal.reasonCode
  breached : ∀ newest ∈ (incidentRows ties db (incidentKey sha256 (identityOf signal))).head?,
    db.alertOutbox.table.has (dedupKey sha256 (identityOf signal)) = false ∧ newest.verdictTo ≠ some .ok
  silent : incidentRows ties db (incidentKey sha256 (identityOf signal)) = [] →
    db.alertOutbox.table.has (dedupKey sha256 (identityOf signal)) = false → signal.previousVerdict ≠ none

/-- A row filed under the signal's deployment, rule and reason code belongs to its incident. -/
theorem Filed.incidentKey_eq {s : AlertSignal} {r : AlertOutboxRow} (h : Filed sha256 s r)
    (hdeployment : r.deploymentId = signal.deploymentId) (hrule : r.ruleId = some signal.ruleId)
    (hreason : r.reasonCode = some signal.reasonCode) :
    r.incidentKey = Alerts.incidentKey sha256 (identityOf signal) := by
  have hd : s.deploymentId = signal.deploymentId := h.deploymentId.symm.trans hdeployment
  have hr : s.ruleId = signal.ruleId := Option.some_inj.1 (h.ruleId.symm.trans hrule)
  have hc : s.reasonCode = signal.reasonCode := Option.some_inj.1 (h.reasonCode.symm.trans hreason)
  rw [h.incidentKey]
  simp only [Alerts.incidentKey, identityOf, hd, hr, hc]

/-- And a row of the signal's incident is filed under them. -/
theorem CollisionFree.filed_of_incident {signals : List AlertSignal} (hids : CollisionFree sha256 signals)
    {s : AlertSignal} (hs : s ∈ signals) (hsignal : signal ∈ signals) (hshaped : signal.Shaped) {r : AlertOutboxRow}
    (h : Filed sha256 s r) (hkey : r.incidentKey = incidentKey sha256 (identityOf signal)) :
    r.deploymentId = signal.deploymentId ∧ r.ruleId = some signal.ruleId ∧ r.reasonCode = some signal.reasonCode := by
  obtain ⟨hd, hr, hc⟩ := incidentText_injective h.shaped hshaped
    (hids.incident s hs signal hsignal (h.incidentKey.symm.trans hkey))
  exact ⟨hd ▸ h.deploymentId, hr ▸ h.ruleId, hc ▸ h.reasonCode⟩

/-- In a filed store, the open rows of the signal's deployment and rule carry its reason code exactly
when they belong to its incident. -/
theorem sameReason_iff {signals : List AlertSignal} (hids : CollisionFree sha256 signals)
    (hfiled : AllFiled sha256 signals db) (hsignal : signal ∈ signals) (hshaped : signal.Shaped) :
    (∀ r ∈ db.rows, r.deploymentId = signal.deploymentId → r.ruleId = some signal.ruleId → r.isOpen = true →
      r.reasonCode = some signal.reasonCode) ↔
    ∀ r ∈ db.rows, r.deploymentId = signal.deploymentId → r.ruleId = some signal.ruleId → r.isOpen = true →
      r.incidentKey = incidentKey sha256 (identityOf signal) := by
  constructor
  · intro h r hr hdeployment hrule hopen
    obtain ⟨s, -, hs⟩ := hfiled r hr
    exact hs.incidentKey_eq hdeployment hrule (h r hr hdeployment hrule hopen)
  · intro h r hr hdeployment hrule hopen
    obtain ⟨s, hmem, hs⟩ := hfiled r hr
    exact (hids.filed_of_incident hmem hsignal hshaped hs (h r hr hdeployment hrule hopen)).2.2

/-- With nothing of the incident open, nothing is open exactly when what is open carries the
signal's reason code. -/
theorem noneOpen_iff_sameReason {signals : List AlertSignal} (hfiled : AllFiled sha256 signals db)
    (hnone : ∀ r ∈ db.rows, r.incidentKey = incidentKey sha256 (identityOf signal) → r.isOpen = false) :
    NoneOpen db.rows signal.deploymentId signal.ruleId ↔
      ∀ r ∈ db.rows, r.deploymentId = signal.deploymentId → r.ruleId = some signal.ruleId → r.isOpen = true →
        r.reasonCode = some signal.reasonCode := by
  constructor
  · intro h r hr hdeployment hrule hopen
    rw [h r hr hdeployment hrule] at hopen
    cases hopen
  · intro h r hr hdeployment hrule
    rw [← Bool.not_eq_true]
    intro hopen
    obtain ⟨s, -, hs⟩ := hfiled r hr
    have hclosed := hnone r hr (hs.incidentKey_eq hdeployment hrule (h r hr hdeployment hrule hopen))
    rw [hopen] at hclosed
    cases hclosed

/-- A row that an OK signal folds into stands at OK already, and in the signal's incident. -/
theorem existing_of_ok {signals : List AlertSignal} (hids : CollisionFree sha256 signals)
    (hfiled : AllFiled sha256 signals db) (hsignal : signal ∈ signals) (hshaped : signal.Shaped)
    (hok : signal.verdict = .ok) {existing : AlertOutboxRow}
    (h : db.alertOutbox.table.lookup (dedupKey sha256 (identityOf signal)) = some existing) :
    existing ∈ db.rows ∧ existing.dedupKey = dedupKey sha256 (identityOf signal) ∧ existing.verdictTo = some .ok ∧
      existing.deploymentId = signal.deploymentId ∧ existing.ruleId = some signal.ruleId := by
  obtain ⟨hmem, hkey⟩ := Keyed.lookup_eq_some.1 h
  obtain ⟨s, hs, hrow⟩ := hfiled existing hmem
  have hidentity := hids.identity hs hsignal hrow.shaped hshaped (hrow.dedupKey.symm.trans hkey)
  obtain ⟨v, hv, -, hokv⟩ := hrow.verdict
  have hsok : s.verdict = .ok := (congrArg AlertIdentity.toVerdict hidentity).trans hok
  have hsdeployment : s.deploymentId = signal.deploymentId := congrArg AlertIdentity.deploymentId hidentity
  have hsrule : s.ruleId = signal.ruleId := congrArg AlertIdentity.ruleId hidentity
  refine ⟨hmem, hkey, ?_, hrow.deploymentId.trans hsdeployment, hsrule ▸ hrow.ruleId⟩
  rw [hv, hokv hsok]

/-- Folding an OK into a row that stands at OK opens nothing and closes nothing. -/
theorem noneOpen_overwrite {existing next : AlertOutboxRow} (hmem : existing ∈ db.rows)
    (hkey : existing.dedupKey = next.dedupKey) (hrule : existing.ruleId = next.ruleId)
    (hopen : next.isOpen = existing.isOpen) {deploymentId ruleId : String} :
    NoneOpen (db.rows.map (overwriteRow next)) deploymentId ruleId ↔ NoneOpen db.rows deploymentId ruleId := by
  have hsame : ∀ r ∈ db.rows, (overwriteRow next r).deploymentId = r.deploymentId ∧
      (overwriteRow next r).ruleId = r.ruleId ∧ (overwriteRow next r).isOpen = r.isOpen := by
    intro r hr
    unfold overwriteRow
    split
    · rename_i hrkey
      obtain rfl : r = existing := db.alertOutbox.table.eq_of_key hr hmem (hrkey.trans hkey.symm)
      exact ⟨rfl, hrule.symm, hopen⟩
    · exact ⟨rfl, rfl, rfl⟩
  constructor
  · intro h r hr hdeployment hr'
    obtain ⟨hd, hru, ho⟩ := hsame r hr
    rw [← ho]
    exact h _ (List.mem_map_of_mem hr) (hd.trans hdeployment) (hru.trans hr')
  · intro h x hx hdeployment hr'
    obtain ⟨r, hr, rfl⟩ := List.mem_map.1 hx
    obtain ⟨hd, hru, ho⟩ := hsame r hr
    rw [ho]
    exact h r hr (hd.symm.trans hdeployment) (hru.symm.trans hr')

/-- A record at OK neither recovers from an OK nor gets worse by it. -/
theorem unmoved_of_ok {row : AlertOutboxRow} (hok : signal.verdict = .ok) (hrow : row.verdictTo = some .ok) :
    isRecovery (some (toRecord row (identityOf signal)).currentVerdict) signal.verdict = false ∧
      isEscalation (some (toRecord row (identityOf signal)).currentVerdict) signal.verdict = false := by
  have hverdict : (toRecord row (identityOf signal)).currentVerdict = .ok := by simp [toRecord, hrow]
  rw [hverdict, hok]
  exact ⟨rfl, rfl⟩

theorem recovers_of_ok {context : IncidentContext} {row : AlertOutboxRow}
    (hbefore : beforeOf context (identityOf signal) = some (toRecord row (identityOf signal)))
    (hok : signal.verdict = .ok) (hrow : row.verdictTo = some .ok) :
    recovers (beforeOf context (identityOf signal)) signal = false := by
  rw [hbefore]
  exact (unmoved_of_ok hok hrow).1

theorem afterOf_of_before {context : IncidentContext} {before : AlertRecord}
    (hbefore : beforeOf context (identityOf signal) = some before) :
    afterOf sha256 context signal now =
      foldSignal sha256 (some before) { identity := identityOf signal, observedAt := now } := by
  unfold afterOf
  exact congrArg (foldSignal sha256 · _) hbefore

/-- An OK leaves a record at OK open or closed as it was. -/
theorem afterOf_of_ok {context : IncidentContext} {row : AlertOutboxRow}
    (hbefore : beforeOf context (identityOf signal) = some (toRecord row (identityOf signal)))
    (hok : signal.verdict = .ok) (hrow : row.verdictTo = some .ok) :
    decide ((afterOf sha256 context signal now).state ≠ .recovered) = row.isOpen := by
  obtain ⟨hr, he⟩ := unmoved_of_ok hok hrow
  have hstate : (afterOf sha256 context signal now).state =
      if row.lifecycleState = .firstSeen then AlertState.repeated else row.lifecycleState :=
    (congrArg AlertRecord.state (afterOf_of_before hbefore)).trans
      (foldSignal_repeat sha256 (o := { identity := identityOf signal, observedAt := now }) hr he).1
  rw [hstate]
  unfold AlertOutboxRow.isOpen
  split
  · rename_i hfirst
    rw [hfirst]
    rfl
  · rfl

theorem incidentRows_eq_nil :
    incidentRows ties db (incidentKey sha256 (identityOf signal)) = [] ↔
      ∀ r ∈ db.rows, r.incidentKey = incidentKey sha256 (identityOf signal) → r.isOpen = false := by
  rw [List.eq_nil_iff_forall_not_mem]
  simp only [mem_incidentRows, not_and, Bool.not_eq_true]

/-- The row that an OK signal finds open in its incident is open in its deployment and rule. -/
theorem not_noneOpen_of_newest {signals : List AlertSignal} (hids : CollisionFree sha256 signals)
    (hfiled : AllFiled sha256 signals db) (hsignal : signal ∈ signals) (hshaped : signal.Shaped)
    {newest : AlertOutboxRow}
    (h : (incidentRows ties db (incidentKey sha256 (identityOf signal))).head? = some newest) :
    ¬ NoneOpen db.rows signal.deploymentId signal.ruleId := by
  obtain ⟨hmem, hkey, hopen⟩ := mem_incidentRows.1 (List.mem_of_head? h)
  obtain ⟨s, hs, hrow⟩ := hfiled newest hmem
  obtain ⟨hdeployment, hrule, -⟩ := hids.filed_of_incident hs hsignal hshaped hrow hkey
  intro hnone
  rw [hnone newest hmem hdeployment hrule] at hopen
  cases hopen

/-! ### The condition, case by case -/

section Cases

variable {signals : List AlertSignal} (hids : CollisionFree sha256 signals) (hfiled : AllFiled sha256 signals db)
  (hsignal : signal ∈ signals)

include hids hfiled hsignal in
/-- Under a dedup key that is stored, an OK closes nothing. -/
theorem closes_iff_of_stored (hshaped : signal.Shaped)
    (hstored : db.alertOutbox.table.has (dedupKey sha256 (identityOf signal)) = true) :
    Closes sha256 ties db signal ↔ NoneOpen db.rows signal.deploymentId signal.ruleId := by
  cases hhead : (incidentRows ties db (incidentKey sha256 (identityOf signal))).head? with
  | none =>
    rw [List.head?_eq_none_iff] at hhead
    rw [noneOpen_iff_sameReason hfiled (incidentRows_eq_nil.1 hhead)]
    constructor
    · exact Closes.sameReason
    · intro h
      refine ⟨h, by simp [hhead], fun _ hfree => ?_⟩
      rw [hstored] at hfree
      cases hfree
  | some newest =>
    constructor
    · intro h
      have hfree := (h.breached newest hhead).1
      rw [hstored] at hfree
      cases hfree
    · exact fun h => absurd h (not_noneOpen_of_newest hids hfiled hsignal hshaped hhead)

include hfiled in
/-- With a new dedup key and nothing of the incident open, an OK must not open a row itself. -/
theorem closes_iff_of_nothing (hfree : db.alertOutbox.table.has (dedupKey sha256 (identityOf signal)) = false)
    (hnil : incidentRows ties db (incidentKey sha256 (identityOf signal)) = []) :
    Closes sha256 ties db signal ↔
      NoneOpen db.rows signal.deploymentId signal.ruleId ∧ signal.previousVerdict ≠ none := by
  rw [noneOpen_iff_sameReason hfiled (incidentRows_eq_nil.1 hnil)]
  constructor
  · exact fun h => ⟨h.sameReason, h.silent hnil hfree⟩
  · rintro ⟨h, hprevious⟩
    exact ⟨h, by simp [hnil], fun _ _ => hprevious⟩

/-- With a new dedup key and an open incident, an OK must find it at a breach. -/
theorem closes_iff_of_newest (hfree : db.alertOutbox.table.has (dedupKey sha256 (identityOf signal)) = false)
    {newest : AlertOutboxRow}
    (hhead : (incidentRows ties db (incidentKey sha256 (identityOf signal))).head? = some newest) :
    Closes sha256 ties db signal ↔
      (∀ r ∈ db.rows, r.deploymentId = signal.deploymentId → r.ruleId = some signal.ruleId → r.isOpen = true →
        r.reasonCode = some signal.reasonCode) ∧ newest.verdictTo ≠ some .ok := by
  constructor
  · exact fun h => ⟨h.sameReason, (h.breached newest hhead).2⟩
  · rintro ⟨h, hverdict⟩
    refine ⟨h, ?_, fun hnil => ?_⟩
    · intro x hx
      rw [hhead] at hx
      obtain rfl := Option.some_inj.1 hx
      exact ⟨hfree, hverdict⟩
    · rw [hnil] at hhead
      cases hhead

/-- What the fold finds: the row under the dedup key, and the newest open one of the incident. -/
theorem contextOf_existing :
    (contextOf sha256 ties db signal).existing = db.alertOutbox.table.lookup (dedupKey sha256 (identityOf signal)) :=
  incidentContext_existing

include hids hfiled hsignal in
/-- Folded into the row under its dedup key, an OK leaves open what was open. -/
theorem noneOpen_of_existing (hok : signal.verdict = .ok)
    (hraise : raiseAlert sha256 gates outboxIdFor ties db signal now dbNow = .ok (result, db'))
    {existing : AlertOutboxRow} (hexisting : (contextOf sha256 ties db signal).existing = some existing) :
    signal.Shaped ∧ (NoneOpen db'.rows signal.deploymentId signal.ruleId ↔
      NoneOpen db.rows signal.deploymentId signal.ruleId) := by
  have hbefore : beforeOf (contextOf sha256 ties db signal) (identityOf signal) =
      some (toRecord existing (identityOf signal)) := by
    unfold beforeOf
    rw [hexisting]
  obtain ⟨-, ⟨hnone, -⟩ | ⟨-, hshaped, -, payload, hrows⟩⟩ := raiseAlert_ok hraise
  · cases hbefore.symm.trans hnone
  · refine ⟨hshaped, ?_⟩
    obtain ⟨hmem, hkey, hverdict, -, hrule⟩ := existing_of_ok hids hfiled hsignal hshaped hok
      (contextOf_existing.symm.trans hexisting)
    unfold closedRows at hrows
    rw [recovers_of_ok hbefore hok hverdict, hexisting] at hrows
    change db'.rows = db.rows.map (overwriteRow _) at hrows
    rw [hrows]
    apply noneOpen_overwrite hmem
    · exact hkey
    · exact hrule
    · exact afterOf_of_ok hbefore hok hverdict

/-- An OK is worse than nothing, and than nothing else. -/
theorem escalates_of_ok (hok : signal.verdict = .ok) : signal.escalates = true ↔ signal.previousVerdict = none := by
  unfold AlertSignal.escalates
  rw [hok]
  cases signal.previousVerdict with
  | none => simp [isEscalation, Verdict.rank]
  | some v => simp [isEscalation_some, Verdict.rank]

/-- With nothing to fold into, an OK is passed over, or opens a row when nothing preceded it. -/
theorem noneOpen_of_nothing (hok : signal.verdict = .ok)
    (hraise : raiseAlert sha256 gates outboxIdFor ties db signal now dbNow = .ok (result, db'))
    (hexisting : (contextOf sha256 ties db signal).existing = none)
    (hnewest : (contextOf sha256 ties db signal).openIncident = none) :
    NoneOpen db'.rows signal.deploymentId signal.ruleId ↔
      NoneOpen db.rows signal.deploymentId signal.ruleId ∧ signal.previousVerdict ≠ none := by
  have hbefore : beforeOf (contextOf sha256 ties db signal) (identityOf signal) = none := by
    unfold beforeOf
    rw [hexisting, hnewest]
    rfl
  have hescalates := escalates_of_ok hok
  obtain ⟨-, ⟨-, hsilent, hrows, -⟩ | ⟨hwrites, -, -, payload, hrows⟩⟩ := raiseAlert_ok hraise
  · rw [hrows, iff_self_and, ne_eq, ← hescalates, hsilent]
    exact fun _ => Bool.false_ne_true
  · have hprevious : signal.previousVerdict = none := by
      rw [← hescalates]
      by_contra h
      exact hwrites ⟨hbefore, by simpa using h⟩
    rw [hbefore, hexisting] at hrows
    change db'.rows = db.rows ++ [_] at hrows
    rw [hrows, noneOpen_append]
    constructor
    · rintro ⟨-, hclosed⟩
      have hclosed := isOpen_eq_false.1 (hclosed rfl rfl)
      simp [outboxRow, afterOf, hbefore, foldSignal, AlertRecord.open] at hclosed
    · exact fun h => absurd hprevious h.2

include hids hfiled hsignal in
/-- Folded into the newest open row of its incident, an OK closes the incident if the row stands at a
breach, and closes nothing if it stands at OK. -/
theorem noneOpen_of_newest (hok : signal.verdict = .ok)
    (hraise : raiseAlert sha256 gates outboxIdFor ties db signal now dbNow = .ok (result, db'))
    (hexisting : (contextOf sha256 ties db signal).existing = none) {newest : AlertOutboxRow}
    (hnewest : (contextOf sha256 ties db signal).openIncident = some newest) :
    NoneOpen db'.rows signal.deploymentId signal.ruleId ↔
      (∀ r ∈ db.rows, r.deploymentId = signal.deploymentId → r.ruleId = some signal.ruleId → r.isOpen = true →
        r.reasonCode = some signal.reasonCode) ∧ newest.verdictTo ≠ some .ok := by
  have hbefore : beforeOf (contextOf sha256 ties db signal) (identityOf signal) =
      some (toRecord newest (identityOf signal)) := by
    unfold beforeOf
    rw [hexisting, hnewest]
    rfl
  obtain ⟨-, ⟨hnone, -⟩ | ⟨-, hshaped, -, payload, hrows⟩⟩ := raiseAlert_ok hraise
  · cases hbefore.symm.trans hnone
  unfold closedRows at hrows
  by_cases hverdict : newest.verdictTo = some .ok
  · -- nothing recovers, and the newest row stays open
    rw [recovers_of_ok hbefore hok hverdict, hexisting] at hrows
    change db'.rows = db.rows ++ [_] at hrows
    rw [hrows, noneOpen_append]
    constructor
    · exact fun h => absurd h.1 (not_noneOpen_of_newest hids hfiled hsignal hshaped hnewest)
    · exact fun h => absurd hverdict h.2
  · -- the incident closes, and what is open elsewhere stays open
    obtain ⟨s, hs, hrow⟩ := hfiled newest (mem_incidentRows.1 (List.mem_of_head? hnewest)).1
    obtain ⟨v, hv, -⟩ := hrow.verdict
    -- from any other verdict to OK is a recovery
    have hrecovery : isRecovery (some (toRecord newest (identityOf signal)).currentVerdict) signal.verdict = true := by
      rw [isRecovery_some]
      refine ⟨fun h => hverdict ?_, hok⟩
      simp only [toRecord, hv, Option.getD_some] at h
      rw [hv, h]
    have hrecovers : recovers (beforeOf (contextOf sha256 ties db signal) (identityOf signal)) signal = true := by
      rw [hbefore]
      exact hrecovery
    have hclosed : (afterOf sha256 (contextOf sha256 ties db signal) signal now).state = .recovered :=
      (congrArg AlertRecord.state (afterOf_of_before hbefore)).trans
        (foldSignal_recovery sha256 (o := { identity := identityOf signal, observedAt := now }) hrecovery).1
    rw [hrecovers, hexisting] at hrows
    change db'.rows = db.rows.map (closeRow _ _) ++ [_] at hrows
    rw [hrows, noneOpen_append, noneOpen_close, ← sameReason_iff hids hfiled hsignal hshaped]
    constructor
    · exact fun h => ⟨h.1, hverdict⟩
    · rintro ⟨h, -⟩
      refine ⟨h, fun _ _ => ?_⟩
      rw [isOpen_eq_false]
      exact hclosed

include hids hfiled hsignal in
/-- In a filed store, an OK signal that commits leaves nothing of its deployment and rule open exactly
when it closes. -/
theorem closes_iff (hok : signal.verdict = .ok)
    (hraise : raiseAlert sha256 gates outboxIdFor ties db signal now dbNow = .ok (result, db')) :
    NoneOpen db'.rows signal.deploymentId signal.ruleId ↔ Closes sha256 ties db signal := by
  cases hexisting : (contextOf sha256 ties db signal).existing with
  | some existing =>
    obtain ⟨hmem, hkey⟩ := Keyed.lookup_eq_some.1 (contextOf_existing.symm.trans hexisting)
    obtain ⟨hshaped, h⟩ := noneOpen_of_existing hids hfiled hsignal hok hraise hexisting
    rw [h, closes_iff_of_stored hids hfiled hsignal hshaped (Keyed.has_iff.2 ⟨existing, hmem, hkey⟩)]
  | none =>
    have hfree : db.alertOutbox.table.has (dedupKey sha256 (identityOf signal)) = false :=
      Keyed.has_eq_false.2 (Keyed.lookup_eq_none.1 (contextOf_existing.symm.trans hexisting))
    cases hnewest : (contextOf sha256 ties db signal).openIncident with
    | none =>
      rw [noneOpen_of_nothing hok hraise hexisting hnewest,
        closes_iff_of_nothing hfiled hfree (List.head?_eq_none_iff.1 hnewest)]
    | some newest =>
      rw [noneOpen_of_newest hids hfiled hsignal hok hraise hexisting hnewest, closes_iff_of_newest hfree hnewest]

end Cases

/-- Over every history of the outbox: an OK signal that `raiseAlert` has processed leaves no row of its
deployment and rule open exactly when every open one carries its own reason code and either an
incident is open at a breach under a new dedup key, or none is open and the signal opens none. -/
theorem recovery_closes_iff (deployments : List String) (deploymentTenants : List (String × String))
    (history : List OutboxEvent) (hids : CollisionFree sha256 (signal :: signalsOf history)) (hok : signal.verdict = .ok)
    (hraise : raiseAlert sha256 gates outboxIdFor ties
      (outboxAfter sha256 gates outboxIdFor deployments deploymentTenants history) signal now dbNow = .ok (result, db')) :
    NoneOpen db'.rows signal.deploymentId signal.ruleId ↔
      Closes sha256 ties (outboxAfter sha256 gates outboxIdFor deployments deploymentTenants history) signal :=
  closes_iff hids (outboxAfter_filed deployments deploymentTenants hids fun _ => List.mem_cons_of_mem _)
    List.mem_cons_self hok hraise

end Closing

/-! ### A recovery under its own reason code, and one under another -/

/-- A signal of an accounting rule. -/
def sampleSignal (previousVerdict : Option Verdict) (verdict : Verdict) (evidenceHash : String) : AlertSignal where
  deploymentId := "sample"
  evaluationId := none
  ruleId := "accounting-rule"
  reasonCode := "ACC_A01_EXCESS"
  previousVerdict
  verdict
  evidenceHash
  evidenceSchemaVersion := "ictt-sentinel/evidence/v1"
  reasonCodes := ["ACC_A01_EXCESS"]
  observedAt := "2026-09-01T00:00:00.000Z"
  expiresAt := "2026-09-01T00:01:00.000Z"
  fresh := true

/-- A breach, its recovery under the same reason code, and the same breach on new evidence. -/
def sampleBreach : AlertSignal := sampleSignal (some .ok) .critical "eeeeeeeeeeeeeeeeeeeeeeeeeeeeeeeeeeeeeeeeeeeeeeeeeeeeeeeeeeeeeeee"
def sampleRecovery : AlertSignal := sampleSignal (some .critical) .ok "ffffffffffffffffffffffffffffffffffffffffffffffffffffffffffffffff"
def sampleNewBreach : AlertSignal := sampleSignal (some .ok) .critical "dddddddddddddddddddddddddddddddddddddddddddddddddddddddddddddddd"

/-- A tick of the replay with the reasons of its chains. -/
def sampleTick (previous : Option Verdict) (verdict : Verdict) (reasons : List String) (observationDigest : String) :
    AlertSignal :=
  tickSignal previous "ictt-sentinel/evidence/v1"
    { deploymentId := "sample"
      evaluationId := none
      reasons
      reasonCodes := reasons
      verdict
      stale := false
      observationDigest
      observedAt := "2026-09-01T00:00:00.000Z"
      expiresAt := "2026-09-01T00:01:00.000Z" }

/-- The first tick misses a block that the provider has pruned; the second finds everything. -/
def samplePruned : AlertSignal := sampleTick none .unknown ["PRUNED_HISTORY"] "aaaaaaaaaaaaaaaaaaaaaaaaaaaaaaaaaaaaaaaaaaaaaaaaaaaaaaaaaaaaaaaa"
def sampleComplete : AlertSignal := sampleTick (some .unknown) .ok [] "bbbbbbbbbbbbbbbbbbbbbbbbbbbbbbbbbbbbbbbbbbbbbbbbbbbbbbbbbbbbbbbb"

/-- The SHA-256 digests of the key texts of the samples. -/
def sampleDigests : List (String × String) :=
  [(incidentText (identityOf sampleBreach), "e7b6ab220b3d117805df3669d9ca26032811d6b8cf9366a1ff88e61a126c4463"),
    (dedupText (identityOf sampleBreach), "1d8963f8a64dd53eba71feace7afb78dd5bb718b1db1f83acc58961cd5b8015d"),
    (dedupText (identityOf sampleRecovery), "5fa523b3e15da289e57a23acae60a55456f3338d45287554ba70ad59b2482881"),
    (dedupText (identityOf sampleNewBreach), "0a94c9b7454ea916e70204cdbd435813ed87e1b1f43cb6083dbf708ae550abc3"),
    (incidentText (identityOf samplePruned), "8e9a66e1b28ad60388e703f10ce75c6c377641ec712f816402e5cd36b832ae6d"),
    (dedupText (identityOf samplePruned), "39b925434a89c9481d4d1069c1b7a789264f77b43b2358a2f47d2de3fd090143"),
    (incidentText (identityOf sampleComplete), "d5d48d88f1518b7ed66462faeaa95ff34c187f3016d66059a1c2ec44c7044d4d"),
    (dedupText (identityOf sampleComplete), "f76a0637ea4cc067b08dc738709e80decc0390331a5bcef24253078bd2d7653d")]

/-- SHA-256 on the texts of the samples. -/
def sampleSha256 (text : String) : String := ((sampleDigests.find? fun d => d.1 = text).map (·.2)).getD ""

/-- One signal a second, from second `n` on. -/
def sampleEvents (n : Int) : List AlertSignal → List OutboxEvent
  | [] => []
  | signal :: signals => .raised signal (1000 * n) (1000 * n) (fun _ => 0) :: sampleEvents (n + 1) signals

/-- The store after the signals. -/
def sampleStore (signals : List AlertSignal) : AlertDb :=
  outboxAfter sampleSha256 (fun _ => .ok ()) id ["sample"] [] (sampleEvents 0 signals)

/-- The last signal, a minute after the first. -/
def sampleRaise (signals : List AlertSignal) (signal : AlertSignal) : Except FoldFailure (RaiseResult × AlertDb) :=
  raiseAlert sampleSha256 (fun _ => .ok ()) id (fun _ => 0) (sampleStore signals) signal 60000 60000

/-- A recovery under the reason code of the breach closes the incident. -/
theorem recovery_closes_sample : ∃ result db', sampleRaise [sampleBreach] sampleRecovery = .ok (result, db') ∧
    NoneOpen db'.rows "sample" "accounting-rule" := by
  have hids : CollisionFree sampleSha256 (sampleRecovery :: signalsOf (sampleEvents 0 [sampleBreach])) :=
    ⟨by decide +kernel, by decide +kernel⟩
  -- the raise commits, the open row carries the reason code, and it stands at a breach under another key
  have hrun : (sampleRaise [sampleBreach] sampleRecovery).toBool = true ∧
      (∀ r ∈ (sampleStore [sampleBreach]).rows, r.deploymentId = sampleRecovery.deploymentId →
        r.ruleId = some sampleRecovery.ruleId → r.isOpen = true → r.reasonCode = some sampleRecovery.reasonCode) ∧
      ∀ newest ∈ (incidentRows (fun _ => 0) (sampleStore [sampleBreach])
          (incidentKey sampleSha256 (identityOf sampleRecovery))).head?,
        (sampleStore [sampleBreach]).alertOutbox.table.has (dedupKey sampleSha256 (identityOf sampleRecovery)) = false ∧
          newest.verdictTo ≠ some .ok := by
    decide +kernel
  obtain ⟨hok, hreason, hbreached⟩ := hrun
  cases hraise : sampleRaise [sampleBreach] sampleRecovery with
  | error failure =>
    rw [hraise] at hok
    cases hok
  | ok a =>
    exact ⟨a.1, a.2, rfl, (recovery_closes_iff ["sample"] [] (sampleEvents 0 [sampleBreach]) hids rfl hraise).2
      ⟨hreason, hbreached, fun _ _ => by decide⟩⟩

/-- Whether a raise committed and left a state of the outbox like this. -/
def leaves (raised : Except FoldFailure (RaiseResult × AlertDb)) (like : RaiseResult → List AlertOutboxRow → Bool) :
    Bool :=
  match raised with
  | .error _ => false
  | .ok (result, db) => like result db.rows

/-- A tick opens an incident for a pruned block; the next tick is OK, is processed, and leaves the row
open: an OK tick has no reasons, and its reason code is `REPLAY_OK`. -/
theorem tick_recovery_leaves_open :
    sampleComplete.verdict = .ok ∧ sampleComplete.ruleId = samplePruned.ruleId ∧
      leaves (sampleRaise [samplePruned] sampleComplete) (fun result rows =>
        result.closedIncidentRows = 0 && rows.any fun r =>
          r.deploymentId = "sample" && r.ruleId = some "replay-completeness" && r.isOpen) = true := by
  decide +kernel

section Reopening

variable {sha256 : String → String} {gates : String → Except String Unit} {outboxIdFor : String → String}
  {ties : AlertOutboxRow → Nat} {db db' : AlertDb} {signal : AlertSignal} {now dbNow : Int} {result : RaiseResult}

/-! ## Reopening -/

/-- The signal opened its incident again: a row of it is open and queued, and the signal paged. -/
def Reopened (rows : List AlertOutboxRow) (incidentKey : String) (result : RaiseResult) : Prop :=
  result.notified = true ∧ ∃ r ∈ rows, r.incidentKey = incidentKey ∧ r.isOpen = true ∧ r.status = .pending

/-- A record that has recovered is only left by a signal that escalates it; and then it still says when
it recovered. -/
theorem foldSignal_of_recovered {b : AlertRecord} {o : Observation} (hstate : b.state = .recovered) :
    (foldSignal sha256 (some b) o).state = .recovered ∨
      ((foldSignal sha256 (some b) o).state = .escalated ∧
        (foldSignal sha256 (some b) o).recoveredAt = b.recoveredAt) := by
  cases hr : isRecovery (some b.currentVerdict) o.identity.toVerdict with
  | true => exact Or.inl (foldSignal_recovery sha256 hr).1
  | false =>
    cases he : isEscalation (some b.currentVerdict) o.identity.toVerdict with
    | true =>
      refine Or.inr ⟨(foldSignal_escalation sha256 he).1, ?_⟩
      simp [foldSignal, AlertRecord.recover, hr, AlertRecord.observe]
    | false =>
      rw [(foldSignal_repeat sha256 hr he).1, hstate]
      exact Or.inl rfl

/-- A recovered row that a signal is folded into stays closed, and nobody is paged: an escalated row
that says when it recovered would fail the check of the table. -/
theorem raise_of_closed (hraise : raiseAlert sha256 gates outboxIdFor ties db signal now dbNow = .ok (result, db'))
    {existing : AlertOutboxRow} (hexisting : (contextOf sha256 ties db signal).existing = some existing)
    (hclosed : existing.isOpen = false) :
    (afterOf sha256 (contextOf sha256 ties db signal) signal now).state = .recovered ∧ result.notified = false := by
  have hbefore : beforeOf (contextOf sha256 ties db signal) (identityOf signal) =
      some (toRecord existing (identityOf signal)) := by
    unfold beforeOf
    rw [hexisting]
  have hstate := isOpen_eq_false.1 hclosed
  obtain ⟨hmem, hkey⟩ := Keyed.lookup_eq_some.1 (contextOf_existing.symm.trans hexisting)
  obtain ⟨-, ⟨hnone, -⟩ | ⟨-, -, hnotified, payload, hrows⟩⟩ := raiseAlert_ok hraise
  · cases hbefore.symm.trans hnone
  -- the row itself is overwritten: closing its incident does not touch it
  have hstays : existing ∈ closedRows sha256 db (beforeOf (contextOf sha256 ties db signal) (identityOf signal)) signal
      dbNow := by
    unfold closedRows
    split
    · exact List.mem_map.2 ⟨existing, hmem, closeRow_of_closed (by simp [hclosed])⟩
    · exact hmem
  have hstored : existing.overwrite (outboxRow sha256 outboxIdFor (some existing) signal now
      (afterOf sha256 (contextOf sha256 ties db signal) signal now) result.notified payload) ∈ db'.rows := by
    rw [hrows, hexisting]
    exact List.mem_map.2 ⟨existing, hstays, if_pos hkey⟩
  have hfold : (afterOf sha256 (contextOf sha256 ties db signal) signal now).state = .recovered ∨
      ((afterOf sha256 (contextOf sha256 ties db signal) signal now).state = .escalated ∧
        (afterOf sha256 (contextOf sha256 ties db signal) signal now).recoveredAt = existing.recoveredAt) := by
    unfold afterOf
    rw [hbefore]
    exact foldSignal_of_recovered hstate
  have hafter : (afterOf sha256 (contextOf sha256 ties db signal) signal now).state = .recovered := by
    obtain hafter | ⟨-, hkept⟩ := hfold
    · exact hafter
    · apply (db'.recovered_iff hstored).2
      show (afterOf sha256 (contextOf sha256 ties db signal) signal now).recoveredAt.isSome = true
      rw [hkept]
      exact (db.recovered_iff hmem).1 hstate
  refine ⟨hafter, ?_⟩
  have hrecord : (toRecord existing (identityOf signal)).state = .recovered := hstate
  rw [hnotified, hbefore]
  simp [shouldNotify, hafter, hrecord]

/-- A recovered row that a breach is folded into does not reopen its incident. -/
theorem not_reopened_of_existing (hbreach : signal.verdict ≠ .ok)
    (hrecovered : ∀ r ∈ db.rows, r.incidentKey = incidentKey sha256 (identityOf signal) → r.isOpen = false)
    (hraise : raiseAlert sha256 gates outboxIdFor ties db signal now dbNow = .ok (result, db'))
    {existing : AlertOutboxRow} (hexisting : (contextOf sha256 ties db signal).existing = some existing) :
    ¬ Reopened db'.rows (incidentKey sha256 (identityOf signal)) result := by
  have hbefore : beforeOf (contextOf sha256 ties db signal) (identityOf signal) =
      some (toRecord existing (identityOf signal)) := by
    unfold beforeOf
    rw [hexisting]
  have hnotRecovers : recovers (beforeOf (contextOf sha256 ties db signal) (identityOf signal)) signal = false := by
    rw [hbefore, ← Bool.not_eq_true]
    intro h
    exact hbreach (isRecovery_some.1 h).2
  rintro ⟨hpages, r, hr, hkey, hopen, -⟩
  obtain ⟨-, ⟨hnone, -⟩ | ⟨-, -, -, payload, hrows⟩⟩ := raiseAlert_ok hraise
  · cases hbefore.symm.trans hnone
  unfold closedRows at hrows
  rw [hnotRecovers] at hrows
  rw [hrows] at hr
  rcases mem_written hr with ⟨hnone, -⟩ | hold | ⟨old, hold, hdedup, rfl⟩
  · cases hexisting.symm.trans hnone
  · rw [hrecovered r hold hkey] at hopen
    cases hopen
  · -- the overwritten row is the one under the dedup key
    obtain ⟨hmem, hdedup'⟩ := Keyed.lookup_eq_some.1 (contextOf_existing.symm.trans hexisting)
    obtain rfl : old = existing := db.alertOutbox.table.eq_of_key hold hmem (hdedup.trans hdedup'.symm)
    have hquiet := (raise_of_closed hraise hexisting (hrecovered old hmem hkey)).2
    exact Bool.false_ne_true (hquiet.symm.trans hpages)

/-- A breach that finds nothing to fold into opens its incident exactly when it is an escalation. -/
theorem reopened_iff_of_nothing
    (hraise : raiseAlert sha256 gates outboxIdFor ties db signal now dbNow = .ok (result, db'))
    (hexisting : (contextOf sha256 ties db signal).existing = none)
    (hnewest : (contextOf sha256 ties db signal).openIncident = none) :
    Reopened db'.rows (incidentKey sha256 (identityOf signal)) result ↔ signal.escalates = true := by
  have hbefore : beforeOf (contextOf sha256 ties db signal) (identityOf signal) = none := by
    unfold beforeOf
    rw [hexisting, hnewest]
    rfl
  obtain ⟨-, ⟨-, hsilent, -, hquiet⟩ | ⟨hwrites, -, hnotified, payload, hrows⟩⟩ := raiseAlert_ok hraise
  · constructor
    · exact fun h => absurd (hquiet.symm.trans h.1) Bool.false_ne_true
    · exact fun h => absurd (hsilent.symm.trans h) Bool.false_ne_true
  -- a first incident always notifies
  · have hpages : result.notified = true := by
      rw [hnotified]
      unfold afterOf
      rw [hbefore]
      rfl
    have hescalates : signal.escalates = true := by
      by_contra h
      exact hwrites ⟨hbefore, by simpa using h⟩
    refine iff_of_true ⟨hpages, outboxRow sha256 outboxIdFor none signal now
      (afterOf sha256 (contextOf sha256 ties db signal) signal now) true payload, ?_, rfl, ?_, rfl⟩ hescalates
    · rw [hrows, hexisting, hpages]
      exact List.mem_append_right _ List.mem_cons_self
    · unfold afterOf
      rw [hbefore]
      rfl

/-- Over every history of the outbox: a breach signal of a recovered incident opens it again and pages
exactly when no row is stored under its dedup key and it is worse than the verdict before it. -/
theorem breach_reopens_iff (deployments : List String) (deploymentTenants : List (String × String))
    (history : List OutboxEvent)
    (hrecovered : IncidentRecovered (outboxAfter sha256 gates outboxIdFor deployments deploymentTenants history).rows
      (incidentKey sha256 (identityOf signal)))
    (hbreach : signal.verdict ≠ .ok)
    (hraise : raiseAlert sha256 gates outboxIdFor ties
      (outboxAfter sha256 gates outboxIdFor deployments deploymentTenants history) signal now dbNow = .ok (result, db')) :
    Reopened db'.rows (incidentKey sha256 (identityOf signal)) result ↔
      (outboxAfter sha256 gates outboxIdFor deployments deploymentTenants history).alertOutbox.table.has
        (dedupKey sha256 (identityOf signal)) = false ∧ signal.escalates = true := by
  generalize outboxAfter sha256 gates outboxIdFor deployments deploymentTenants history = db at *
  cases hexisting : (contextOf sha256 ties db signal).existing with
  | some existing =>
    obtain ⟨hmem, hkey⟩ := Keyed.lookup_eq_some.1 (contextOf_existing.symm.trans hexisting)
    have hstored := Keyed.has_iff.2 ⟨existing, hmem, hkey⟩
    refine iff_of_false (not_reopened_of_existing hbreach hrecovered.2 hraise hexisting) fun h => ?_
    rw [hstored] at h
    cases h.1
  | none =>
    have hfree : db.alertOutbox.table.has (dedupKey sha256 (identityOf signal)) = false :=
      Keyed.has_eq_false.2 (Keyed.lookup_eq_none.1 (contextOf_existing.symm.trans hexisting))
    have hnewest : (contextOf sha256 ties db signal).openIncident = none :=
      incidentContext_openIncident_eq_none.2 hrecovered.2
    rw [reopened_iff_of_nothing hraise hexisting hnewest, hfree]
    exact (and_iff_right rfl).symm

end Reopening

/-- New evidence of the breach opens the incident again. -/
theorem breach_reopens_sample : ∃ result db',
    sampleRaise [sampleBreach, sampleRecovery] sampleNewBreach = .ok (result, db') ∧
      Reopened db'.rows (incidentKey sampleSha256 (identityOf sampleBreach)) result := by
  have hrun : (sampleRaise [sampleBreach, sampleRecovery] sampleNewBreach).toBool = true ∧
      ((∃ r ∈ (sampleStore [sampleBreach, sampleRecovery]).rows,
          r.incidentKey = incidentKey sampleSha256 (identityOf sampleNewBreach)) ∧
        ∀ r ∈ (sampleStore [sampleBreach, sampleRecovery]).rows,
          r.incidentKey = incidentKey sampleSha256 (identityOf sampleNewBreach) → r.isOpen = false) ∧
      (sampleStore [sampleBreach, sampleRecovery]).alertOutbox.table.has
        (dedupKey sampleSha256 (identityOf sampleNewBreach)) = false := by
    decide +kernel
  obtain ⟨hok, hrecovered, hfree⟩ := hrun
  unfold sampleStore at hrecovered hfree
  cases hraise : sampleRaise [sampleBreach, sampleRecovery] sampleNewBreach with
  | error failure =>
    rw [hraise] at hok
    cases hok
  | ok a =>
    exact ⟨a.1, a.2, rfl, (breach_reopens_iff ["sample"] [] (sampleEvents 0 [sampleBreach, sampleRecovery]) hrecovered
      (by decide) hraise).2 ⟨hfree, by decide⟩⟩

/-- The same breach on the same evidence, after its recovery: it is processed, nothing is open, and
nobody is paged. -/
theorem same_breach_is_silent :
    (sampleStore [sampleBreach, sampleRecovery]).rows.any (fun r =>
        decide (r.incidentKey = incidentKey sampleSha256 (identityOf sampleBreach))) = true ∧
      (sampleStore [sampleBreach, sampleRecovery]).rows.all (fun r => !r.isOpen) = true ∧
      sampleBreach.verdict ≠ .ok ∧
      leaves (sampleRaise [sampleBreach, sampleRecovery] sampleBreach) (fun result rows =>
        !result.notified && rows.all fun r => !r.isOpen) = true := by
  decide +kernel

end IcttSentinel.Alerts
