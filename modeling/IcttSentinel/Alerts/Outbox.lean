/-
The alert outbox: the table of packages/storage-postgres/migrations (0002, 0006, 0008) and the
transactions of packages/storage-postgres/src/alert-store.ts over it. A row is one notification,
under its dedup key; the rows of one incident share an incident key.
-/
import IcttSentinel.Alerts.Lifecycle
import IcttSentinel.Lib.Sorting
import IcttSentinel.Storage.Schema

namespace IcttSentinel.Alerts

open IcttSentinel.Domain IcttSentinel.Lib IcttSentinel.Storage

/-! ## The table -/

inductive OutboxStatus where
  | pending
  | sent
  | failed
  | abandoned
  | cancelled
  deriving DecidableEq, Repr

/-- `AlertOutboxRow`. The text columns with a check of their values hold the values. -/
structure AlertOutboxRow where
  outboxId : String
  deploymentId : String
  incidentKey : String
  evaluationId : Option String
  dedupKey : String
  payload : Json
  status : OutboxStatus
  attempts : Int
  ruleId : Option String
  reasonCode : Option String
  verdictFrom : Option (Option Verdict)
  verdictTo : Option Verdict
  evidenceDigest : Option String
  lifecycleState : AlertState
  occurrences : Nat
  firstSeenAt : Int
  lastSeenAt : Int
  acknowledgedBy : Option String
  acknowledgedAt : Option Int
  recoveredAt : Option Int
  nextAttemptAt : Int

/-- The checks of the table that a row can fail. -/
def AlertOutboxRow.check (r : AlertOutboxRow) : Except Violation Unit := do
  ensure (fitsInteger r.attempts && fitsInteger r.occurrences) .numericValueOutOfRange
  ensure (0 ≤ r.attempts) (.checkViolation "alert_outbox_attempts_ck")
  ensure (1 ≤ r.occurrences) (.checkViolation "alert_outbox_occurrences_ck")
  ensure (r.evidenceDigest.all (matchesHex "" 64)) (.checkViolation "alert_outbox_evidence_ck")
  ensure (matchesHex "" 64 r.incidentKey) (.checkViolation "alert_outbox_incident_ck")
  ensure (r.acknowledgedBy.isNone = r.acknowledgedAt.isNone) (.checkViolation "alert_outbox_ack_ck")
  ensure (decide (r.lifecycleState = .recovered) = r.recoveredAt.isSome) (.checkViolation "alert_outbox_recovered_ck")

theorem AlertOutboxRow.check_eq_ok {r : AlertOutboxRow} :
    r.check = .ok () ↔ (fitsInteger r.attempts && fitsInteger r.occurrences) = true ∧ 0 ≤ r.attempts ∧
      1 ≤ r.occurrences ∧ r.evidenceDigest.all (matchesHex "" 64) = true ∧ matchesHex "" 64 r.incidentKey = true ∧
      r.acknowledgedBy.isNone = r.acknowledgedAt.isNone ∧
      decide (r.lifecycleState = .recovered) = r.recoveredAt.isSome := by
  unfold AlertOutboxRow.check
  simp only [bind_eq_ok, ensure_eq_ok, exists_and_left, decide_eq_true_eq, exists_const]

/-- A row that has not recovered: what `lifecycle_state <> 'recovered'` selects. -/
def AlertOutboxRow.isOpen (r : AlertOutboxRow) : Bool := r.lifecycleState ≠ .recovered

/-- `alert_outbox`: unique dedup keys, unique ids, and only rows that pass the checks. -/
structure AlertOutbox where
  table : Keyed AlertOutboxRow.dedupKey
  ids : (table.rows.map AlertOutboxRow.outboxId).Nodup
  checks : ∀ r ∈ table.rows, r.check = .ok ()

def AlertOutbox.empty : AlertOutbox where
  table := ∅
  ids := List.nodup_nil
  checks := by simp

inductive DeliveryOutcome where
  | delivered
  | rejected
  | error
  deriving DecidableEq, Repr

structure DeliveryRecord where
  deliveryId : String
  outboxId : String
  target : String
  outcome : DeliveryOutcome
  detail : Json

/-- The tables an alert touches. Deployments and tenants are registered by the operator. -/
structure AlertDb where
  deployments : List String
  evaluations : List String
  deploymentTenants : List (String × String)
  alertOutbox : AlertOutbox
  alertDeliveries : Keyed DeliveryRecord.deliveryId

def AlertDb.registered (deployments : List String) (deploymentTenants : List (String × String)) : AlertDb where
  deployments
  evaluations := []
  deploymentTenants
  alertOutbox := .empty
  alertDeliveries := ∅

def AlertDb.rows (db : AlertDb) : List AlertOutboxRow := db.alertOutbox.table.rows

/-! ## Statements -/

theorem forM_eq_ok {ε α : Type} {check : α → Except ε Unit} {l : List α} :
    forM l check = .ok () ↔ ∀ a ∈ l, check a = .ok () := by
  induction l with
  | nil => simp [pure, Except.pure]
  | cons a l ih =>
    rw [List.forM_cons, bind_eq_ok, List.forall_mem_cons]
    constructor
    · rintro ⟨⟨⟩, ha, hl⟩
      exact ⟨ha, ih.1 hl⟩
    · rintro ⟨ha, hl⟩
      exact ⟨(), ha, ih.2 hl⟩

namespace AlertOutbox

/-- An `update`: every row the statement rewrites has to pass the checks again. -/
def update (o : AlertOutbox) (f : AlertOutboxRow → AlertOutboxRow) (hkey : ∀ r, (f r).dedupKey = r.dedupKey)
    (hid : ∀ r, (f r).outboxId = r.outboxId) : Except Violation AlertOutbox :=
  match h : forM (o.table.rows.map f) AlertOutboxRow.check with
  | .error violation => .error violation
  | .ok () => .ok {
      table := o.table.mapRows f hkey
      ids := by
        have hids : (o.table.rows.map f).map AlertOutboxRow.outboxId = o.table.rows.map AlertOutboxRow.outboxId := by
          rw [List.map_map]
          exact List.map_congr_left fun r _ => hid r
        exact hids ▸ o.ids
      checks := forM_eq_ok.1 h }

theorem update_ok {o o' : AlertOutbox} {f : AlertOutboxRow → AlertOutboxRow} {hkey hid}
    (h : o.update f hkey hid = .ok o') : o'.table.rows = o.table.rows.map f := by
  unfold update at h
  split at h
  · cases h
  · rw [← Except.ok.inj h]
    rfl

theorem update_commits {o : AlertOutbox} {f : AlertOutboxRow → AlertOutboxRow} {hkey hid}
    (h : ∀ r ∈ o.table.rows, (f r).check = .ok ()) : ∃ o', o.update f hkey hid = .ok o' := by
  unfold update
  split
  · rename_i violation hviolation
    have hok : forM (o.table.rows.map f) AlertOutboxRow.check = .ok () := by
      rw [forM_eq_ok, List.forall_mem_map]
      exact h
    rw [hok] at hviolation
    cases hviolation
  · exact ⟨_, rfl⟩

/-- An `insert` of one row. -/
def insert (o : AlertOutbox) (r : AlertOutboxRow) : Except Violation AlertOutbox :=
  match hcheck : r.check with
  | .error violation => .error violation
  | .ok () =>
    if hid : r.outboxId ∈ o.table.rows.map AlertOutboxRow.outboxId then .error (.uniqueViolation "alert_outbox_pkey")
    else if hkey : o.table.has r.dedupKey then .error (.uniqueViolation "alert_outbox_dedup_key_key")
    else .ok {
      table := o.table.insertIfAbsent r
      ids := by
        rw [Keyed.rows_insertIfAbsent, if_neg hkey, List.map_append, List.map_singleton]
        refine List.Nodup.append o.ids (List.nodup_singleton _) ?_
        simpa [List.disjoint_singleton] using hid
      checks := by
        intro x hx
        rcases Keyed.mem_insertIfAbsent.1 hx with hx | ⟨rfl, -⟩
        · exact o.checks x hx
        · exact hcheck }

theorem insert_ok {o o' : AlertOutbox} {r : AlertOutboxRow} (h : o.insert r = .ok o') :
    o'.table.rows = o.table.rows ++ [r] ∧ r.check = .ok () := by
  unfold insert at h
  split at h
  · cases h
  · rename_i hcheck
    refine ⟨?_, hcheck⟩
    split_ifs at h with hid hkey
    rw [← Except.ok.inj h]
    change (o.table.insertIfAbsent r).rows = _
    rw [Keyed.rows_insertIfAbsent, if_neg hkey]

end AlertOutbox

/-! ## Folding one signal -/

/-- `IncidentContext`: what the fold decides on. -/
structure IncidentContext where
  existing : Option AlertOutboxRow
  openIncident : Option AlertOutboxRow

/-- `FoldDecision`: the row to write, if any, and whether the incident is closed. -/
structure FoldDecision where
  row : Option AlertOutboxRow
  closeIncident : Bool

structure FoldResult where
  row : Option AlertOutboxRow
  created : Bool
  closed : Nat

/-- Why a fold is rolled back: the database refuses a statement, or the decision throws. -/
inductive FoldFailure where
  | violation (violation : Violation)
  | thrown (message : String)
  deriving DecidableEq, Repr

def stored {α : Type} : Except Violation α → Except FoldFailure α
  | .ok a => .ok a
  | .error violation => .error (.violation violation)

theorem stored_eq_ok {α : Type} {x : Except Violation α} {a : α} : stored x = .ok a ↔ x = .ok a := by
  cases x <;> simp [stored]

/-- The open rows of an incident, `order by last_seen_at desc`. The query leaves the order of rows
seen at the same time to the database, here to `ties`. -/
def incidentRows (ties : AlertOutboxRow → Nat) (db : AlertDb) (incidentKey : String) : List AlertOutboxRow :=
  sortOn (fun r => toLex (-r.lastSeenAt, ties r)) (db.rows.filter fun r => r.incidentKey = incidentKey && r.isOpen)

/-- What the fold is handed. -/
def incidentContext (ties : AlertOutboxRow → Nat) (db : AlertDb) (incidentKey dedupKey : String) : IncidentContext where
  existing := ((incidentRows ties db incidentKey).find? (·.dedupKey = dedupKey)).or
    (db.alertOutbox.table.lookup dedupKey)
  openIncident := (incidentRows ties db incidentKey).head?

/-- The update that closes an open row of the incident; a notification still pending is cancelled. -/
def closeRow (incidentKey : String) (dbNow : Int) (r : AlertOutboxRow) : AlertOutboxRow :=
  if r.incidentKey = incidentKey && r.isOpen then
    { r with
      lifecycleState := .recovered
      recoveredAt := some (r.recoveredAt.getD dbNow)
      status := if r.status = .pending then .cancelled else r.status }
  else r

@[simp] theorem closeRow_dedupKey (k : String) (t : Int) (r : AlertOutboxRow) :
    (closeRow k t r).dedupKey = r.dedupKey := by
  unfold closeRow
  split <;> rfl

@[simp] theorem closeRow_outboxId (k : String) (t : Int) (r : AlertOutboxRow) :
    (closeRow k t r).outboxId = r.outboxId := by
  unfold closeRow
  split <;> rfl

/-- The columns that the fold's update writes over a row; its id, its keys, its deployment, its
evaluation and its first sighting stay. -/
def AlertOutboxRow.overwrite (r next : AlertOutboxRow) : AlertOutboxRow :=
  { next with
    outboxId := r.outboxId
    deploymentId := r.deploymentId
    incidentKey := r.incidentKey
    evaluationId := r.evaluationId
    dedupKey := r.dedupKey
    firstSeenAt := r.firstSeenAt }

/-- `update alert_outbox set ... where dedup_key = next.dedupKey`. -/
def overwriteRow (next r : AlertOutboxRow) : AlertOutboxRow :=
  if r.dedupKey = next.dedupKey then r.overwrite next else r

@[simp] theorem overwriteRow_dedupKey (next r : AlertOutboxRow) : (overwriteRow next r).dedupKey = r.dedupKey := by
  unfold overwriteRow
  split <;> rfl

@[simp] theorem overwriteRow_outboxId (next r : AlertOutboxRow) : (overwriteRow next r).outboxId = r.outboxId := by
  unfold overwriteRow
  split <;> rfl

/-- Close the open rows of the incident, when the decision says so and there are any. -/
def closeIncident (db : AlertDb) (incidentKey : String) (dbNow : Int) (closes : Bool) :
    Except Violation (Nat × AlertDb) := do
  let closed := (db.rows.filter fun r => r.incidentKey = incidentKey && r.isOpen).length
  if closes && 0 < closed then
    let alertOutbox ← db.alertOutbox.update (closeRow incidentKey dbNow) (closeRow_dedupKey _ _) (closeRow_outboxId _ _)
    return (closed, { db with alertOutbox })
  else return (0, db)

/-- Write the row of the decision: an insert when the dedup key is new, an update otherwise. -/
def writeRow (db : AlertDb) (existing : Option AlertOutboxRow) (next : AlertOutboxRow) : Except Violation AlertDb := do
  if existing.isNone then
    let alertOutbox ← db.alertOutbox.insert next
    ensure (db.deployments.contains next.deploymentId) (.foreignKeyViolation "alert_outbox_deployment_id_fkey")
    ensure (next.evaluationId.all db.evaluations.contains) (.foreignKeyViolation "alert_outbox_evaluation_id_fkey")
    return { db with alertOutbox }
  else
    let alertOutbox ← db.alertOutbox.update (overwriteRow next) (overwriteRow_dedupKey next) (overwriteRow_outboxId next)
    return { db with alertOutbox }

/-- `foldAlert`: one locked transaction. Beside its decision the fold hands over what it left in
the caller's variables. -/
def foldAlert {α : Type} (ties : AlertOutboxRow → Nat) (db : AlertDb) (incidentKey dedupKey : String) (dbNow : Int)
    (fold : IncidentContext → Except String (FoldDecision × α)) : Except FoldFailure (FoldResult × α × AlertDb) :=
  let context := incidentContext ties db incidentKey dedupKey
  match fold context with
  | .error message => .error (.thrown message)
  | .ok (decision, left) => stored do
    let (closed, db) ← closeIncident db incidentKey dbNow decision.closeIncident
    match decision.row with
    | none => return ({ row := none, created := false, closed }, left, db)
    | some next =>
      let db ← writeRow db context.existing next
      return ({ row := some next, created := context.existing.isNone, closed }, left, db)

/-! ## What a fold reads and leaves -/

section Fold

variable {ties : AlertOutboxRow → Nat} {db : AlertDb} {incidentKey dedupKey : String} {dbNow : Int}

theorem mem_incidentRows {r : AlertOutboxRow} :
    r ∈ incidentRows ties db incidentKey ↔ r ∈ db.rows ∧ r.incidentKey = incidentKey ∧ r.isOpen = true := by
  simp [incidentRows]

/-- The row under the dedup key, wherever it is found first. -/
theorem incidentContext_existing :
    (incidentContext ties db incidentKey dedupKey).existing = db.alertOutbox.table.lookup dedupKey := by
  unfold incidentContext
  cases hfind : (incidentRows ties db incidentKey).find? (·.dedupKey = dedupKey) with
  | none => rfl
  | some r =>
    have hr := (mem_incidentRows.1 (List.mem_of_find?_eq_some hfind)).1
    have hkey : r.dedupKey = dedupKey := by simpa using List.find?_some hfind
    exact (Keyed.lookup_eq_some.2 ⟨hr, hkey⟩).symm

theorem incidentContext_openIncident_eq_none :
    (incidentContext ties db incidentKey dedupKey).openIncident = none ↔
      ∀ r ∈ db.rows, r.incidentKey = incidentKey → r.isOpen = false := by
  unfold incidentContext
  rw [List.head?_eq_none_iff, List.eq_nil_iff_forall_not_mem]
  simp only [mem_incidentRows, not_and, Bool.not_eq_true]

theorem closeRow_of_closed {r : AlertOutboxRow} (h : (r.incidentKey = incidentKey && r.isOpen) = false) :
    closeRow incidentKey dbNow r = r := by
  simp [closeRow, h]

theorem closeIncident_ok {db' : AlertDb} {closes : Bool} {n : Nat}
    (h : closeIncident db incidentKey dbNow closes = .ok (n, db')) :
    db'.rows = (if closes then db.rows.map (closeRow incidentKey dbNow) else db.rows) ∧
      ∃ alertOutbox, db' = { db with alertOutbox } := by
  unfold closeIncident at h
  simp only at h
  split at h
  · rename_i hcloses
    rw [Bool.and_eq_true] at hcloses
    obtain ⟨alertOutbox, hupdate, hrest⟩ := bind_eq_ok.1 h
    obtain ⟨-, rfl⟩ := Prod.mk.inj (Except.ok.inj hrest)
    rw [if_pos hcloses.1]
    exact ⟨AlertOutbox.update_ok hupdate, alertOutbox, rfl⟩
  · rename_i hcloses
    obtain ⟨-, rfl⟩ := Prod.mk.inj (Except.ok.inj h)
    refine ⟨?_, db.alertOutbox, rfl⟩
    split
    · -- nothing of the incident is open, so the update would touch no row
      rename_i hclose
      have hnone : (db.rows.filter fun r => r.incidentKey = incidentKey && r.isOpen) = [] := by
        simpa [hclose] using hcloses
      have hid : db.rows.map (closeRow incidentKey dbNow) = db.rows.map id :=
        List.map_congr_left fun r hr => closeRow_of_closed (by simpa using List.filter_eq_nil_iff.1 hnone r hr)
      rw [hid, List.map_id]
    · rfl

/-- The row a fold writes is appended under a new dedup key, or written over the row under it. -/
def written (rows : List AlertOutboxRow) (existing : Option AlertOutboxRow) (next : AlertOutboxRow) :
    List AlertOutboxRow :=
  if existing.isNone then rows ++ [next] else rows.map (overwriteRow next)

/-- A row of the written list is the new row, an old one under another key, or an old one overwritten. -/
theorem mem_written {rows : List AlertOutboxRow} {existing : Option AlertOutboxRow} {next r : AlertOutboxRow}
    (h : r ∈ written rows existing next) :
    (existing = none ∧ r = next) ∨ r ∈ rows ∨ ∃ old ∈ rows, old.dedupKey = next.dedupKey ∧ r = old.overwrite next := by
  unfold written at h
  split at h
  · rename_i hnew
    rcases List.mem_append.1 h with h | h
    · exact Or.inr (Or.inl h)
    · exact Or.inl ⟨by simpa using hnew, List.mem_singleton.1 h⟩
  · obtain ⟨old, hold, rfl⟩ := List.mem_map.1 h
    unfold overwriteRow
    split
    · rename_i hkey
      exact Or.inr (Or.inr ⟨old, hold, hkey, rfl⟩)
    · exact Or.inr (Or.inl hold)

theorem writeRow_ok {db' : AlertDb} {existing : Option AlertOutboxRow} {next : AlertOutboxRow}
    (h : writeRow db existing next = .ok db') :
    db'.rows = written db.rows existing next ∧ ∃ alertOutbox, db' = { db with alertOutbox } := by
  unfold writeRow at h
  unfold written
  split at h
  · rename_i hnew
    obtain ⟨alertOutbox, hinsert, hrest⟩ := bind_eq_ok.1 h
    simp only [bind_eq_ok] at hrest
    obtain ⟨_, -, _, -, hrest⟩ := hrest
    rw [← Except.ok.inj hrest, if_pos hnew]
    exact ⟨(AlertOutbox.insert_ok hinsert).1, alertOutbox, rfl⟩
  · rename_i hold
    obtain ⟨alertOutbox, hupdate, hrest⟩ := bind_eq_ok.1 h
    rw [← Except.ok.inj hrest, if_neg hold]
    exact ⟨AlertOutbox.update_ok hupdate, alertOutbox, rfl⟩

/-- What a committed fold decided, and the rows it left: the incident closed or not, and the row of
the decision written. -/
theorem foldAlert_ok {α : Type} {fold : IncidentContext → Except String (FoldDecision × α)} {result : FoldResult}
    {left : α} {db' : AlertDb} (h : foldAlert ties db incidentKey dedupKey dbNow fold = .ok (result, left, db')) :
    ∃ decision, fold (incidentContext ties db incidentKey dedupKey) = .ok (decision, left) ∧
      result.row = decision.row ∧
      (∃ alertOutbox, db' = { db with alertOutbox }) ∧
      let rows := if decision.closeIncident then db.rows.map (closeRow incidentKey dbNow) else db.rows
      db'.rows = match decision.row with
        | none => rows
        | some next => written rows (db.alertOutbox.table.lookup dedupKey) next := by
  unfold foldAlert at h
  simp only at h
  split at h
  · cases h
  · rename_i decision left' hfold
    rw [stored_eq_ok] at h
    obtain ⟨⟨closed, closedDb⟩, hclose, hrest⟩ := bind_eq_ok.1 h
    obtain ⟨hrows, alertOutbox, hdb⟩ := closeIncident_ok hclose
    cases hrow : decision.row with
    | none =>
      simp only [hrow] at hrest
      obtain ⟨rfl, hanswer⟩ := Prod.mk.inj (Except.ok.inj hrest)
      obtain ⟨rfl, rfl⟩ := Prod.mk.inj hanswer
      exact ⟨decision, hfold, hrow.symm, ⟨alertOutbox, hdb⟩, by simpa only [hrow] using hrows⟩
    | some next =>
      simp only [hrow] at hrest
      obtain ⟨writtenDb, hwrite, hend⟩ := bind_eq_ok.1 hrest
      obtain ⟨rfl, hanswer⟩ := Prod.mk.inj (Except.ok.inj hend)
      obtain ⟨rfl, rfl⟩ := Prod.mk.inj hanswer
      obtain ⟨hwritten, alertOutbox', hdb'⟩ := writeRow_ok hwrite
      rw [incidentContext_existing, hrows] at hwritten
      refine ⟨decision, hfold, hrow.symm, ⟨alertOutbox', by rw [hdb', hdb]⟩, ?_⟩
      simpa only [hrow] using hwritten

end Fold

/-! ## Acknowledging -/

/-- The update of an acknowledgement. -/
def acknowledgeRow (selects : AlertOutboxRow → Bool) (by_ : String) (at_ : Int) (r : AlertOutboxRow) : AlertOutboxRow :=
  if selects r && r.isOpen then
    { r with lifecycleState := .acknowledged, acknowledgedBy := some by_, acknowledgedAt := some at_ }
  else r

@[simp] theorem acknowledgeRow_dedupKey (selects : AlertOutboxRow → Bool) (by_ : String) (at_ : Int)
    (r : AlertOutboxRow) : (acknowledgeRow selects by_ at_ r).dedupKey = r.dedupKey := by
  unfold acknowledgeRow
  split <;> rfl

@[simp] theorem acknowledgeRow_outboxId (selects : AlertOutboxRow → Bool) (by_ : String) (at_ : Int)
    (r : AlertOutboxRow) : (acknowledgeRow selects by_ at_ r).outboxId = r.outboxId := by
  unfold acknowledgeRow
  split <;> rfl

def acknowledgeRows (db : AlertDb) (selects : AlertOutboxRow → Bool) (by_ : String) (at_ : Int) :
    Except Violation (Nat × AlertDb) := do
  let alertOutbox ← db.alertOutbox.update (acknowledgeRow selects by_ at_) (acknowledgeRow_dedupKey _ _ _)
    (acknowledgeRow_outboxId _ _ _)
  return ((db.rows.filter fun r => selects r && r.isOpen).length, { db with alertOutbox })

def acknowledgeAlert (db : AlertDb) (incidentKey : String) (by_ : String) (at_ : Int) :
    Except Violation (Nat × AlertDb) :=
  acknowledgeRows db (fun r => r.incidentKey = incidentKey) by_ at_

/-- `acknowledgeTenantAlert`: only the rows of the tenant's deployments. -/
def acknowledgeTenantAlert (db : AlertDb) (tenantId incidentKey : String) (by_ : String) (at_ : Int) :
    Except Violation (Nat × AlertDb) :=
  acknowledgeRows db (fun r => db.deploymentTenants.contains (r.deploymentId, tenantId) && r.incidentKey = incidentKey)
    by_ at_

/-! ## Delivering -/

/-- The update that leases a row. -/
def leaseRow (leased : List String) (until_ : Int) (r : AlertOutboxRow) : AlertOutboxRow :=
  if r.outboxId ∈ leased then { r with attempts := r.attempts + 1, nextAttemptAt := until_ } else r

/-- `leaseDueAlerts`: the pending rows that are due, in the order they fell due and were created,
less those another drainer has locked. -/
def leaseDueAlerts (createdAt : String → Int) (locked : List String) (db : AlertDb) (now : Int) (limit : Nat)
    (leaseMs : Int) : Except Violation (List AlertOutboxRow × AlertDb) := do
  let due := db.rows.filter fun r => decide (r.status = .pending) && decide (r.nextAttemptAt ≤ now) && !locked.contains r.outboxId
  let rows := (sortOn (fun r => toLex (r.nextAttemptAt, createdAt r.outboxId)) due).take limit
  let leased := rows.map (·.outboxId)
  let alertOutbox ← db.alertOutbox.update (leaseRow leased (now + leaseMs))
    (fun r => by unfold leaseRow; split <;> rfl) (fun r => by unfold leaseRow; split <;> rfl)
  return (rows.map fun r => { r with attempts := r.attempts + 1 }, { db with alertOutbox })

/-- The update that settles a row. -/
def settleRow (outboxId : String) (status : OutboxStatus) (attempts nextAttemptAt : Int) (r : AlertOutboxRow) :
    AlertOutboxRow :=
  if r.outboxId = outboxId then { r with status, attempts, nextAttemptAt } else r

/-- `settleAlert`: the deliveries are recorded once each, and the row moves on. -/
def settleAlert (db : AlertDb) (outboxId : String) (deliveries : List DeliveryRecord) (status : OutboxStatus)
    (attempts nextAttemptAt : Int) : Except Violation AlertDb := do
  ensure (deliveries.all fun d => db.alertDeliveries.has d.deliveryId || db.rows.any (·.outboxId = d.outboxId))
    (.foreignKeyViolation "alert_deliveries_outbox_id_fkey")
  let alertOutbox ← db.alertOutbox.update (settleRow outboxId status attempts nextAttemptAt)
    (fun r => by unfold settleRow; split <;> rfl) (fun r => by unfold settleRow; split <;> rfl)
  return { db with alertOutbox, alertDeliveries := db.alertDeliveries.insertAll deliveries }

end IcttSentinel.Alerts
