/-
The delivery loop of apps/agent/src/alerting.ts over the outbox: `drainOutbox` leases what is due in
one transaction, sends it, and settles each row in another. Between the two anything can commit, and
a drainer can be cut off; a row that is leased and never settled falls due again.
-/
import IcttSentinel.Alerts.Closing
import IcttSentinel.Lib.JsonRead

namespace IcttSentinel.Alerts

open IcttSentinel.Domain IcttSentinel.Lib IcttSentinel.Storage

/-! ## Reading a stored payload -/

def stringAt (name : String) (value : Json) : Option String := (value.field? name).bind Json.string?

/-- A safe integer of at least one. -/
def asOccurrences (n : Int) : Option Nat := if 1 ≤ n && n ≤ 2 ^ 53 - 1 then some n.toNat else none

def alertStates : List AlertState := [.firstSeen, .repeated, .escalated, .acknowledged, .recovered]

def verdicts : List Verdict := [.ok, .warn, .unknown, .critical]

/-- What `decodeNotification` reads from a stored payload, `none` when it has another shape. -/
def readContext (value : Json) : Option AlertContext := do
  let schema ← stringAt "schema" value
  if schema ≠ notificationSchema then none
  let evidence ← value.field? "evidence"
  let freshness ← value.field? "freshness"
  let reasonCodes ← ((value.field? "reasonCodes").bind Json.elements?).bind (·.mapM Json.string?)
  let dedupKey ← stringAt "dedupKey" value
  let deploymentId ← stringAt "deploymentId" value
  let ruleId ← stringAt "ruleId" value
  let stateText ← stringAt "state" value
  let state ← alertStates.find? (·.text = stateText)
  let severityText ← stringAt "severity" value
  let severity ← verdicts.find? (·.text = severityText)
  let _ ← stringAt "summary" value
  let occurrences ← ((value.field? "occurrences").bind Json.int?).bind asOccurrences
  let evidenceHash ← stringAt "contentHash" evidence
  let evidenceSchemaVersion ← stringAt "schemaVersion" evidence
  let _ ← stringAt "retrievePath" evidence
  let observedAt ← stringAt "observedAt" freshness
  let expiresAt ← stringAt "expiresAt" freshness
  let fresh ← (freshness.field? "fresh").bind Json.bool?
  return { dedupKey, deploymentId, ruleId, state, severity, occurrences, reasonCodes, observedAt, expiresAt, fresh,
           evidenceHash, evidenceSchemaVersion }

/-- `decodeNotification`: what is read is sanitized again, and may be refused there. -/
def decodeNotification (gates : String → Except String Unit) (value : Json) :
    Except String (Option NotificationPayload) :=
  match readContext value with
  | none => .ok none
  | some ctx => (sanitize gates ctx).map some

/-! ## Draining -/

/-- `MAX_JOB_ATTEMPTS` is read as a number from 1 to 10. -/
structure DrainOptions where
  maxAttempts : Nat
  leaseMs : Int
  backoffMs : Int
  batchSize : Nat
  now : Int
  deliveryIdFor : String → String → Int → String
  maxAttempts_pos : 1 ≤ maxAttempts

inductive ReportOutcome where
  | delivered
  | rejected
  | error
  | skipped
  deriving DecidableEq, Repr

structure DeliveryReport where
  targetId : String
  outcome : ReportOutcome
  reason : String
  httpStatus : Option Nat
  deriving DecidableEq, Repr

/-- A skipped target produced no attempt, and so no record of one. -/
def ReportOutcome.recorded : ReportOutcome → Option DeliveryOutcome
  | .delivered => some .delivered
  | .rejected => some .rejected
  | .error => some .error
  | .skipped => none

/-- `settleAlert`'s arguments: the records, and where the row moves. -/
structure Settlement where
  deliveries : List DeliveryRecord
  status : OutboxStatus
  attempts : Int
  nextAttemptAt : Int

def deliveriesOf (options : DrainOptions) (row : AlertOutboxRow) (reports : List DeliveryReport) : List DeliveryRecord :=
  reports.filterMap fun r => r.outcome.recorded.map fun outcome =>
    { deliveryId := options.deliveryIdFor row.outboxId r.targetId row.attempts
      outboxId := row.outboxId
      target := r.targetId
      outcome
      detail := .obj [("reason", .str r.reason),
        ("httpStatus", (r.httpStatus.map fun status => Json.num status).getD .null), ("attempt", .num row.attempts)] }

/-- `anyDelivered || (allSkipped && outcome.reports.length > 0)`. -/
def concluded (reports : List DeliveryReport) : Bool :=
  reports.any (·.outcome = .delivered) || (reports.all (·.outcome = .skipped) && 0 < reports.length)

/-- One turn of the loop of `drainOutbox`. `dispatch` is what the targets report of a payload. -/
def settlement (gates : String → Except String Unit) (options : DrainOptions)
    (dispatch : NotificationPayload → List DeliveryReport) (row : AlertOutboxRow) : Except String Settlement := do
  match ← decodeNotification gates row.payload with
  | none => return {
      deliveries := [{
        deliveryId := options.deliveryIdFor row.outboxId "decoder" row.attempts
        outboxId := row.outboxId
        target := "decoder"
        outcome := .rejected
        detail := .obj [("reason", .str "stored payload does not match the notification schema")] }]
      status := .abandoned
      attempts := row.attempts
      nextAttemptAt := options.now }
  | some payload =>
    let reports := dispatch payload
    return {
      deliveries := deliveriesOf options row reports
      status :=
        if concluded reports then .sent
        else if row.attempts < options.maxAttempts then .pending
        else .abandoned
      attempts := row.attempts
      nextAttemptAt := options.now + options.backoffMs * 2 ^ (min row.attempts 10).toNat }

/-! ## Delivery runs -/

/-- The transactions of the outbox that are not a drainer's. -/
def OutboxEvent.drains : OutboxEvent → Bool
  | .leased .. => true
  | .settled .. => true
  | _ => false

/-- A transaction of an agent or a responder, or one of a drainer. The reports of a settlement are
those of the targets; a drainer that is cut off never settles what it has in hand. -/
inductive DeliveryEvent where
  | agent (e : OutboxEvent) (undrained : e.drains = false)
  | leased (options : DrainOptions) (createdAt : String → Int) (locked : List String)
  | settled (options : DrainOptions) (dispatch : NotificationPayload → List DeliveryReport) (i : Nat)

/-- The store, the leased rows that drainers have in hand, and the leases taken so far. -/
structure DeliveryState where
  db : AlertDb
  unsettled : List AlertOutboxRow
  leases : List AlertOutboxRow

section Run

variable (sha256 : String → String) (gates : String → Except String Unit) (outboxIdFor : String → String)

def deliveryStep (s : DeliveryState) : DeliveryEvent → DeliveryState
  | .agent e _ => { s with db := outboxStep sha256 gates outboxIdFor s.db e }
  | .leased options createdAt locked =>
    match leaseDueAlerts createdAt locked s.db options.now options.batchSize options.leaseMs with
    | .error _ => s
    | .ok (rows, db) => { db, unsettled := s.unsettled ++ rows, leases := s.leases ++ rows }
  | .settled options dispatch i =>
    match s.unsettled[i]? with
    | none => s
    | some row =>
      match settlement gates options dispatch row with
      | .error _ => s
      | .ok next =>
        match settleAlert s.db row.outboxId next.deliveries next.status next.attempts next.nextAttemptAt with
        | .error _ => s
        | .ok db => { s with db, unsettled := s.unsettled.eraseIdx i }

/-- The state after a run of the agents and the drainers. -/
def deliveryAfter (deployments : List String) (deploymentTenants : List (String × String)) (run : List DeliveryEvent) :
    DeliveryState :=
  run.foldl (deliveryStep sha256 gates outboxIdFor) ⟨.registered deployments deploymentTenants, [], []⟩

end Run

/-- How often the row has been leased. -/
def DeliveryState.leaseCount (s : DeliveryState) (outboxId : String) : Nat :=
  (s.leases.map AlertOutboxRow.outboxId).count outboxId

/-! ## What a transaction does to the rows -/

/-- What a transaction that is not a drainer's does to a stored row: its attempts stay, a closed row
stays closed with its status, only closing cancels, and what is queued was queued, unless the
transaction requeues. -/
structure Evolves (requeues : Prop) (r r' : AlertOutboxRow) : Prop where
  outboxId : r'.outboxId = r.outboxId
  attempts : r'.attempts = r.attempts
  closed : r.isOpen = false → r'.isOpen = false ∧ r'.status = r.status
  cancelled : r'.status = .cancelled → r.status = .cancelled ∨ r'.isOpen = false
  queued : r'.status = .pending → r.status = .pending ∨ requeues

/-- A row that was not stored before: it has not been attempted. -/
structure Fresh (rows : List AlertOutboxRow) (r : AlertOutboxRow) : Prop where
  outboxId : ∀ old ∈ rows, old.outboxId ≠ r.outboxId
  attempts : r.attempts = 0
  status : r.status = .pending ∨ r.status = .sent

/-- The stored rows evolve, and fresh ones are added. -/
def Transacted (requeues : Prop) (rows rows' : List AlertOutboxRow) : Prop :=
  ∃ f added, rows' = rows.map f ++ added ∧ (∀ r ∈ rows, Evolves requeues r (f r)) ∧ ∀ r ∈ added, Fresh rows r

section Rows

variable {sha256 : String → String} {gates : String → Except String Unit} {outboxIdFor : String → String}
  {ties : AlertOutboxRow → Nat} {db db' : AlertDb} {signal : AlertSignal} {now dbNow : Int} {result : RaiseResult}
  {requeues : Prop}

theorem Evolves.refl (r : AlertOutboxRow) : Evolves requeues r r where
  outboxId := rfl
  attempts := rfl
  closed h := ⟨h, rfl⟩
  cancelled := Or.inl
  queued := Or.inl

theorem Transacted.refl (rows : List AlertOutboxRow) : Transacted requeues rows rows :=
  ⟨id, [], by simp, fun r _ => .refl r, by simp⟩

theorem Transacted.update {rows rows' : List AlertOutboxRow} {f : AlertOutboxRow → AlertOutboxRow}
    (hrows : rows' = rows.map f) (hf : ∀ r, Evolves requeues r (f r)) : Transacted requeues rows rows' :=
  ⟨f, [], by rw [hrows, List.append_nil], fun r _ => hf r, by simp⟩

theorem closeRow_evolves (k : String) (t : Int) (r : AlertOutboxRow) : Evolves requeues r (closeRow k t r) := by
  unfold closeRow
  split
  · rename_i hopen
    rw [Bool.and_eq_true] at hopen
    refine ⟨rfl, rfl, fun h => ?_, fun _ => Or.inr rfl, fun h => ?_⟩
    · rw [hopen.2] at h
      cases h
    · simp only at h
      split at h
      · cases h
      · exact Or.inl h
  · exact .refl r

theorem acknowledgeRow_evolves (selects : AlertOutboxRow → Bool) (by_ : String) (at_ : Int) (r : AlertOutboxRow) :
    Evolves requeues r (acknowledgeRow selects by_ at_ r) := by
  unfold acknowledgeRow
  split
  · rename_i hopen
    rw [Bool.and_eq_true] at hopen
    refine ⟨rfl, rfl, fun h => ?_, Or.inl, Or.inl⟩
    rw [hopen.2] at h
    cases h
  · exact .refl r

variable (sha256 db signal dbNow requeues) in
/-- Closing the incident of a signal, if it recovers it, is an update of each row. -/
theorem closedRows_map (before : Option AlertRecord) :
    ∃ g, closedRows sha256 db before signal dbNow = db.rows.map g ∧ (∀ r, Evolves requeues r (g r)) ∧
      ∀ r, (g r).dedupKey = r.dedupKey := by
  unfold closedRows
  split
  · exact ⟨_, rfl, closeRow_evolves _ _, closeRow_dedupKey _ _⟩
  · exact ⟨id, by simp, .refl, fun _ => rfl⟩

/-- The row under the dedup key of a signal evolves when the signal is folded into it. -/
theorem overwrite_evolves (hraise : raiseAlert sha256 gates outboxIdFor ties db signal now dbNow = .ok (result, db'))
    {existing old : AlertOutboxRow} (hexisting : (contextOf sha256 ties db signal).existing = some existing)
    (hid : old.outboxId = existing.outboxId) (payload : NotificationPayload) :
    Evolves (result.notified = true) existing
      (old.overwrite (outboxRow sha256 outboxIdFor (some existing) signal now
        (afterOf sha256 (contextOf sha256 ties db signal) signal now) result.notified payload)) where
  outboxId := hid
  attempts := rfl
  closed hclosed := by
    obtain ⟨hafter, hquiet⟩ := raise_of_closed hraise hexisting hclosed
    refine ⟨isOpen_eq_false.2 hafter, ?_⟩
    simp [AlertOutboxRow.overwrite, outboxRow, hquiet]
  cancelled h := by
    simp only [AlertOutboxRow.overwrite, outboxRow, Option.map_some, Option.getD_some] at h
    split at h
    · cases h
    · exact Or.inl h
  queued h := by
    simp only [AlertOutboxRow.overwrite, outboxRow, Option.map_some, Option.getD_some] at h
    split at h
    · exact Or.inr ‹_›
    · exact Or.inl h

/-- A signal that is raised updates the stored rows, and adds one under a new dedup key. -/
theorem raise_transacted (hraise : raiseAlert sha256 gates outboxIdFor ties db signal now dbNow = .ok (result, db')) :
    Transacted (db.alertOutbox.table.has (dedupKey sha256 (identityOf signal)) = true ∧ result.notified = true)
      db.rows db'.rows := by
  obtain ⟨-, ⟨-, -, hrows, -⟩ | ⟨-, -, -, payload, hrows⟩⟩ := raiseAlert_ok hraise
  · rw [hrows]
    exact .refl _
  obtain ⟨g, hclosed, hg, hgkey⟩ := closedRows_map sha256 db signal dbNow
    (db.alertOutbox.table.has (dedupKey sha256 (identityOf signal)) = true ∧ result.notified = true)
    (beforeOf (contextOf sha256 ties db signal) (identityOf signal))
  rw [hclosed] at hrows
  cases hexisting : (contextOf sha256 ties db signal).existing with
  | none =>
    rw [hexisting] at hrows
    refine ⟨g, _, hrows, fun r _ => hg r, fun r hr => ?_⟩
    obtain rfl := List.mem_singleton.1 hr
    refine ⟨fun old hold hid => ?_, rfl, ?_⟩
    · -- the ids of the table stay distinct
      have hids := db'.alertOutbox.ids
      change (db'.rows.map AlertOutboxRow.outboxId).Nodup at hids
      rw [hrows] at hids
      change ((db.rows.map g ++ [_]).map AlertOutboxRow.outboxId).Nodup at hids
      rw [List.map_append, List.nodup_append'] at hids
      refine hids.2.2 (List.mem_map_of_mem (List.mem_map_of_mem hold)) ?_
      rw [(hg old).outboxId, hid]
      exact List.mem_singleton.2 rfl
    · simp only [outboxRow, Option.map_none, Option.getD_none]
      split
      · exact Or.inl rfl
      · exact Or.inr rfl
  | some existing =>
    obtain ⟨hmem, hkey⟩ := Keyed.lookup_eq_some.1 (contextOf_existing.symm.trans hexisting)
    have hstored := Keyed.has_iff.2 ⟨existing, hmem, hkey⟩
    rw [hexisting] at hrows
    change db'.rows = (db.rows.map g).map (overwriteRow _) at hrows
    rw [List.map_map] at hrows
    refine ⟨_, [], by rw [hrows, List.append_nil], fun r hr => ?_, by simp⟩
    show Evolves _ r (overwriteRow _ (g r))
    unfold overwriteRow
    split
    · rename_i hrkey
      obtain rfl : r = existing := db.alertOutbox.table.eq_of_key hr hmem ((hgkey r).symm.trans (hrkey.trans hkey.symm))
      have h := overwrite_evolves hraise hexisting (hg r).outboxId payload
      exact ⟨h.outboxId, h.attempts, h.closed, h.cancelled, fun hp => (h.queued hp).imp_right fun hn => ⟨hstored, hn⟩⟩
    · exact hg r

/-- The event pages for a signal whose dedup key is stored. -/
def Requeues (sha256 : String → String) (gates : String → Except String Unit) (outboxIdFor : String → String)
    (db : AlertDb) : OutboxEvent → Prop
  | .raised signal now dbNow ties =>
    db.alertOutbox.table.has (dedupKey sha256 (identityOf signal)) = true ∧
      ∃ result db', raiseAlert sha256 gates outboxIdFor ties db signal now dbNow = .ok (result, db') ∧
        result.notified = true
  | _ => False

theorem Transacted.mono {requeues' : Prop} {rows rows' : List AlertOutboxRow} (h : Transacted requeues rows rows')
    (himp : requeues → requeues') : Transacted requeues' rows rows' := by
  obtain ⟨f, added, hrows, hf, hadded⟩ := h
  exact ⟨f, added, hrows, fun r hr => { hf r hr with queued := fun hp => ((hf r hr).queued hp).imp_right himp }, hadded⟩

variable (sha256 gates outboxIdFor) in
/-- Every transaction but a drainer's updates the stored rows so, and adds fresh ones. -/
theorem agent_transacted (db : AlertDb) (e : OutboxEvent) (undrained : e.drains = false) :
    Transacted (Requeues sha256 gates outboxIdFor db e) db.rows (outboxStep sha256 gates outboxIdFor db e).rows := by
  cases e with
  | evaluated evaluationId => exact .refl _
  | raised signal now dbNow ties =>
    simp only [outboxStep]
    cases hraise : raiseAlert sha256 gates outboxIdFor ties db signal now dbNow with
    | error failure => exact .refl _
    | ok a => exact (raise_transacted hraise).mono fun h => ⟨h.1, a.1, a.2, hraise, h.2⟩
  | acknowledged incidentKey by_ at_ =>
    simp only [outboxStep]
    cases hack : acknowledgeAlert db incidentKey by_ at_ with
    | error violation => exact .refl _
    | ok a => exact .update (acknowledgeRows_ok hack) (acknowledgeRow_evolves _ _ _)
  | tenantAcknowledged tenantId incidentKey by_ at_ =>
    simp only [outboxStep]
    cases hack : acknowledgeTenantAlert db tenantId incidentKey by_ at_ with
    | error violation => exact .refl _
    | ok a => exact .update (acknowledgeRows_ok hack) (acknowledgeRow_evolves _ _ _)
  | leased createdAt locked now limit leaseMs => cases undrained
  | settled outboxId deliveries status attempts nextAttemptAt => cases undrained

end Rows

/-! ## What a drainer takes and leaves -/

/-- The rows that `leaseDueAlerts` selects. -/
def dueRows (createdAt : String → Int) (locked : List String) (db : AlertDb) (now : Int) (limit : Nat) :
    List AlertOutboxRow :=
  (sortOn (fun r => toLex (r.nextAttemptAt, createdAt r.outboxId))
    (db.rows.filter fun r => decide (r.status = .pending) && decide (r.nextAttemptAt ≤ now) &&
      !locked.contains r.outboxId)).take limit

section Drain

variable {createdAt : String → Int} {locked : List String} {db db' : AlertDb} {now : Int} {limit : Nat} {leaseMs : Int}

theorem mem_dueRows {r : AlertOutboxRow} (h : r ∈ dueRows createdAt locked db now limit) :
    r ∈ db.rows ∧ r.status = .pending := by
  have hdue := mem_sortOn.1 (List.mem_of_mem_take h)
  simp only [List.mem_filter, Bool.and_eq_true, decide_eq_true_eq] at hdue
  exact ⟨hdue.1, hdue.2.1.1⟩

theorem dueRows_nodup : ((dueRows createdAt locked db now limit).map AlertOutboxRow.outboxId).Nodup := by
  have hsorted := ((sortOn_perm (fun r => toLex (r.nextAttemptAt, createdAt r.outboxId))
    (db.rows.filter fun r => decide (r.status = .pending) && decide (r.nextAttemptAt ≤ now) &&
      !locked.contains r.outboxId)).map AlertOutboxRow.outboxId).nodup_iff.2
    (db.alertOutbox.ids.sublist (List.filter_sublist.map _))
  exact hsorted.sublist ((List.take_sublist _ _).map _)

theorem leaseDueAlerts_ok {rows : List AlertOutboxRow}
    (h : leaseDueAlerts createdAt locked db now limit leaseMs = .ok (rows, db')) :
    rows = (dueRows createdAt locked db now limit).map (fun r => { r with attempts := r.attempts + 1 }) ∧
      db'.rows = db.rows.map (leaseRow ((dueRows createdAt locked db now limit).map (·.outboxId)) (now + leaseMs)) := by
  obtain ⟨alertOutbox, hupdate, hend⟩ := bind_eq_ok.1 h
  obtain ⟨rfl, rfl⟩ := Prod.mk.inj (Except.ok.inj hend)
  exact ⟨rfl, AlertOutbox.update_ok hupdate⟩

theorem settleAlert_ok {outboxId : String} {next : Settlement}
    (h : settleAlert db outboxId next.deliveries next.status next.attempts next.nextAttemptAt = .ok db') :
    db'.rows = db.rows.map (settleRow outboxId next.status next.attempts next.nextAttemptAt) := by
  obtain ⟨_, -, hrest⟩ := bind_eq_ok.1 h
  obtain ⟨alertOutbox, hupdate, hend⟩ := bind_eq_ok.1 hrest
  rw [← Except.ok.inj hend]
  exact AlertOutbox.update_ok hupdate

/-- A row that is stored is the one under its id. -/
theorem AlertDb.eq_of_outboxId (db : AlertDb) {r r' : AlertOutboxRow} (hr : r ∈ db.rows) (hr' : r' ∈ db.rows)
    (h : r.outboxId = r'.outboxId) : r = r' :=
  List.inj_on_of_nodup_map db.alertOutbox.ids hr hr' h

end Drain

/-- A settlement of a stored row commits, if its attempts can be stored. -/
theorem settleAlert_commits {db : AlertDb} {r : AlertOutboxRow} (hr : r ∈ db.rows) {next : Settlement}
    (hdeliveries : ∀ d ∈ next.deliveries, d.outboxId = r.outboxId) (hpos : 0 ≤ next.attempts)
    (hfits : fitsInteger next.attempts = true) :
    ∃ db', settleAlert db r.outboxId next.deliveries next.status next.attempts next.nextAttemptAt = .ok db' := by
  have hchecks : ∀ x ∈ db.alertOutbox.table.rows,
      (settleRow r.outboxId next.status next.attempts next.nextAttemptAt x).check = .ok () := by
    intro x hx
    have hcheck := db.alertOutbox.checks x hx
    unfold settleRow
    split
    · rw [AlertOutboxRow.check_eq_ok] at hcheck ⊢
      obtain ⟨hinteger, -, hrest⟩ := hcheck
      rw [Bool.and_eq_true] at hinteger
      exact ⟨by simp [hfits, hinteger.2], hpos, hrest⟩
    · exact hcheck
  have hall : (next.deliveries.all fun d => db.alertDeliveries.has d.deliveryId ||
      db.rows.any (·.outboxId = d.outboxId)) = true := by
    rw [List.all_eq_true]
    intro d hd
    rw [Bool.or_eq_true, List.any_eq_true]
    exact Or.inr ⟨r, hr, by simp [hdeliveries d hd]⟩
  obtain ⟨alertOutbox, hupdate⟩ := AlertOutbox.update_commits hchecks
  refine ⟨_, bind_eq_ok.2 ⟨(), ensure_eq_ok.2 hall, bind_eq_ok.2 ⟨alertOutbox, hupdate, rfl⟩⟩⟩

/-- What a payload comes to: the settlement of a row that cannot be read, and of one that can. -/
theorem settlement_ok {gates : String → Except String Unit} {options : DrainOptions}
    {dispatch : NotificationPayload → List DeliveryReport} {row : AlertOutboxRow} {next : Settlement}
    (h : settlement gates options dispatch row = .ok next) :
    next.attempts = row.attempts ∧ (∀ d ∈ next.deliveries, d.outboxId = row.outboxId) ∧
      (decodeNotification gates row.payload = .ok none ∧ next.status = .abandoned ∨
        ∃ payload, decodeNotification gates row.payload = .ok (some payload) ∧
          next.status = if concluded (dispatch payload) then .sent
            else if row.attempts < options.maxAttempts then .pending else .abandoned) := by
  obtain ⟨decoded, hdecoded, hnext⟩ := bind_eq_ok.1 h
  cases decoded with
  | none =>
    obtain rfl := Except.ok.inj hnext
    exact ⟨rfl, by simp, Or.inl ⟨hdecoded, rfl⟩⟩
  | some payload =>
    obtain rfl := Except.ok.inj hnext
    refine ⟨rfl, fun d hd => ?_, Or.inr ⟨payload, hdecoded, rfl⟩⟩
    obtain ⟨report, -, hrecord⟩ := List.mem_filterMap.1 hd
    obtain ⟨outcome, -, rfl⟩ := Option.map_eq_some_iff.1 hrecord
    rfl

/-! ## Steps -/

section Step

variable {sha256 : String → String} {gates : String → Except String Unit} {outboxIdFor : String → String}
  {s : DeliveryState}

/-- A lease that fails changes nothing; one that commits hands its rows to the drainer. -/
theorem deliveryStep_leased (options : DrainOptions) (createdAt : String → Int) (locked : List String) :
    deliveryStep sha256 gates outboxIdFor s (.leased options createdAt locked) = s ∨
      ∃ db', db'.rows = s.db.rows.map (leaseRow
            ((dueRows createdAt locked s.db options.now options.batchSize).map (·.outboxId))
            (options.now + options.leaseMs)) ∧
        deliveryStep sha256 gates outboxIdFor s (.leased options createdAt locked) =
          { db := db'
            unsettled := s.unsettled ++ (dueRows createdAt locked s.db options.now options.batchSize).map
              (fun r => { r with attempts := r.attempts + 1 })
            leases := s.leases ++ (dueRows createdAt locked s.db options.now options.batchSize).map
              (fun r => { r with attempts := r.attempts + 1 }) } ∧
        ∀ outboxId, (deliveryStep sha256 gates outboxIdFor s (.leased options createdAt locked)).leaseCount outboxId =
          s.leaseCount outboxId +
            ((dueRows createdAt locked s.db options.now options.batchSize).map AlertOutboxRow.outboxId).count outboxId := by
  simp only [deliveryStep]
  cases hlease : leaseDueAlerts createdAt locked s.db options.now options.batchSize options.leaseMs with
  | error violation => exact Or.inl rfl
  | ok a =>
    obtain ⟨hrows, hdb⟩ := leaseDueAlerts_ok hlease
    refine Or.inr ⟨a.2, hdb, by rw [← hrows], fun outboxId => ?_⟩
    unfold DeliveryState.leaseCount
    rw [List.map_append, List.count_append, hrows, List.map_map]
    rfl

/-- A settlement that does not commit changes nothing; one that commits takes its row from the drainer. -/
theorem deliveryStep_settled (options : DrainOptions) (dispatch : NotificationPayload → List DeliveryReport) (i : Nat) :
    deliveryStep sha256 gates outboxIdFor s (.settled options dispatch i) = s ∨
      ∃ row next db', s.unsettled[i]? = some row ∧ settlement gates options dispatch row = .ok next ∧
        db'.rows = s.db.rows.map (settleRow row.outboxId next.status next.attempts next.nextAttemptAt) ∧
        deliveryStep sha256 gates outboxIdFor s (.settled options dispatch i) =
          { s with db := db', unsettled := s.unsettled.eraseIdx i } := by
  cases hrow : s.unsettled[i]? with
  | none => exact Or.inl (by simp only [deliveryStep, hrow])
  | some row =>
    cases hnext : settlement gates options dispatch row with
    | error message => exact Or.inl (by simp only [deliveryStep, hrow, hnext])
    | ok next =>
      cases hsettle : settleAlert s.db row.outboxId next.deliveries next.status next.attempts next.nextAttemptAt with
      | error violation => exact Or.inl (by simp only [deliveryStep, hrow, hnext, hsettle])
      | ok db' =>
        exact Or.inr ⟨row, next, db', rfl, hnext, settleAlert_ok hsettle,
          by simp only [deliveryStep, hrow, hnext, hsettle]⟩

@[simp] theorem leaseRow_outboxId (leased : List String) (until_ : Int) (r : AlertOutboxRow) :
    (leaseRow leased until_ r).outboxId = r.outboxId := by
  unfold leaseRow
  split <;> rfl

@[simp] theorem settleRow_outboxId (outboxId : String) (status : OutboxStatus) (attempts nextAttemptAt : Int)
    (r : AlertOutboxRow) : (settleRow outboxId status attempts nextAttemptAt r).outboxId = r.outboxId := by
  unfold settleRow
  split <;> rfl

/-- No step deletes a row. -/
theorem deliveryStep_stored {r : AlertOutboxRow} (hr : r ∈ s.db.rows) (e : DeliveryEvent) :
    ∃ r' ∈ (deliveryStep sha256 gates outboxIdFor s e).db.rows, r'.outboxId = r.outboxId := by
  cases e with
  | agent e undrained =>
    obtain ⟨f, added, hrows, hf, -⟩ := agent_transacted sha256 gates outboxIdFor s.db e undrained
    refine ⟨f r, ?_, (hf r hr).outboxId⟩
    simp only [deliveryStep]
    rw [hrows]
    exact List.mem_append_left _ (List.mem_map_of_mem hr)
  | leased options createdAt locked =>
    obtain hsame | ⟨db', hdb, hstep, -⟩ := deliveryStep_leased options createdAt locked
    · exact ⟨r, hsame ▸ hr, rfl⟩
    · rw [hstep, hdb]
      exact ⟨_, List.mem_map_of_mem hr, leaseRow_outboxId _ _ r⟩
  | settled options dispatch i =>
    obtain hsame | ⟨row, next, db', -, -, hdb, hstep⟩ := deliveryStep_settled options dispatch i
    · exact ⟨r, hsame ▸ hr, rfl⟩
    · rw [hstep, hdb]
      exact ⟨_, List.mem_map_of_mem hr, settleRow_outboxId _ _ _ _ r⟩

end Step

end IcttSentinel.Alerts
