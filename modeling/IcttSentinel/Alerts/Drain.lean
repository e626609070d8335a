/-
`drainOutbox` of apps/agent/src/alerting.ts: what is due is leased, and each leased row is decoded, sent to the targets
of packages/alerts/src/notify.ts, and settled. Whatever throws on the way ends the drain, and what was leased behind it
stays unsettled until its lease runs out. Other transactions commit between the settlements.
-/
import IcttSentinel.Alerts.Isolation
import IcttSentinel.Lib.Traversal

namespace IcttSentinel.Alerts

open IcttSentinel.Domain IcttSentinel.Lib IcttSentinel.Storage

/-! ## Targets -/

inductive MinSeverity where
  | warn
  | unknown
  | critical
  deriving DecidableEq, Repr

/-- The rank of the verdict of that name. -/
def MinSeverity.rank : MinSeverity → Nat
  | .warn => 1
  | .unknown => 2
  | .critical => 3

structure AlertTarget where
  targetId : String
  secretRef : String
  minSeverity : MinSeverity

def meetsThreshold (target : AlertTarget) (verdict : Verdict) : Bool := target.minSeverity.rank ≤ verdict.rank

structure PostResponse where
  status : Nat
  ok : Bool

/-- What a drain is given to send with. `checkTargetUrl` says why a url is refused, `reason` redacts an error's text and
cuts it off. The transport's answer to the post of a row to the `i`th target may be anything: a response, an error, or
`none` where the promise settles not even after its signal has fired. -/
structure Notifier where
  targets : List AlertTarget
  resolve : String → Option String
  checkTargetUrl : String → Option String
  reason : String → String
  post (outboxId : String) (i : Nat) (url body : String) : Option (Except String PostResponse)

/-- The target hears nothing of a payload below its threshold, recoveries apart. -/
def AlertTarget.skips (target : AlertTarget) (payload : NotificationPayload) : Bool :=
  payload.state ≠ .recovered && !meetsThreshold target payload.severity

section Delivery

variable (notifier : Notifier) (outboxId : String) (payload : NotificationPayload)

/-- `deliver`: every way it ends is a report, unless the transport leaves it waiting. -/
def deliver (target : AlertTarget) (i : Nat) : Option DeliveryReport :=
  let base (outcome : ReportOutcome) (reason : String) : DeliveryReport :=
    { targetId := target.targetId, outcome, reason, httpStatus := none }
  if target.skips payload then some (base .skipped "below target severity threshold")
  else
    match notifier.resolve target.secretRef with
    | none | some "" => some (base .error ("target secret " ++ target.secretRef ++ " is not set"))
    | some url =>
      match notifier.checkTargetUrl url with
      | some refusal => some (base .rejected refusal)
      | none =>
        (notifier.post outboxId i url payload.toJson.stringify).map fun
          | .error message => base .error (notifier.reason message)
          | .ok response =>
            { targetId := target.targetId
              outcome := if response.ok then .delivered else .rejected
              reason := if response.ok then "delivered" else "target returned " ++ toString response.status
              httpStatus := some response.status }

/-- `dispatch`: every target, one after the other. -/
def dispatch : Option (List DeliveryReport) :=
  notifier.targets.zipIdx.mapM fun (target, i) => deliver notifier outboxId payload target i

/-- The post of the payload to the target was answered with success. -/
def Delivered (target : AlertTarget) : Prop :=
  target ∈ notifier.targets ∧ target.skips payload = false ∧ ∃ i url response,
    notifier.resolve target.secretRef = some url ∧
    notifier.post outboxId i url payload.toJson.stringify = some (.ok response) ∧ response.ok = true

end Delivery

/-! ## The drain -/

/-- What ends a drain: the decoder throws, a transport never answers, or a settlement is not committed. -/
inductive DrainFailure where
  | thrown (message : String)
  | unanswered
  | untranslatable
  | violation (violation : Violation)
  deriving DecidableEq, Repr

structure DrainReport where
  leased : Nat
  delivered : Nat
  retrying : Nat
  abandoned : Nat
  undecodable : Nat
  deriving DecidableEq, Repr

/-- The store, what the drain has settled so far, in order, and its report. -/
structure Drain where
  db : AlertDb
  settled : List (String × Settlement)
  report : DrainReport

/-- What one row comes to. -/
structure Turn where
  decoded : Option NotificationPayload
  reports : List DeliveryReport
  next : Settlement

def DrainReport.count (report : DrainReport) (turn : Turn) : DrainReport :=
  if turn.decoded.isNone then { report with undecodable := report.undecodable + 1 }
  else if turn.reports.any (·.outcome = .delivered) then { report with delivered := report.delivered + 1 }
  else
    match turn.next.status with
    | .pending => { report with retrying := report.retrying + 1 }
    | .abandoned => { report with abandoned := report.abandoned + 1 }
    | _ => report

def thrown {α : Type} : Except String α → Except DrainFailure α
  | .error message => .error (.thrown message)
  | .ok a => .ok a

section Drain

/- `stores` is what a `jsonb` column takes of the texts it is handed: none that has a character NUL, or half a surrogate
pair. `meanwhile` is what other processes commit before a row is settled. -/
variable (sha256 : String → String) (gates : String → Except String Unit) (outboxIdFor : String → String)
  (options : DrainOptions) (notifier : Notifier) (stores : Json → Bool) (meanwhile : String → List OutboxEvent)

/-- What the targets report of what was decoded; nothing of a payload that could not be read. -/
def sendTurn (row : AlertOutboxRow) : Option NotificationPayload → Except DrainFailure (List DeliveryReport)
  | none => .ok []
  | some payload => (dispatch notifier row.outboxId payload).elim (.error .unanswered) .ok

/-- Decode a row, send it, and say how it is settled. -/
def drainTurn (row : AlertOutboxRow) : Except DrainFailure Turn := do
  let decoded ← thrown (decodeNotification gates row.payload)
  let reports ← sendTurn notifier row decoded
  let next ← thrown (settlement gates options (fun _ => reports) row)
  return { decoded, reports, next }

/-- The transaction that settles a row. -/
def settleTurn (db : AlertDb) (row : AlertOutboxRow) (next : Settlement) : Except DrainFailure AlertDb :=
  if next.deliveries.all (fun d => stores d.detail) then
    match settleAlert db row.outboxId next.deliveries next.status next.attempts next.nextAttemptAt with
    | .error violation => .error (.violation violation)
    | .ok db => .ok db
  else .error .untranslatable

def commitMeanwhile (db : AlertDb) (row : AlertOutboxRow) : AlertDb :=
  (meanwhile row.outboxId).foldl (outboxStep sha256 gates outboxIdFor) db

/-- One turn of the loop. -/
def drainRow (s : Drain) (row : AlertOutboxRow) : Except DrainFailure Drain := do
  let turn ← drainTurn gates options notifier row
  let db ← settleTurn stores (commitMeanwhile sha256 gates outboxIdFor meanwhile s.db row) row turn.next
  return { db, settled := s.settled ++ [(row.outboxId, turn.next)], report := s.report.count turn }

/-- The loop: what it has done when it ends, and the failure that ended it. -/
def drainRows (s : Drain) : List AlertOutboxRow → Drain × Option DrainFailure
  | [] => (s, none)
  | row :: rows =>
    match drainRow sha256 gates outboxIdFor options notifier stores meanwhile s row with
    | .error failure =>
      ({ s with db := commitMeanwhile sha256 gates outboxIdFor meanwhile s.db row }, some failure)
    | .ok s => drainRows s rows

/-- `drainOutbox`, with the rows it leases. -/
def drainOutbox (createdAt : String → Int) (locked : List String) (db : AlertDb) :
    Except Violation (List AlertOutboxRow × Drain × Option DrainFailure) := do
  let (rows, db) ← leaseDueAlerts createdAt locked db options.now options.batchSize options.leaseMs
  let report := { leased := rows.length, delivered := 0, retrying := 0, abandoned := 0, undecodable := 0 }
  return (rows, drainRows sha256 gates outboxIdFor options notifier stores meanwhile { db, settled := [], report } rows)

end Drain

/-! ## What other transactions leave -/

/-- No row is deleted. -/
def Persists (db db' : AlertDb) : Prop := ∀ r ∈ db.rows, ∃ r' ∈ db'.rows, r'.outboxId = r.outboxId

theorem Persists.refl (db : AlertDb) : Persists db db := fun r hr => ⟨r, hr, rfl⟩

theorem Persists.trans {db db' db'' : AlertDb} (h : Persists db db') (h' : Persists db' db'') : Persists db db'' := by
  intro r hr
  obtain ⟨r', hr', hid⟩ := h r hr
  obtain ⟨r'', hr'', hid'⟩ := h' r' hr'
  exact ⟨r'', hr'', hid'.trans hid⟩

theorem Persists.of_map {db db' : AlertDb} {f : AlertOutboxRow → AlertOutboxRow} (h : db'.rows = db.rows.map f)
    (hid : ∀ r, (f r).outboxId = r.outboxId) : Persists db db' :=
  fun r hr => ⟨f r, h ▸ List.mem_map_of_mem hr, hid r⟩

section Others

variable (sha256 : String → String) (gates : String → Except String Unit) (outboxIdFor : String → String)

theorem undrained_persists (db : AlertDb) {e : OutboxEvent} (undrained : e.drains = false) :
    Persists db (outboxStep sha256 gates outboxIdFor db e) := by
  obtain ⟨f, added, hrows, hf, -⟩ := agent_transacted sha256 gates outboxIdFor db e undrained
  intro r hr
  exact ⟨f r, hrows ▸ List.mem_append_left _ (List.mem_map_of_mem hr), (hf r hr).outboxId⟩

theorem outboxStep_persists (db : AlertDb) (e : OutboxEvent) : Persists db (outboxStep sha256 gates outboxIdFor db e) := by
  cases e with
  | leased createdAt locked now limit leaseMs =>
    simp only [outboxStep]
    cases hlease : leaseDueAlerts createdAt locked db now limit leaseMs with
    | error violation => exact .refl db
    | ok a => exact .of_map (leaseDueAlerts_ok hlease).2 (leaseRow_outboxId _ _)
  | settled outboxId deliveries status attempts nextAttemptAt =>
    simp only [outboxStep]
    cases hsettle : settleAlert db outboxId deliveries status attempts nextAttemptAt with
    | error violation => exact .refl db
    | ok db' =>
      have hrows := @settleAlert_ok db db' outboxId ⟨deliveries, status, attempts, nextAttemptAt⟩ hsettle
      exact .of_map hrows (settleRow_outboxId _ _ _ _)
  | evaluated _ | raised _ _ _ _ | acknowledged _ _ _ | tenantAcknowledged _ _ _ _ => exact undrained_persists _ _ _ db rfl

theorem commitMeanwhile_persists (meanwhile : String → List OutboxEvent) (db : AlertDb) (row : AlertOutboxRow) :
    Persists db (commitMeanwhile sha256 gates outboxIdFor meanwhile db row) := by
  unfold commitMeanwhile
  induction meanwhile row.outboxId generalizing db with
  | nil => exact .refl db
  | cons e events ih => exact (outboxStep_persists sha256 gates outboxIdFor db e).trans (ih _)

end Others

/-! ## Decoding -/

section Decode

variable {gates : String → Except String Unit}

theorem decode_eq_none {value : Json} : decodeNotification gates value = .ok none ↔ readContext value = none := by
  unfold decodeNotification
  cases readContext value with
  | none => simp
  | some ctx => cases h : sanitize gates ctx <;> simp [h, Except.map]

theorem decode_eq_some {value : Json} {payload : NotificationPayload} :
    decodeNotification gates value = .ok (some payload) ↔
      ∃ ctx, readContext value = some ctx ∧ sanitize gates ctx = .ok payload := by
  unfold decodeNotification
  cases readContext value with
  | none => simp
  | some ctx => cases h : sanitize gates ctx <;> simp [h, Except.map]

theorem mapM_string? (texts : List String) : texts.mapM (Json.string? ∘ Json.str) = some texts := by
  induction texts with
  | nil => rfl
  | cons text texts ih => simp [List.mapM_cons, Json.string?, ih]

theorem find?_alertStates (state : AlertState) : alertStates.find? (·.text = state.text) = some state := by
  cases state <;> decide

theorem find?_verdicts (v : Verdict) : verdicts.find? (·.text = v.text) = some v := by
  cases v <;> decide

/-- The fields that a payload and its context share. -/
def NotificationPayload.context (p : NotificationPayload) : AlertContext where
  dedupKey := p.dedupKey
  deploymentId := p.deploymentId
  ruleId := p.ruleId
  state := p.state
  severity := p.severity
  occurrences := p.occurrences
  reasonCodes := p.reasonCodes
  observedAt := p.observedAt
  expiresAt := p.expiresAt
  fresh := p.fresh
  evidenceHash := p.contentHash
  evidenceSchemaVersion := p.schemaVersion

theorem asOccurrences_eq_some {m n : Nat} : asOccurrences m = some n ↔ m = n ∧ 1 ≤ m ∧ m ≤ 2 ^ 53 - 1 := by
  unfold asOccurrences
  split
  · rename_i h
    simp only [Bool.and_eq_true, decide_eq_true_eq] at h
    simp only [Int.toNat_natCast, Option.some.injEq, iff_self_and]
    omega
  · rename_i h
    simp only [Bool.and_eq_true, decide_eq_true_eq] at h
    simp only [reduceCtorEq, false_iff]
    omega

/-- The fields of a payload's text. -/
theorem toJson_fields (p : NotificationPayload) :
    p.toJson.field? "schema" = some (.str notificationSchema) ∧
      p.toJson.field? "dedupKey" = some (.str p.dedupKey) ∧
      p.toJson.field? "deploymentId" = some (.str p.deploymentId) ∧
      p.toJson.field? "ruleId" = some (.str p.ruleId) ∧
      p.toJson.field? "state" = some (.str p.state.text) ∧
      p.toJson.field? "severity" = some (.str p.severity.text) ∧
      p.toJson.field? "occurrences" = some (.num p.occurrences) ∧
      p.toJson.field? "reasonCodes" = some (.arr (p.reasonCodes.map .str)) ∧
      p.toJson.field? "summary" = some (.str p.summary) := by
  refine ⟨?_, ?_, ?_, ?_, ?_, ?_, ?_, ?_, ?_⟩ <;> simp [NotificationPayload.toJson, Json.field?, List.lookup_cons]

theorem toJson_freshness (p : NotificationPayload) :
    ∃ freshness, p.toJson.field? "freshness" = some freshness ∧
      stringAt "observedAt" freshness = some p.observedAt ∧ stringAt "expiresAt" freshness = some p.expiresAt ∧
      (freshness.field? "fresh").bind Json.bool? = some p.fresh := by
  refine ⟨.obj [("observedAt", .str p.observedAt), ("expiresAt", .str p.expiresAt), ("fresh", .bool p.fresh)], ?_⟩
  simp [NotificationPayload.toJson, stringAt, Json.field?, Json.string?, Json.bool?, List.lookup_cons]

theorem toJson_evidence (p : NotificationPayload) :
    ∃ evidence, p.toJson.field? "evidence" = some evidence ∧
      stringAt "contentHash" evidence = some p.contentHash ∧
      stringAt "schemaVersion" evidence = some p.schemaVersion ∧
      stringAt "retrievePath" evidence = some p.retrievePath := by
  refine ⟨.obj [("contentHash", .str p.contentHash), ("schemaVersion", .str p.schemaVersion),
    ("retrievePath", .str p.retrievePath)], ?_⟩
  simp [NotificationPayload.toJson, stringAt, Json.field?, Json.string?, List.lookup_cons]

/-- What is read back from a payload's own text: its context, if the count of its occurrences can be read. -/
theorem readContext_toJson (p : NotificationPayload) :
    readContext p.toJson = (asOccurrences p.occurrences).map fun occurrences => { p.context with occurrences } := by
  obtain ⟨hschema, hkey, hdeployment, hrule, hstateText, hseverityText, hcount, hreasons, hsummary⟩ := toJson_fields p
  obtain ⟨freshness, hfreshness, hobserved, hexpires, hfresh⟩ := toJson_freshness p
  obtain ⟨evidence, hevidence, hhash, hversion, hpath⟩ := toJson_evidence p
  have htop : ∀ {name text}, p.toJson.field? name = some (.str text) → stringAt name p.toJson = some text := by
    intro name text h
    rw [stringAt, h]
    rfl
  unfold readContext
  rw [htop hschema, htop hkey, htop hdeployment, htop hrule, htop hstateText, htop hseverityText, htop hsummary,
    hcount, hreasons, hfreshness, hevidence]
  cases hoccurrences : asOccurrences p.occurrences <;>
    simp [Json.elements?, Json.int?, mapM_string?, find?_alertStates, find?_verdicts, hoccurrences, hhash, hversion,
      hpath, hobserved, hexpires, hfresh, NotificationPayload.context]

/-- The payload that `sanitize` builds. -/
def payloadOf (ctx : AlertContext) : NotificationPayload where
  dedupKey := ctx.dedupKey
  deploymentId := ctx.deploymentId
  ruleId := ctx.ruleId
  state := ctx.state
  severity := ctx.severity
  occurrences := ctx.occurrences
  reasonCodes := ctx.reasonCodes.filter isReasonCode
  summary := statePrefix ctx.state ++ ": " ++ summaryText ctx.severity
  observedAt := ctx.observedAt
  expiresAt := ctx.expiresAt
  fresh := ctx.fresh
  contentHash := ctx.evidenceHash
  schemaVersion := ctx.evidenceSchemaVersion
  retrievePath := "/v1/alerts/" ++ ctx.dedupKey

theorem sanitize_eq_ok {ctx : AlertContext} {payload : NotificationPayload} :
    sanitize gates ctx = .ok payload ↔ isId ctx.deploymentId = true ∧ isId ctx.ruleId = true ∧
      isHex64 ctx.evidenceHash = true ∧ gates (payloadOf ctx).toJson.stringify = .ok () ∧ payloadOf ctx = payload := by
  unfold sanitize
  split
  · rename_i hids
    simp only [Bool.or_eq_true, Bool.not_eq_true'] at hids
    constructor
    · intro h
      cases h
    · rintro ⟨hdeployment, hrule, -⟩
      simp [hdeployment, hrule] at hids
  · rename_i hids
    simp only [Bool.or_eq_true, Bool.not_eq_true', not_or, Bool.not_eq_false] at hids
    split
    · rename_i hhash
      constructor
      · intro h
        cases h
      · rintro ⟨-, -, h, -⟩
        simp [h] at hhash
    · rename_i hhash
      simp only [Bool.not_eq_true', Bool.not_eq_false] at hhash
      change (gates (payloadOf ctx).toJson.stringify >>= fun _ => pure (payloadOf ctx)) = .ok payload ↔ _
      rw [bind_eq_ok]
      constructor
      · rintro ⟨_, hgates, h⟩
        exact ⟨hids.1, hids.2, hhash, hgates, Except.ok.inj h⟩
      · rintro ⟨-, -, -, hgates, h⟩
        exact ⟨(), hgates, congrArg Except.ok h⟩

/-- What is sanitized stays as it is. -/
theorem payloadOf_context (ctx : AlertContext) : payloadOf (payloadOf ctx).context = payloadOf ctx := by
  simp [payloadOf, NotificationPayload.context]

/-- A payload that `sanitize` produced decodes back to itself, as far as its occurrences are counted. -/
theorem decode_sanitized {ctx : AlertContext} {payload : NotificationPayload} (h : sanitize gates ctx = .ok payload) :
    decodeNotification gates payload.toJson = .ok (some payload) ↔
      1 ≤ payload.occurrences ∧ payload.occurrences ≤ 2 ^ 53 - 1 := by
  obtain ⟨hdeployment, hrule, hhash, hgates, rfl⟩ := sanitize_eq_ok.1 h
  rw [decode_eq_some, readContext_toJson]
  constructor
  · rintro ⟨back, hback, -⟩
    obtain ⟨n, hn, -⟩ := Option.map_eq_some_iff.1 hback
    exact (asOccurrences_eq_some.1 hn).2
  · intro hcount
    refine ⟨(payloadOf ctx).context, ?_, ?_⟩
    · rw [asOccurrences_eq_some.2 ⟨rfl, hcount⟩]
      rfl
    · have hsame := payloadOf_context ctx
      exact sanitize_eq_ok.2 ⟨hdeployment, hrule, hhash, hsame.symm ▸ hgates, hsame⟩

end Decode

/-! ## Reports -/

section Reports

variable {notifier : Notifier} {outboxId : String} {payload : NotificationPayload} {target : AlertTarget} {i : Nat}
  {report : DeliveryReport}

/-- A report is of a skipped target exactly if the target skips the payload, and of a delivery only if the post
succeeded. -/
theorem deliver_outcome (h : deliver notifier outboxId payload target i = some report) :
    (report.outcome = .skipped ↔ target.skips payload = true) ∧
      (report.outcome = .delivered → target.skips payload = false ∧ ∃ url response,
        notifier.resolve target.secretRef = some url ∧
        notifier.post outboxId i url payload.toJson.stringify = some (.ok response) ∧ response.ok = true) := by
  unfold deliver at h
  simp only at h
  split at h
  · rename_i hskips
    simp [← Option.some.inj h, hskips]
  · rename_i hskips
    split at h
    · simp [← Option.some.inj h, hskips]
    · simp [← Option.some.inj h, hskips]
    · rename_i url _ hurl
      split at h
      · simp [← Option.some.inj h, hskips]
      · obtain ⟨answer, hanswer, rfl⟩ := Option.map_eq_some_iff.1 h
        cases answer with
        | error message => simp [hskips]
        | ok response =>
          cases hok : response.ok with
          | false => simp [hskips, hok]
          | true => exact ⟨by simp [hskips, hok], fun _ => ⟨by simpa using hskips, url, response, hurl, hanswer, hok⟩⟩

/-- A payload counts as sent only if a target was reached, or there are targets and each of them skips it. -/
theorem concluded_dispatch {reports : List DeliveryReport} (h : dispatch notifier outboxId payload = some reports)
    (hconcluded : concluded reports = true) :
    (∃ target, Delivered notifier outboxId payload target) ∨
      notifier.targets ≠ [] ∧ ∀ target ∈ notifier.targets, target.skips payload = true := by
  have hreports := mapM_eq_some.1 h
  simp only [concluded, Bool.or_eq_true, Bool.and_eq_true, List.any_eq_true, List.all_eq_true, decide_eq_true_eq]
    at hconcluded
  rcases hconcluded with ⟨report, hmem, hdelivered⟩ | ⟨hskipped, hpos⟩
  · obtain ⟨⟨target, i⟩, htarget, hdeliver⟩ := mem_of_forall₂ hreports report hmem
    obtain ⟨hskips, url, response, hsent⟩ := (deliver_outcome hdeliver).2 hdelivered
    have hat := List.mem_zipIdx_iff_getElem?.1 htarget
    exact Or.inl ⟨target, List.mem_of_getElem? hat, hskips, i, url, response, hsent⟩
  · refine Or.inr ⟨fun hnone => ?_, fun target htarget => ?_⟩
    · have hlength := hreports.length_eq
      rw [List.length_zipIdx, hnone] at hlength
      exact absurd hlength.symm hpos.ne'
    · obtain ⟨i, hi⟩ := List.mem_iff_getElem?.1 htarget
      obtain ⟨report, hmem, hdeliver⟩ :=
        exists_row_of_forall₂ hreports (List.mem_zipIdx_iff_getElem?.2 hi : (target, i) ∈ _)
      exact (deliver_outcome hdeliver).1.1 (hskipped report hmem)

end Reports

/-! ## One row -/

section Row

variable {sha256 : String → String} {gates : String → Except String Unit} {outboxIdFor : String → String}
  {options : DrainOptions} {notifier : Notifier} {stores : Json → Bool} {meanwhile : String → List OutboxEvent}
  {row : AlertOutboxRow}

/-- What the drain can carry through of a row: a payload that cannot be read, or one that is sanitized, whose posts are
all answered, and of whose reports the database takes the texts. -/
def Contained (gates : String → Except String Unit) (options : DrainOptions) (notifier : Notifier) (stores : Json → Bool)
    (row : AlertOutboxRow) : Prop :=
  ∀ ctx, readContext row.payload = some ctx → ∃ payload reports, sanitize gates ctx = .ok payload ∧
    dispatch notifier row.outboxId payload = some reports ∧
    ∀ d ∈ deliveriesOf options row reports, stores d.detail = true

/-- How a row is settled: abandoned if its payload cannot be read, and as sent only if a target was reached or each of
the targets skips it. -/
def SettledAs (notifier : Notifier) (gates : String → Except String Unit) (row : AlertOutboxRow) (next : Settlement) :
    Prop :=
  (readContext row.payload = none → next.status = .abandoned) ∧
    (next.status = .sent → ∃ payload, decodeNotification gates row.payload = .ok (some payload) ∧
      ((∃ target, Delivered notifier row.outboxId payload target) ∨
        notifier.targets ≠ [] ∧ ∀ target ∈ notifier.targets, target.skips payload = true))

/-- What is recorded of a payload that cannot be read. -/
def unreadDetail : Json := .obj [("reason", .str "stored payload does not match the notification schema")]

theorem thrown_eq_ok {α : Type} {x : Except String α} {a : α} : thrown x = .ok a ↔ x = .ok a := by
  cases x <;> simp [thrown]

theorem sendTurn_some {payload : NotificationPayload} {reports : List DeliveryReport} :
    sendTurn notifier row (some payload) = .ok reports ↔ dispatch notifier row.outboxId payload = some reports := by
  unfold sendTurn
  cases h : dispatch notifier row.outboxId payload <;> simp [h]

/-- What a turn reads, and the settlement it comes to. -/
theorem drainTurn_ok {turn : Turn} (h : drainTurn gates options notifier row = .ok turn) :
    settlement gates options (fun _ => turn.reports) row = .ok turn.next ∧
      (readContext row.payload = none ∨ ∃ payload, decodeNotification gates row.payload = .ok (some payload) ∧
        dispatch notifier row.outboxId payload = some turn.reports) := by
  obtain ⟨decoded, hdecoded, h⟩ := bind_eq_ok.1 h
  obtain ⟨reports, hreports, h⟩ := bind_eq_ok.1 h
  obtain ⟨next, hnext, h⟩ := bind_eq_ok.1 h
  obtain rfl := Except.ok.inj h
  rw [thrown_eq_ok] at hdecoded hnext
  refine ⟨hnext, ?_⟩
  cases decoded with
  | none => exact Or.inl (decode_eq_none.1 hdecoded)
  | some payload => exact Or.inr ⟨payload, hdecoded, sendTurn_some.1 hreports⟩

variable (gates options) in
theorem settlement_unread (dispatch : NotificationPayload → List DeliveryReport) (h : readContext row.payload = none) :
    ∃ next, settlement gates options dispatch row = .ok next ∧ next.deliveries.map (·.detail) = [unreadDetail] := by
  unfold settlement
  rw [decode_eq_none.2 h]
  exact ⟨_, rfl, rfl⟩

variable (options) in
theorem settlement_read {payload : NotificationPayload} (h : decodeNotification gates row.payload = .ok (some payload))
    (dispatch : NotificationPayload → List DeliveryReport) :
    ∃ next, settlement gates options dispatch row = .ok next ∧
      next.deliveries = deliveriesOf options row (dispatch payload) := by
  unfold settlement
  rw [h]
  exact ⟨_, rfl, rfl⟩

theorem settledAs_of_turn {turn : Turn} (h : drainTurn gates options notifier row = .ok turn) :
    SettledAs notifier gates row turn.next := by
  obtain ⟨hnext, hturn⟩ := drainTurn_ok h
  obtain ⟨-, -, hstatus⟩ := settlement_ok hnext
  rcases hstatus with ⟨hdecoded, hstatus⟩ | ⟨payload, hdecoded, hstatus⟩
  · exact ⟨fun _ => hstatus, fun hsent => by simp [hstatus] at hsent⟩
  · obtain ⟨ctx, hread, -⟩ := decode_eq_some.1 hdecoded
    refine ⟨fun hunread => by simp [hread] at hunread, fun hsent => ⟨payload, hdecoded, ?_⟩⟩
    rcases hturn with hunread | ⟨payload', hdecoded', hdispatch⟩
    · simp [hread] at hunread
    · obtain rfl : payload' = payload := Option.some.inj (Except.ok.inj (hdecoded'.symm.trans hdecoded))
      refine concluded_dispatch hdispatch ?_
      by_contra hnot
      rw [hstatus, if_neg hnot] at hsent
      split at hsent <;> cases hsent

/-- A row is carried as far as its settlement exactly if it is contained; the decoder's own record is always taken. -/
theorem contained_iff (hstores : stores unreadDetail = true) :
    Contained gates options notifier stores row ↔
      ∃ turn, drainTurn gates options notifier row = .ok turn ∧
        (turn.next.deliveries.all fun d => stores d.detail) = true := by
  constructor
  · intro h
    cases hread : readContext row.payload with
    | none =>
      -- an unreadable payload is abandoned with one fixed detail
      obtain ⟨next, hnext, hdetails⟩ := settlement_unread gates options (fun _ => []) hread
      refine ⟨⟨none, [], next⟩, ?_, ?_⟩
      · exact bind_eq_ok.2 ⟨none, thrown_eq_ok.2 (decode_eq_none.2 hread), bind_eq_ok.2 ⟨[], rfl,
          bind_eq_ok.2 ⟨next, thrown_eq_ok.2 hnext, rfl⟩⟩⟩
      · rw [List.all_eq_true]
        intro d hd
        have hdetail : d.detail ∈ next.deliveries.map (·.detail) := List.mem_map_of_mem hd
        rw [hdetails, List.mem_singleton] at hdetail
        rw [hdetail, hstores]
    | some ctx =>
      obtain ⟨payload, reports, hsanitize, hdispatch, hall⟩ := h ctx hread
      have hdecoded := decode_eq_some.2 ⟨ctx, hread, hsanitize⟩
      obtain ⟨next, hnext, hdeliveries⟩ := settlement_read options hdecoded fun _ => reports
      refine ⟨⟨some payload, reports, next⟩, ?_, ?_⟩
      · exact bind_eq_ok.2 ⟨some payload, thrown_eq_ok.2 hdecoded, bind_eq_ok.2 ⟨reports, sendTurn_some.2 hdispatch,
          bind_eq_ok.2 ⟨next, thrown_eq_ok.2 hnext, rfl⟩⟩⟩
      · rw [List.all_eq_true, hdeliveries]
        exact hall
  · rintro ⟨turn, hturn, hall⟩ ctx hread
    obtain ⟨hnext, hunread | ⟨payload, hdecoded, hdispatch⟩⟩ := drainTurn_ok hturn
    · simp [hread] at hunread
    · obtain ⟨ctx', hread', hsanitize⟩ := decode_eq_some.1 hdecoded
      obtain rfl := Option.some.inj (hread.symm.trans hread')
      obtain ⟨next, hnext', hdeliveries⟩ := settlement_read options hdecoded fun _ => turn.reports
      obtain rfl := Except.ok.inj (hnext.symm.trans hnext')
      rw [List.all_eq_true, hdeliveries] at hall
      exact ⟨payload, turn.reports, hsanitize, hdispatch, hall⟩

/-- The row is stored, and its attempts can be. -/
structure Ready (db : AlertDb) (row : AlertOutboxRow) : Prop where
  stored : ∃ r ∈ db.rows, r.outboxId = row.outboxId
  attempts : 0 ≤ row.attempts
  fits : fitsInteger row.attempts = true

theorem Ready.persists {db db' : AlertDb} (h : Ready db row) (hpersists : Persists db db') : Ready db' row := by
  obtain ⟨r, hr, hid⟩ := h.stored
  obtain ⟨r', hr', hid'⟩ := hpersists r hr
  exact ⟨⟨r', hr', hid'.trans hid⟩, h.attempts, h.fits⟩

/-- The transaction that settles a row commits exactly if the database takes what it records. -/
theorem settleTurn_commits {db : AlertDb} {turn : Turn} (hready : Ready db row)
    (hturn : drainTurn gates options notifier row = .ok turn)
    (hall : (turn.next.deliveries.all fun d => stores d.detail) = true) :
    ∃ db', settleTurn stores db row turn.next = .ok db' := by
  obtain ⟨r, hr, hid⟩ := hready.stored
  obtain ⟨hattempts, hdeliveries, -⟩ := settlement_ok (drainTurn_ok hturn).1
  have hdeliveries' : ∀ d ∈ turn.next.deliveries, d.outboxId = r.outboxId :=
    fun d hd => (hdeliveries d hd).trans hid.symm
  obtain ⟨db', hdb'⟩ := settleAlert_commits hr hdeliveries' (hattempts ▸ hready.attempts) (hattempts ▸ hready.fits)
  rw [hid] at hdb'
  refine ⟨db', ?_⟩
  unfold settleTurn
  rw [if_pos hall, hdb']

theorem settleTurn_ok {db db' : AlertDb} {next : Settlement} (h : settleTurn stores db row next = .ok db') :
    (next.deliveries.all fun d => stores d.detail) = true ∧ Persists db db' := by
  unfold settleTurn at h
  split at h
  · rename_i hall
    refine ⟨hall, ?_⟩
    split at h
    · cases h
    · rename_i hsettle
      obtain rfl := Except.ok.inj h
      exact .of_map (settleAlert_ok hsettle) (settleRow_outboxId _ _ _ _)
  · cases h

theorem drainRow_ok {s s' : Drain}
    (h : drainRow sha256 gates outboxIdFor options notifier stores meanwhile s row = .ok s') :
    ∃ turn, drainTurn gates options notifier row = .ok turn ∧
      (turn.next.deliveries.all fun d => stores d.detail) = true ∧
      s'.settled = s.settled ++ [(row.outboxId, turn.next)] ∧ Persists s.db s'.db := by
  obtain ⟨turn, hturn, h⟩ := bind_eq_ok.1 h
  obtain ⟨db, hdb, h⟩ := bind_eq_ok.1 h
  obtain rfl := Except.ok.inj h
  obtain ⟨hall, hpersists⟩ := settleTurn_ok hdb
  exact ⟨turn, hturn, hall, rfl, (commitMeanwhile_persists sha256 gates outboxIdFor meanwhile s.db row).trans hpersists⟩

theorem drainRow_commits {s : Drain} (hready : Ready s.db row) {turn : Turn}
    (hturn : drainTurn gates options notifier row = .ok turn)
    (hall : (turn.next.deliveries.all fun d => stores d.detail) = true) :
    ∃ s', drainRow sha256 gates outboxIdFor options notifier stores meanwhile s row = .ok s' := by
  have hbetween := hready.persists (commitMeanwhile_persists sha256 gates outboxIdFor meanwhile s.db row)
  obtain ⟨db', hdb'⟩ := settleTurn_commits hbetween hturn hall
  exact ⟨_, bind_eq_ok.2 ⟨turn, hturn, bind_eq_ok.2 ⟨db', hdb', rfl⟩⟩⟩

end Row

/-! ## The loop -/

section Loop

variable {sha256 : String → String} {gates : String → Except String Unit} {outboxIdFor : String → String}
  {options : DrainOptions} {notifier : Notifier} {stores : Json → Bool} {meanwhile : String → List OutboxEvent}

variable (sha256 gates outboxIdFor options notifier meanwhile) in
/-- The loop settles the rows in front of the first that is not contained, each once and in order, and no other. -/
theorem drainRows_settled (hstores : stores unreadDetail = true) (rows : List AlertOutboxRow) (s : Drain)
    (hready : ∀ row ∈ rows, Ready s.db row) :
    ∃ done rest, rows = done ++ rest ∧ (∀ row ∈ done, Contained gates options notifier stores row) ∧
      (∀ row ∈ rest.head?, ¬Contained gates options notifier stores row) ∧
      ∃ entries, (drainRows sha256 gates outboxIdFor options notifier stores meanwhile s rows).1.settled =
          s.settled ++ entries ∧
        List.Forall₂ (fun row entry => entry.1 = row.outboxId ∧ SettledAs notifier gates row entry.2) done entries := by
  induction rows generalizing s with
  | nil => exact ⟨[], [], rfl, by simp, by simp, [], by simp [drainRows], .nil⟩
  | cons row rows ih =>
    cases hrow : drainRow sha256 gates outboxIdFor options notifier stores meanwhile s row with
    | error failure =>
      refine ⟨[], row :: rows, rfl, by simp, ?_, [], by simp [drainRows, hrow], .nil⟩
      intro r hr hcontained
      obtain rfl : row = r := Option.some.inj hr
      -- a contained row would have been settled
      obtain ⟨turn, hturn, hall⟩ := (contained_iff hstores).1 hcontained
      obtain ⟨s', hs'⟩ := drainRow_commits (hready row List.mem_cons_self) hturn hall
      rw [hs'] at hrow
      cases hrow
    | ok s' =>
      obtain ⟨turn, hturn, hall, hsettled, hpersists⟩ := drainRow_ok hrow
      obtain ⟨done, rest, hrows, hdone, hrest, entries, hentries, hpairs⟩ :=
        ih s' fun r hr => (hready r (List.mem_cons_of_mem _ hr)).persists hpersists
      refine ⟨row :: done, rest, by rw [hrows, List.cons_append], ?_, hrest, (row.outboxId, turn.next) :: entries, ?_,
        .cons ⟨rfl, settledAs_of_turn hturn⟩ hpairs⟩
      · exact List.forall_mem_cons.2 ⟨(contained_iff hstores).2 ⟨turn, hturn, hall⟩, hdone⟩
      · simp only [drainRows, hrow]
        rw [hentries, hsettled, List.append_assoc, List.singleton_append]

/-- The rows that are leased are stored, apart from each other. -/
theorem leased_ready {createdAt : String → Int} {locked : List String} {db db' : AlertDb} {now : Int} {limit : Nat}
    {leaseMs : Int} {rows : List AlertOutboxRow}
    (h : leaseDueAlerts createdAt locked db now limit leaseMs = .ok (rows, db')) :
    (∀ row ∈ rows, Ready db' row) ∧ (rows.map AlertOutboxRow.outboxId).Nodup := by
  obtain ⟨rfl, hdb'⟩ := leaseDueAlerts_ok h
  constructor
  · intro row hrow
    obtain ⟨r, hr, rfl⟩ := List.mem_map.1 hrow
    have hleased : r.outboxId ∈ (dueRows createdAt locked db now limit).map (·.outboxId) := List.mem_map_of_mem hr
    have hstored := List.mem_map_of_mem (f := leaseRow ((dueRows createdAt locked db now limit).map (·.outboxId))
      (now + leaseMs)) (mem_dueRows hr).1
    rw [← hdb'] at hstored
    have hcheck := AlertOutboxRow.check_eq_ok.1 (db'.alertOutbox.checks _ hstored)
    rw [leaseRow, if_pos hleased, Bool.and_eq_true] at hcheck
    exact ⟨⟨_, hstored, leaseRow_outboxId _ _ r⟩, hcheck.2.1, hcheck.1.1⟩
  · rw [List.map_map]
    exact dueRows_nodup

/-- Whatever is stored in the leased rows and whatever the transport does: the drain settles every leased row exactly
once, if and only if each of them is contained. What it settles is settled as it should be, and a payload that
`sanitize` produced decodes back to itself exactly if its occurrences are counted from 1 to 2^53 - 1. -/
theorem drain_isolated_iff {createdAt : String → Int} {locked : List String} {db : AlertDb}
    {rows : List AlertOutboxRow} {drain : Drain} {failure : Option DrainFailure}
    (hstores : stores unreadDetail = true)
    (h : drainOutbox sha256 gates outboxIdFor options notifier stores meanwhile createdAt locked db =
      .ok (rows, drain, failure)) :
    (drain.settled.map Prod.fst = rows.map AlertOutboxRow.outboxId ↔
      ∀ row ∈ rows, Contained gates options notifier stores row) ∧
    (drain.settled.map Prod.fst).Nodup ∧
    (∀ entry ∈ drain.settled, ∃ row ∈ rows, entry.1 = row.outboxId ∧ SettledAs notifier gates row entry.2) ∧
    ∀ ctx payload, sanitize gates ctx = .ok payload →
      (decodeNotification gates payload.toJson = .ok (some payload) ↔
        1 ≤ payload.occurrences ∧ payload.occurrences ≤ 2 ^ 53 - 1) := by
  obtain ⟨⟨leased, leasedDb⟩, hlease, h⟩ := bind_eq_ok.1 h
  obtain ⟨rfl, hdrain⟩ := Prod.mk.inj (Except.ok.inj h)
  obtain ⟨hready, hnodup⟩ := leased_ready hlease
  -- the drain settles the rows up to the first that is not contained
  obtain ⟨done, rest, rfl, hdone, hrest, entries, hentries, hpairs⟩ :=
    drainRows_settled sha256 gates outboxIdFor options notifier meanwhile hstores leased
      ⟨leasedDb, [], { leased := leased.length, delivered := 0, retrying := 0, abandoned := 0, undecodable := 0 }⟩ hready
  obtain rfl : drain.settled = entries := by
    exact (congrArg (fun d => d.1.settled) hdrain).symm.trans hentries
  have hids : drain.settled.map Prod.fst = done.map AlertOutboxRow.outboxId := keys_of_forall₂ hpairs
  rw [hids]
  refine ⟨⟨fun hall => ?_, fun hall => ?_⟩, ?_, fun entry hentry => ?_, fun ctx payload => decode_sanitized⟩
  · have hlength := congrArg List.length hall
    simp only [List.length_map, List.length_append] at hlength
    obtain rfl := List.eq_nil_of_length_eq_zero (by omega : rest.length = 0)
    simpa using hdone
  · cases rest with
    | nil => rw [List.append_nil]
    | cons row rest => exact absurd (hall row (by simp)) (hrest row rfl)
  · rw [List.map_append] at hnodup
    exact hnodup.of_append_left
  · obtain ⟨row, hrow, hid, hsettled⟩ := mem_of_forall₂ hpairs entry hentry
    exact ⟨row, List.mem_append_left _ hrow, hid, hsettled⟩

end Loop

/-! ### A digest that is no sha256 -/

def sampleNotice (contentHash : String) : NotificationPayload where
  dedupKey := "sample"
  deploymentId := "quickstart-healthy"
  ruleId := "home-collateral"
  state := .firstSeen
  severity := .critical
  occurrences := 1
  reasonCodes := ["COLLATERAL_SHORTFALL"]
  summary := "Opened: observed."
  observedAt := "2026-05-29T12:00:00.000Z"
  expiresAt := "2026-05-29T12:05:00.000Z"
  fresh := true
  contentHash
  schemaVersion := "ictt-sentinel/evidence-bundle/v1"
  retrievePath := "/v1/alerts/sample"

def sampleQueued (outboxId contentHash : String) : AlertOutboxRow where
  outboxId
  deploymentId := "quickstart-healthy"
  incidentKey := "aaaaaaaaaaaaaaaaaaaaaaaaaaaaaaaaaaaaaaaaaaaaaaaaaaaaaaaaaaaaaaaa"
  evaluationId := none
  dedupKey := outboxId
  payload := (sampleNotice contentHash).toJson
  status := .pending
  attempts := 0
  ruleId := none
  reasonCode := none
  verdictFrom := none
  verdictTo := some .critical
  evidenceDigest := none
  lifecycleState := .firstSeen
  occurrences := 1
  firstSeenAt := 0
  lastSeenAt := 0
  acknowledgedBy := none
  acknowledgedAt := none
  recoveredAt := none
  nextAttemptAt := 0

theorem sampleQueued_check (outboxId contentHash : String) : (sampleQueued outboxId contentHash).check = .ok () := by
  rw [AlertOutboxRow.check_eq_ok]
  refine ⟨?_, le_refl _, le_refl _, rfl, ?_, rfl, rfl⟩
  · show (fitsInteger 0 && fitsInteger (1 : Nat)) = true
    decide
  · show matchesHex "" 64 "aaaaaaaaaaaaaaaaaaaaaaaaaaaaaaaaaaaaaaaaaaaaaaaaaaaaaaaaaaaaaaaa" = true
    decide +kernel

/-- Two rows are queued; the digest of the first is as given. -/
def sampleQueue (contentHash : String) : AlertDb where
  deployments := ["quickstart-healthy"]
  evaluations := []
  deploymentTenants := []
  alertOutbox :=
    { table := ⟨[sampleQueued "first" contentHash,
        sampleQueued "second" "eeeeeeeeeeeeeeeeeeeeeeeeeeeeeeeeeeeeeeeeeeeeeeeeeeeeeeeeeeeeeeee"], by simp [sampleQueued]⟩
      ids := by simp [sampleQueued]
      checks := by
        intro r hr
        simp only [List.mem_cons, List.not_mem_nil, or_false] at hr
        rcases hr with rfl | rfl
        · exact sampleQueued_check _ _
        · exact sampleQueued_check _ _ }
  alertDeliveries := ∅

/-- One target, whose posts succeed. -/
def sampleNotifier : Notifier where
  targets := [⟨"ops", "OPS_WEBHOOK", .warn⟩]
  resolve _ := some "https://hooks.test/ops"
  checkTargetUrl _ := none
  reason := id
  post _ _ _ _ := some (.ok ⟨200, true⟩)

def sampleDrained (contentHash : String) : Except Violation (List AlertOutboxRow × Drain × Option DrainFailure) :=
  drainOutbox id (fun _ => .ok ()) id (sampleDrain 1000) sampleNotifier (fun _ => true) (fun _ => []) (fun _ => 0) []
    (sampleQueue contentHash)

/-- The first row is read, and thrown at by the decoder: neither it nor the row behind it is settled. -/
theorem unsanitizable_row_ends_drain :
    (sampleDrained "nope").toOption.map
        (fun d => (d.1.map AlertOutboxRow.outboxId, d.2.1.settled.map Prod.fst, d.2.2)) =
      some (["first", "second"], [], some (.thrown "evidence hash is not a sha256 digest")) := by
  decide +kernel

/-- With a digest in its place both rows are settled. -/
theorem drain_isolated_iff_sample : ∃ rows drain failure,
    sampleDrained "eeeeeeeeeeeeeeeeeeeeeeeeeeeeeeeeeeeeeeeeeeeeeeeeeeeeeeeeeeeeeeee" = .ok (rows, drain, failure) ∧
    rows.map AlertOutboxRow.outboxId = ["first", "second"] ∧
    ∀ row ∈ rows, Contained (fun _ => .ok ()) (sampleDrain 1000) sampleNotifier (fun _ => true) row := by
  have hrun : (sampleDrained "eeeeeeeeeeeeeeeeeeeeeeeeeeeeeeeeeeeeeeeeeeeeeeeeeeeeeeeeeeeeeeee").toOption.map
      (fun d => (d.1.map AlertOutboxRow.outboxId, d.2.1.settled.map Prod.fst)) =
      some (["first", "second"], ["first", "second"]) := by
    decide +kernel
  cases hdrained : sampleDrained "eeeeeeeeeeeeeeeeeeeeeeeeeeeeeeeeeeeeeeeeeeeeeeeeeeeeeeeeeeeeeeee" with
  | error violation =>
    rw [hdrained] at hrun
    cases hrun
  | ok d =>
    rw [hdrained] at hrun
    obtain ⟨hleased, hsettled⟩ := Prod.mk.inj (Option.some.inj hrun)
    exact ⟨d.1, d.2.1, d.2.2, rfl, hleased, (drain_isolated_iff rfl hdrained).1.1 (hsettled.trans hleased.symm)⟩

end IcttSentinel.Alerts
