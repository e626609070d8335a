/-
`raiseAlert` of apps/agent/src/alerting.ts, which folds one signal into the outbox, and the two
callers that build its signals: the tick of apps/agent/src/runtime.ts and the economic run of
apps/agent/src/daemon.ts.
-/
import IcttSentinel.Alerts.Outbox
import IcttSentinel.Alerts.Sanitize

namespace IcttSentinel.Alerts

open IcttSentinel.Domain IcttSentinel.Lib IcttSentinel.Storage

structure AlertSignal where
  deploymentId : String
  evaluationId : Option String
  ruleId : String
  reasonCode : String
  previousVerdict : Option Verdict
  verdict : Verdict
  evidenceHash : String
  evidenceSchemaVersion : String
  reasonCodes : List String
  observedAt : String
  expiresAt : String
  fresh : Bool
  deriving DecidableEq, Repr

structure RaiseResult where
  dedupKey : String
  incidentKey : String
  written : Bool
  created : Bool
  notified : Bool
  closedIncidentRows : Nat
  deriving DecidableEq, Repr

def identityOf (signal : AlertSignal) : AlertIdentity where
  deploymentId := signal.deploymentId
  ruleId := signal.ruleId
  reasonCode := signal.reasonCode
  fromVerdict := signal.previousVerdict
  toVerdict := signal.verdict
  evidenceDigest := signal.evidenceHash

/-- `toRecord`: the record of a stored row, under the identity of the signal at hand. -/
def toRecord (row : AlertOutboxRow) (identity : AlertIdentity) : AlertRecord where
  dedupKey := row.dedupKey
  identity
  state := row.lifecycleState
  firstSeenAt := row.firstSeenAt
  lastSeenAt := row.lastSeenAt
  occurrences := row.occurrences
  currentVerdict := row.verdictTo.getD identity.toVerdict
  acknowledgedBy := row.acknowledgedBy
  acknowledgedAt := row.acknowledgedAt
  recoveredAt := row.recoveredAt

/-- `before`: the record under the dedup key, else the newest open one of the incident. -/
def beforeOf (context : IncidentContext) (identity : AlertIdentity) : Option AlertRecord :=
  match context.existing with
  | some existing => some (toRecord existing identity)
  | none => context.openIncident.map (toRecord · identity)

/-- A signal worse than nothing: the row of one that nothing precedes. -/
def AlertSignal.escalates (signal : AlertSignal) : Bool := isEscalation signal.previousVerdict signal.verdict

/-- The record is at a breach and the signal is an OK. -/
def recovers (before : Option AlertRecord) (signal : AlertSignal) : Bool :=
  before.any fun b => isRecovery (some b.currentVerdict) signal.verdict

section Raise

variable (sha256 : String → String)

/-- `after`: the record once the signal is folded in. -/
def afterOf (context : IncidentContext) (signal : AlertSignal) (now : Int) : AlertRecord :=
  foldSignal sha256 (beforeOf context (identityOf signal)) { identity := identityOf signal, observedAt := now }

variable (outboxIdFor : String → String) in
/-- `row`: an alert nobody should be paged about is stored, not queued. -/
def outboxRow (existing : Option AlertOutboxRow) (signal : AlertSignal) (now : Int) (after : AlertRecord) (notify : Bool)
    (payload : NotificationPayload) : AlertOutboxRow where
  outboxId := (existing.map (·.outboxId)).getD (outboxIdFor (dedupKey sha256 (identityOf signal)))
  deploymentId := signal.deploymentId
  incidentKey := incidentKey sha256 (identityOf signal)
  evaluationId := signal.evaluationId
  dedupKey := dedupKey sha256 (identityOf signal)
  payload := payload.toJson
  status := if notify then .pending else (existing.map (·.status)).getD .sent
  attempts := (existing.map (·.attempts)).getD 0
  ruleId := some signal.ruleId
  reasonCode := some signal.reasonCode
  verdictFrom := some signal.previousVerdict
  verdictTo := some after.currentVerdict
  evidenceDigest := some signal.evidenceHash
  lifecycleState := after.state
  occurrences := after.occurrences
  firstSeenAt := after.firstSeenAt
  lastSeenAt := after.lastSeenAt
  acknowledgedBy := after.acknowledgedBy
  acknowledgedAt := after.acknowledgedAt
  recoveredAt := after.recoveredAt
  nextAttemptAt := now

variable (gates : String → Except String Unit) (outboxIdFor : String → String)

/-- The fold that `raiseAlert` hands to `foldAlert`; what it leaves behind is `decision.notified`. -/
def raiseFold (signal : AlertSignal) (now : Int) (context : IncidentContext) : Except String (FoldDecision × Bool) := do
  let before := beforeOf context (identityOf signal)
  let after := afterOf sha256 context signal now
  if before.isNone && !signal.escalates then
    return ({ row := none, closeIncident := false }, false)
  else
    let notify := shouldNotify before after
    let payload ← sanitize gates {
      dedupKey := dedupKey sha256 (identityOf signal)
      deploymentId := signal.deploymentId
      ruleId := signal.ruleId
      state := after.state
      severity := after.currentVerdict
      occurrences := after.occurrences
      reasonCodes := signal.reasonCodes
      observedAt := signal.observedAt
      expiresAt := signal.expiresAt
      fresh := signal.fresh
      evidenceHash := signal.evidenceHash
      evidenceSchemaVersion := signal.evidenceSchemaVersion }
    return ({ row := some (outboxRow sha256 outboxIdFor context.existing signal now after notify payload),
              closeIncident := recovers before signal }, notify)

/-- `raiseAlert`: fold one signal into the outbox. `dbNow` is the clock of the database. -/
def raiseAlert (ties : AlertOutboxRow → Nat) (db : AlertDb) (signal : AlertSignal) (now dbNow : Int) :
    Except FoldFailure (RaiseResult × AlertDb) :=
  let incidentKey := incidentKey sha256 (identityOf signal)
  let dedupKey := dedupKey sha256 (identityOf signal)
  match foldAlert ties db incidentKey dedupKey dbNow (raiseFold sha256 gates outboxIdFor signal now) with
  | .error failure => .error failure
  | .ok (result, notified, db) => .ok (
    { dedupKey
      incidentKey
      written := result.row.isSome
      created := result.created
      notified := result.row.isSome && notified
      closedIncidentRows := result.closed }, db)

/-! ## What a raised signal leaves -/

variable {sha256 gates outboxIdFor}

/-- The ids and the digest of the signal have the shape a notification needs. -/
structure AlertSignal.Shaped (signal : AlertSignal) : Prop where
  deploymentId : isId signal.deploymentId = true
  ruleId : isId signal.ruleId = true
  evidenceHash : isHex64 signal.evidenceHash = true

/-- The context of the signal's fold. -/
def contextOf (sha256 : String → String) (ties : AlertOutboxRow → Nat) (db : AlertDb) (signal : AlertSignal) :
    IncidentContext :=
  incidentContext ties db (incidentKey sha256 (identityOf signal)) (dedupKey sha256 (identityOf signal))

/-- The rows once the open ones of the signal's incident are closed, if the signal recovers it. -/
def closedRows (sha256 : String → String) (db : AlertDb) (before : Option AlertRecord) (signal : AlertSignal)
    (dbNow : Int) : List AlertOutboxRow :=
  if recovers before signal then db.rows.map (closeRow (incidentKey sha256 (identityOf signal)) dbNow) else db.rows

/-- A raised signal is passed over in silence, or a row is written for it, with the open rows of its
incident closed when it recovers the incident. -/
theorem raiseAlert_ok {ties : AlertOutboxRow → Nat} {db db' : AlertDb} {signal : AlertSignal} {now dbNow : Int}
    {result : RaiseResult} (h : raiseAlert sha256 gates outboxIdFor ties db signal now dbNow = .ok (result, db')) :
    let context := contextOf sha256 ties db signal
    let before := beforeOf context (identityOf signal)
    (∃ alertOutbox, db' = { db with alertOutbox }) ∧
      ((before = none ∧ signal.escalates = false ∧ db'.rows = db.rows ∧ result.notified = false) ∨
       (¬ (before = none ∧ signal.escalates = false) ∧ signal.Shaped ∧
        result.notified = shouldNotify before (afterOf sha256 context signal now) ∧
        ∃ payload, db'.rows = written (closedRows sha256 db before signal dbNow) context.existing
          (outboxRow sha256 outboxIdFor context.existing signal now (afterOf sha256 context signal now) result.notified
            payload))) := by
  intro context before
  unfold raiseAlert at h
  simp only at h
  split at h
  · cases h
  · rename_i foldResult notified db'' hfold
    obtain ⟨rfl, rfl⟩ := Prod.mk.inj (Except.ok.inj h)
    obtain ⟨decision, hdecision, hrow, hframe, hrows⟩ := foldAlert_ok hfold
    refine ⟨hframe, ?_⟩
    unfold raiseFold at hdecision
    simp only at hdecision
    split at hdecision
    · rename_i hsilent
      left
      obtain ⟨rfl, rfl⟩ := Prod.mk.inj (Except.ok.inj hdecision)
      simp only [Bool.and_eq_true, Option.isNone_iff_eq_none, Bool.not_eq_true'] at hsilent
      exact ⟨hsilent.1, hsilent.2, by simpa using hrows, by simp⟩
    · rename_i hwrites
      right
      simp only [Bool.and_eq_true, Option.isNone_iff_eq_none, Bool.not_eq_true'] at hwrites
      obtain ⟨payload, hpayload, hend⟩ := bind_eq_ok.1 hdecision
      obtain ⟨rfl, rfl⟩ := Prod.mk.inj (Except.ok.inj hend)
      -- the payload passed sanitize, so the identity of the signal has its shape
      obtain ⟨hdeployment, hrule, hhash⟩ := sanitize_ok hpayload
      refine ⟨hwrites, ⟨hdeployment, hrule, hhash⟩, by simp [hrow, before, context, contextOf], payload, ?_⟩
      have hexisting : context.existing = db.alertOutbox.table.lookup (dedupKey sha256 (identityOf signal)) :=
        incidentContext_existing
      rw [← hexisting] at hrows
      simpa [hrow, closedRows, before, context, contextOf] using hrows

end Raise

/-! ## The callers -/

/-- What a tick of the replay evaluates to, as far as its signal carries it. -/
structure TickEvaluation where
  deploymentId : String
  evaluationId : Option String
  reasons : List String
  reasonCodes : List String
  verdict : Verdict
  stale : Bool
  observationDigest : String
  observedAt : String
  expiresAt : String

/-- The signal of `runDeploymentTick`; `previous` is the entry of `previousVerdict`. -/
def tickSignal (previous : Option Verdict) (evidenceSchemaVersion : String) (evaluation : TickEvaluation) :
    AlertSignal where
  deploymentId := evaluation.deploymentId
  evaluationId := evaluation.evaluationId
  ruleId := "replay-completeness"
  reasonCode := evaluation.reasons.head?.getD ("REPLAY_" ++ evaluation.verdict.text)
  previousVerdict := previous
  verdict := evaluation.verdict
  evidenceHash := evaluation.observationDigest
  evidenceSchemaVersion
  reasonCodes := evaluation.reasonCodes
  observedAt := evaluation.observedAt
  expiresAt := evaluation.expiresAt
  fresh := !evaluation.stale

/-- `digest` of the daemon. -/
def digest (sha256 : String → String) (domain value : String) : String := sha256 (domain ++ "\n" ++ value)

end IcttSentinel.Alerts
