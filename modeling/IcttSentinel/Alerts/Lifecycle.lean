/-
The alert lifecycle of packages/alerts/src/lifecycle.ts, and the step that
apps/agent/src/alerting.ts takes with it inside one fold: recover if the signal is a recovery,
otherwise open or observe, and page when `shouldNotify` says so.
-/
import IcttSentinel.Alerts.Dedup

namespace IcttSentinel.Alerts

open IcttSentinel.Domain

inductive AlertState where
  | firstSeen
  | repeated
  | escalated
  | acknowledged
  | recovered
  deriving DecidableEq, Repr

/-- `AlertRecord`; a `Date` is its time value in milliseconds. -/
structure AlertRecord where
  dedupKey : String
  identity : AlertIdentity
  state : AlertState
  firstSeenAt : Int
  lastSeenAt : Int
  occurrences : Nat
  currentVerdict : Verdict
  acknowledgedBy : Option String
  acknowledgedAt : Option Int
  recoveredAt : Option Int
  deriving DecidableEq, Repr

structure Observation where
  identity : AlertIdentity
  observedAt : Int
  deriving DecidableEq, Repr

/-- `open`: the record of the first observation of an identity. -/
def AlertRecord.open (sha256 : String → String) (observation : Observation) : AlertRecord where
  dedupKey := Alerts.dedupKey sha256 observation.identity
  identity := observation.identity
  state := .firstSeen
  firstSeenAt := observation.observedAt
  lastSeenAt := observation.observedAt
  occurrences := 1
  currentVerdict := observation.identity.toVerdict
  acknowledgedBy := none
  acknowledgedAt := none
  recoveredAt := none

/-- `observe`: a repeat is counted, a worse verdict escalates, and neither rewinds the other. -/
def AlertRecord.observe (existing : AlertRecord) (observation : Observation) : AlertRecord :=
  let worse := isEscalation (some existing.currentVerdict) observation.identity.toVerdict
  { existing with
    state :=
      if worse then .escalated
      else if existing.state = .firstSeen then .repeated
      else existing.state
    lastSeenAt := observation.observedAt
    occurrences := existing.occurrences + 1
    currentVerdict := if worse then observation.identity.toVerdict else existing.currentVerdict }

/-- `acknowledge`: mutes paging and touches no verdict. -/
def AlertRecord.acknowledge (existing : AlertRecord) (by_ : String) (at_ : Int) : AlertRecord :=
  { existing with
    state := if existing.state = .recovered then .recovered else .acknowledged
    acknowledgedBy := some by_
    acknowledgedAt := some at_ }

/-- `recover`: closes on a genuine return to OK, and is `null` otherwise. -/
def AlertRecord.recover (existing : AlertRecord) (to_ : Verdict) (at_ : Int) : Option AlertRecord :=
  if isRecovery (some existing.currentVerdict) to_ then
    some { existing with
      state := .recovered
      currentVerdict := to_
      lastSeenAt := at_
      recoveredAt := some at_ }
  else none

def shouldNotify (before : Option AlertRecord) (after : AlertRecord) : Bool :=
  if after.state = .acknowledged then false
  else match before with
    | none => after.state = .firstSeen
    | some before =>
      if after.state = .recovered && before.state ≠ .recovered then true
      else after.state = .escalated && before.state ≠ .escalated

/-- `after` in `raiseAlert`: the record of the incident once the signal has been folded in. -/
def foldSignal (sha256 : String → String) (before : Option AlertRecord) (observation : Observation) :
    AlertRecord :=
  match before with
  | none => .open sha256 observation
  | some before =>
    (before.recover observation.identity.toVerdict observation.observedAt).getD (before.observe observation)

/-- `notify` in `raiseAlert`. A signal that opens nothing is not recorded and pages nobody. -/
def pages (sha256 : String → String) (before : Option AlertRecord) (observation : Observation) : Bool :=
  if before = none && !isEscalation observation.identity.fromVerdict observation.identity.toVerdict then false
  else shouldNotify before (foldSignal sha256 before observation)

/-! ## What one signal does to the record -/

section Step

variable (sha256 : String → String) {r : AlertRecord} {o : Observation}

theorem foldSignal_recovery (h : isRecovery (some r.currentVerdict) o.identity.toVerdict = true) :
    (foldSignal sha256 (some r) o).state = .recovered ∧
      (foldSignal sha256 (some r) o).currentVerdict = .ok := by
  rw [← (isRecovery_some.1 h).2]
  simp [foldSignal, AlertRecord.recover, h]

theorem foldSignal_escalation (h : isEscalation (some r.currentVerdict) o.identity.toVerdict = true) :
    (foldSignal sha256 (some r) o).state = .escalated ∧
      (foldSignal sha256 (some r) o).currentVerdict = o.identity.toVerdict := by
  simp [foldSignal, AlertRecord.recover, AlertRecord.observe, h, isRecovery_of_isEscalation h]

theorem foldSignal_repeat (hr : isRecovery (some r.currentVerdict) o.identity.toVerdict = false)
    (he : isEscalation (some r.currentVerdict) o.identity.toVerdict = false) :
    (foldSignal sha256 (some r) o).state = (if r.state = .firstSeen then .repeated else r.state) ∧
      (foldSignal sha256 (some r) o).currentVerdict = r.currentVerdict := by
  simp [foldSignal, AlertRecord.recover, AlertRecord.observe, hr, he]

/-- A worse observation pages exactly when the record was not already escalated. -/
theorem pages_escalation (h : isEscalation (some r.currentVerdict) o.identity.toVerdict = true) :
    pages sha256 (some r) o = true ↔ r.state ≠ .escalated := by
  have hs := (foldSignal_escalation sha256 h).1
  simp [pages, shouldNotify, hs]

end Step

end IcttSentinel.Alerts
