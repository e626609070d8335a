/-
The notifier payload of packages/alerts/src/sanitize.ts: built from an allowlist of fields, and
refused when an id or a digest has another shape or the serialised text does not pass the last gate.
-/
import IcttSentinel.Alerts.Lifecycle
import IcttSentinel.Storage.Schema

namespace IcttSentinel.Alerts

open IcttSentinel.Domain IcttSentinel.Lib IcttSentinel.Storage

def notificationSchema : String := "ictt-sentinel/alert-notification/v1"

def AlertState.text : AlertState → String
  | .firstSeen => "first_seen"
  | .repeated => "repeated"
  | .escalated => "escalated"
  | .acknowledged => "acknowledged"
  | .recovered => "recovered"

structure AlertContext where
  dedupKey : String
  deploymentId : String
  ruleId : String
  state : AlertState
  severity : Verdict
  occurrences : Nat
  reasonCodes : List String
  observedAt : String
  expiresAt : String
  fresh : Bool
  evidenceHash : String
  evidenceSchemaVersion : String

structure NotificationPayload where
  dedupKey : String
  deploymentId : String
  ruleId : String
  state : AlertState
  severity : Verdict
  occurrences : Nat
  reasonCodes : List String
  summary : String
  observedAt : String
  expiresAt : String
  fresh : Bool
  contentHash : String
  schemaVersion : String
  retrievePath : String

def NotificationPayload.toJson (p : NotificationPayload) : Json := .obj [
  ("schema", .str notificationSchema),
  ("dedupKey", .str p.dedupKey),
  ("deploymentId", .str p.deploymentId),
  ("ruleId", .str p.ruleId),
  ("state", .str p.state.text),
  ("severity", .str p.severity.text),
  ("occurrences", .num p.occurrences),
  ("reasonCodes", .arr (p.reasonCodes.map .str)),
  ("summary", .str p.summary),
  ("freshness", .obj [("observedAt", .str p.observedAt), ("expiresAt", .str p.expiresAt), ("fresh", .bool p.fresh)]),
  ("evidence", .obj [("contentHash", .str p.contentHash), ("schemaVersion", .str p.schemaVersion),
    ("retrievePath", .str p.retrievePath)])]

/-- `SUMMARY`. -/
def summaryText : Verdict → String
  | .ok => "Observed onchain coverage reconciled at the pinned blocks."
  | .warn => "Policy or liveness deviation observed. This is not evidence of an economic breach."
  | .unknown =>
    "Could not be established from the available evidence. Treat as unresolved, not as healthy."
  | .critical => "Deterministic accounting breach observed with sufficient evidence at pinned blocks."

/-- `STATE_PREFIX`. -/
def statePrefix : AlertState → String
  | .firstSeen => "Opened"
  | .repeated => "Still open"
  | .escalated => "Escalated"
  | .acknowledged => "Acknowledged (paging muted; the condition may still be live)"
  | .recovered => "Recovered"

/-! ## Shapes -/

/-- `REASON_CODE`, `^[A-Z][A-Z0-9_]{1,63}$`. -/
def isReasonCode (s : String) : Bool :=
  match s.toList with
  | [] => false
  | c :: cs => c.isUpper && decide (1 ≤ cs.length) && decide (cs.length ≤ 63) &&
      cs.all fun c => c.isUpper || c.isDigit || c = '_'

/-- `HEX64`, `^[0-9a-f]{64}$`. -/
def isHex64 (s : String) : Bool := matchesHex "" 64 s

/-- `ID`, `^[a-z0-9][a-z0-9._-]{0,126}$` in either case. -/
def isId (s : String) : Bool :=
  match s.toList with
  | [] => false
  | c :: cs => c.isAlphanum && decide (cs.length ≤ 126) && cs.all fun c => c.isAlphanum || c = '.' || c = '_' || c = '-'

/-- No id contains the separator of the key texts. -/
theorem notMem_of_isId {s : String} (h : isId s = true) : '|' ∉ s.toList := by
  unfold isId at h
  cases hs : s.toList with
  | nil => simp
  | cons c cs =>
    simp only [hs, Bool.and_eq_true, List.all_eq_true] at h
    obtain ⟨⟨hhead, -⟩, htail⟩ := h
    rw [List.mem_cons, not_or]
    refine ⟨?_, fun hmem => ?_⟩
    · rintro rfl
      exact absurd hhead (by decide)
    · exact absurd (htail _ hmem) (by decide)

theorem notMem_of_isHex64 {s : String} (h : isHex64 s = true) : '|' ∉ s.toList := by
  simp only [isHex64, matchesHex, Bool.and_eq_true, List.all_eq_true] at h
  intro hmem
  exact absurd (h.2 _ hmem) (by decide)

/-! ## The payload -/

/-- `sanitize`. The gates are `assertSecretFree` and `assertBoundedLanguage` over the serialised
payload. -/
def sanitize (gates : String → Except String Unit) (ctx : AlertContext) : Except String NotificationPayload :=
  if !isId ctx.deploymentId || !isId ctx.ruleId then .error "deployment or rule id has an unexpected shape"
  else if !isHex64 ctx.evidenceHash then .error "evidence hash is not a sha256 digest"
  else
    let payload : NotificationPayload :=
      { dedupKey := ctx.dedupKey
        deploymentId := ctx.deploymentId
        ruleId := ctx.ruleId
        state := ctx.state
        severity := ctx.severity
        occurrences := ctx.occurrences
        reasonCodes := ctx.reasonCodes.filter isReasonCode
        summary := statePrefix ctx.state ++ ": " ++ summaryText ctx.severity
        observedAt := ctx.observedAt
        expiresAt := ctx.expiresAt
        fresh := ctx.fresh
        contentHash := ctx.evidenceHash
        schemaVersion := ctx.evidenceSchemaVersion
        retrievePath := "/v1/alerts/" ++ ctx.dedupKey }
    do
      gates payload.toJson.stringify
      return payload

/-- A payload is only built for ids and a digest of the right shape. -/
theorem sanitize_ok {gates : String → Except String Unit} {ctx : AlertContext} {payload : NotificationPayload}
    (h : sanitize gates ctx = .ok payload) :
    isId ctx.deploymentId = true ∧ isId ctx.ruleId = true ∧ isHex64 ctx.evidenceHash = true := by
  unfold sanitize at h
  split at h
  · cases h
  · rename_i hids
    split at h
    · cases h
    · rename_i hhash
      simp only [Bool.or_eq_true, Bool.not_eq_true', not_or, Bool.not_eq_false] at hids hhash
      exact ⟨hids.1, hids.2, hhash⟩

end IcttSentinel.Alerts
