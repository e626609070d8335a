/-
The routes of the hosted API that a token opens, apps/api/src/server.ts over the store of apps/api/src/postgres.ts: a
request is authorized, is checked, and is answered from the rows of the token's tenant. A deployment that is someone
else's and one that does not exist are "the same 404".
-/
import IcttSentinel.Alerts.Outbox
import IcttSentinel.Api.Requests
import IcttSentinel.Evidence.Verify
import IcttSentinel.Lib.BigIntText
import IcttSentinel.Lib.TwoRuns
import IcttSentinel.Storage.HostedStore

namespace IcttSentinel.Api

open IcttSentinel.Alerts IcttSentinel.Domain IcttSentinel.InvariantCore IcttSentinel.Lib IcttSentinel.Storage
open IcttSentinel.Evidence (JsValue bundleOf entries? fieldOf property stringOf stringified verifyBundle)

/-! ## Requests -/

/-- What the routes take from the process they run in: the verifier's host, `toISOString`, and `options.auditId`. -/
structure ApiHost where
  verifier : Evidence.Host
  toISOString : Int → String
  auditId : String → String → Option String

/-- The routes, by their operation ids, with the parameters of their paths. -/
inductive Route where
  | openapi
  | live
  | ready
  | listDeployments
  | deploymentStatus (deploymentId : String)
  | verdictTimeline (deploymentId : String)
  | messageTimeline (deploymentId : String)
  | evidenceMetadata (deploymentId : String)
  | downloadEvidence (deploymentId digest : String)
  | ingestEvaluation
  | acknowledgeAlert (incidentKey : String)
  deriving DecidableEq, Repr

def Route.url : Route → String
  | .openapi => "/openapi.json"
  | .live => "/live"
  | .ready => "/ready"
  | .listDeployments => "/v1/deployments"
  | .deploymentStatus _ => "/v1/deployments/:deploymentId/status"
  | .verdictTimeline _ => "/v1/deployments/:deploymentId/verdicts"
  | .messageTimeline _ => "/v1/deployments/:deploymentId/messages"
  | .evidenceMetadata _ => "/v1/deployments/:deploymentId/evidence"
  | .downloadEvidence _ _ => "/v1/deployments/:deploymentId/evidence/:digest"
  | .ingestEvaluation => "/v1/ingest/evaluations"
  | .acknowledgeAlert _ => "/v1/alerts/:incidentKey/acknowledge"

def Route.method : Route → String
  | .ingestEvaluation | .acknowledgeAlert _ => "POST"
  | _ => "GET"

/-- A request, with what is read while it is served: whether the store is ready, the clock when a place is taken, when
the token is looked up and in the route itself, and the clock of the database. -/
structure ApiRequest where
  id : String
  route : Route
  authorization : Option String
  query : List (String × JsValue)
  idempotencyKey : Option String
  /-- The parsed body, or the status code of the error that parsing it ended with. -/
  body : Except Int JsValue
  storeReady : Bool
  takenAt : Int
  authenticatedAt : Int
  handledAt : Int
  dbNow : Int

/-- The state of the process and of the store. -/
structure ApiState where
  rate : RateLimiter
  registry : Registry
  hosted : Keyed HostedRow.key
  alertOutbox : AlertOutbox
  apiAuditLog : Keyed AuditEntry.auditId

/-- A route that refuses a request ends with the refusal. -/
abbrev Handler (α : Type) := Stateful ApiState Reply α

def read {α : Type} (f : ApiState → α) : Handler α := .op fun s => (.ok (f s), s)

/-- What is decided without the store. -/
def decided {α : Type} (answer : Except Reply α) : Handler α := .op fun s => (answer, s)

/-- The answer to a request that could not be read. -/
def Reply.failed (statusCode : Int) : Reply :=
  if statusCode = 413 then .refusal 413 "body-too-large"
  else if statusCode = 415 then .refusal 415 "unsupported-content-type"
  else .refusal 400 "invalid-request"

def Reply.success (entries : List (String × JsValue)) : Reply where
  status := 200
  body := .obj (("schemaVersion", .str apiVersion) :: entries)

def notFound : Reply := .refusal 404 "not-found"

/-! ## Authorization -/

section Authorization

variable (host : ApiHost) (r : ApiRequest)

def tokenHash (token : String) : String := host.verifier.sha256 ("ictt-sentinel/api-token/v1\n" ++ token)

/-- The token a request presents. -/
def ApiRequest.token : String :=
  match r.authorization with
  | some auth => if "Bearer ".toList.isPrefixOf auth.toList then String.ofList (auth.toList.drop 7) else ""
  | none => ""

def auditEntry (identity : Option TokenIdentity) (action : String) (outcome : AuditOutcome) (statusCode : Int) :
    AuditEntry where
  auditId := (host.auditId r.id action).getD
    (Evidence.domainSeparatedSha256 host.verifier.sha256 "ictt-sentinel/api-audit/v1" (r.id ++ "/" ++ action))
  tenantId := identity.map (·.tenantId)
  tokenId := identity.map (·.tokenId)
  requestId := r.id
  action
  resource := r.route.url
  outcome
  statusCode
  detail := .obj [("method", .str r.route.method)]

def audit (identity : Option TokenIdentity) (action : String) (outcome : AuditOutcome) (statusCode : Int) :
    Handler Unit :=
  .op fun s =>
    match appendAudit s.registry (auditEntry host r identity action outcome statusCode) s.apiAuditLog with
    | .ok apiAuditLog => (.ok (), { s with apiAuditLog })
    | .error _ => (.error .thrown, s)

def deny {α : Type} (identity : Option TokenIdentity) (action : String) (status : Int) (error : String) : Handler α := do
  audit host r identity action .denied status
  throw (.refusal status error)

def orDeny {α : Type} (found : Option α) (denied : Handler α) : Handler α :=
  match found with
  | some a => pure a
  | none => denied

def permit (holds : Bool) (denied : Handler Unit) : Handler Unit := if holds then pure () else denied

def takePlace (key : String) (now : Int) : Handler Bool :=
  .op fun s => (.ok (s.rate.take key now).1, { s with rate := (s.rate.take key now).2 })

def authenticate (tokenHash : String) (now : Int) : Handler (Option TokenIdentity) :=
  read fun s => findTokenByHash s.registry tokenHash now

def authorize (scope : String) : Handler TokenIdentity := do
  let hash := tokenHash host r.token
  let allowed ← takePlace ("auth/" ++ hash) r.takenAt
  permit allowed (deny host r none scope 429 "rate-limited")
  let found ← if 16 ≤ (codeUnits r.token).length then authenticate hash r.authenticatedAt else pure none
  let identity ← orDeny found (deny host r none scope 401 "unauthorized")
  permit (identity.scopes.contains scope) (deny host r (some identity) scope 403 "forbidden")
  return identity

/-- `id.includes('..')`. -/
def hasDotDot (s : String) : Bool := s.toList.zip (s.toList.drop 1) |>.contains ('.', '.')

def deployment (deploymentId scope : String) : Handler (TokenIdentity × DeploymentGrant) := do
  let identity ← authorize host r scope
  permit (isApiId deploymentId && !hasDotDot deploymentId) (deny host r (some identity) scope 404 "not-found")
  let found ← read fun s => findGrant s.registry.deploymentTenants identity.tenantId deploymentId
  let grant ← orDeny found (deny host r (some identity) scope 404 "not-found")
  return (identity, grant)

end Authorization

/-! ## Pages -/

/-- `v ?? fallback`. -/
def nullish (v fallback : JsValue) : JsValue :=
  match v with
  | .undefined | .null => fallback
  | v => v

/-- `/^[1-9][0-9]?$|^100$/`. -/
def isPageLimit (s : String) : Bool :=
  match s.toList with
  | [c] => c.isDigit && c ≠ '0'
  | [c, d] => c.isDigit && c ≠ '0' && d.isDigit
  | cs => cs = ['1', '0', '0']

def page (query : List (String × JsValue)) (validCursor : String → Bool) : Except Reply (Nat × Option String) :=
  let invalid : Except Reply (Nat × Option String) := .error (.refusal 400 "invalid-pagination")
  if query.any fun e => e.1 ≠ "limit" && e.1 ≠ "after" then invalid
  else
    match nullish (property query "limit") (.str "50"), nullish (property query "after") .null with
    | .str raw, .null => if isPageLimit raw then .ok ((numeral 10 raw.toList).getD 0, none) else invalid
    | .str raw, .str after =>
      if isPageLimit raw && validCursor after then .ok ((numeral 10 raw.toList).getD 0, some after) else invalid
    | _, _ => invalid

/-! ## Reading -/

section Reading

variable (host : ApiHost) {κ : Type} [LinearOrder κ] (collate : String → κ) (r : ApiRequest)

def optionalText (s : Option String) : JsValue := s.elim .null .str

def grantValue (g : DeploymentGrant) : JsValue :=
  .obj [("deploymentId", .str g.deploymentId), ("tenantId", .str g.tenantId), ("sharingLevel", .str g.sharingLevel.text)]

def publicRecord (row : HostedEvaluationRow) : List (String × JsValue) :=
  [("deploymentId", .str row.deploymentId), ("evidenceDigest", .str row.evidenceDigest),
    ("sharingLevel", .str row.sharingLevel.text), ("verifyStatus", .str row.verifyStatus.text),
    ("protocolStatus", .str row.protocolStatus.text), ("dataStatus", .str row.dataStatus.text),
    ("observedAt", .str (host.toISOString row.observedAt)), ("expiresAt", .str (host.toISOString row.expiresAt)),
    ("receivedAt", .str (host.toISOString row.receivedAt))]

def fullBundle (row : HostedEvaluationRow) : Option JsValue :=
  if row.sharingLevel = .approvedFull then (entries? row.payload).map fun _ => row.payload else none

def timeline (identity : TokenIdentity) (grant : DeploymentGrant) (limit : Nat) (after : Option String) :
    Handler (List HostedEvaluationRow) :=
  read fun s => readHostedEvaluations collate s.hosted identity.tenantId grant.deploymentId limit after

def listDeployments : Handler Reply := do
  let identity ← authorize host r "status:read"
  let (limit, after) ← decided (page r.query fun cursor => isApiId cursor && !hasDotDot cursor)
  let grants ← read fun s => listGrants collate s.registry identity.tenantId limit after
  audit host r (some identity) "status:read" .allowed 200
  return .success [("deployments", .arr (grants.map fun g => some (grantValue g))),
    ("next", optionalText (if grants.length = limit then grants.getLast?.map (·.deploymentId) else none))]

/-- The status of the latest record. An expired one says no more than that it was critical. -/
def currentStatus (now : Int) : Option HostedEvaluationRow → JsValue
  | none => .null
  | some row =>
    let expired := decide (row.expiresAt ≤ now)
    .obj (publicRecord host row ++
      [("stale", .bool expired),
        ("currentProtocolStatus", .str (if expired && row.protocolStatus ≠ .critical then Verdict.unknown
          else row.protocolStatus).text),
        ("currentDataStatus", .str (if expired then DataStatus.stale else row.dataStatus).text)])

def deploymentStatus (deploymentId : String) : Handler Reply := do
  let (identity, grant) ← deployment host r deploymentId "status:read"
  let rows ← timeline collate identity grant 1 none
  audit host r (some identity) "status:read" .allowed 200
  return .success [("deploymentId", .str grant.deploymentId), ("status", currentStatus host r.handledAt rows.head?)]

/-- A page of the records of a deployment. -/
def records (scope field deploymentId : String) : Handler Reply := do
  let (identity, grant) ← deployment host r deploymentId scope
  let (limit, after) ← decided (page r.query isDigest)
  let rows ← timeline collate identity grant limit after
  audit host r (some identity) scope .allowed 200
  return .success [(field, .arr (rows.map fun row => some (.obj (publicRecord host row)))),
    ("next", optionalText (if rows.length = limit then rows.getLast?.map (·.evidenceDigest) else none))]

def verdictTimeline (deploymentId : String) : Handler Reply := records host collate r "status:read" "items" deploymentId

def evidenceMetadata (deploymentId : String) : Handler Reply :=
  records host collate r "evidence:read" "evidence" deploymentId

/-- The own enumerable properties of a value, which a spread copies. -/
def ownEntries : JsValue → List (String × JsValue)
  | .obj entries => entries
  | .arr elements => elements.zipIdx.filterMap fun e => e.1.map fun v => (toString e.2, v)
  | .str s => s.toList.zipIdx.map fun e => (toString e.2, .str (String.singleton e.1))
  | _ => []

/-- The property, with the value that a later spread gives it. -/
def spreadAfter (name : String) (v : JsValue) (entries : List (String × JsValue)) : JsValue :=
  .obj ((name, ((entries.find? (·.1 = name)).map (·.2)).getD v) :: entries.filter (·.1 ≠ name))

/-- `bundle.core.messages.map`, of a record that has a bundle. A bundle without messages throws. -/
def messagesOf (row : HostedEvaluationRow) : Except Reply (List JsValue) :=
  match fullBundle row with
  | none => .ok []
  | some bundle =>
    match fieldOf (fieldOf bundle "core") "messages" with
    | .arr elements => .ok ((elements.filterMap id).map fun m =>
        spreadAfter "evidenceDigest" (.str row.evidenceDigest) (ownEntries m))
    | _ => .error .thrown

def messageTimeline (deploymentId : String) : Handler Reply := do
  let (identity, grant) ← deployment host r deploymentId "evidence:read"
  let rows ← timeline collate identity grant 100 none
  let messages ← decided (rows.mapM messagesOf)
  audit host r (some identity) "evidence:read" .allowed 200
  return .success [("messages", .arr ((messages.flatten.take 100).map some))]

def downloadEvidence (deploymentId digest : String) : Handler Reply := do
  let (identity, grant) ← deployment host r deploymentId "evidence:read"
  decided (orReply (isDigest digest) notFound)
  let found ← read fun s => readHostedEvaluation s.hosted identity.tenantId grant.deploymentId digest
  let record ← orDeny found (throw notFound)
  audit host r (some identity) "evidence:read" .allowed 200
  return .success [("metadata", .obj (publicRecord host record)), ("bundle", (fullBundle record).getD .null)]

end Reading

/-! ## Ingest -/

section Ingest

variable (host : ApiHost) (r : ApiRequest)

/-- `member(values, value)`. -/
def member {α : Type} (text : α → String) (values : List α) : JsValue → Option α
  | .str s => values.find? (text · = s)
  | _ => none

def statuses : List Verdict := [.ok, .warn, .unknown, .critical]

def dataStatuses : List DataStatus := [.complete, .stale, .partialData, .divergent, .unknown]

def claimModes : List ClaimMode := [.exact, .causalExact, .sufficientUpperBound, .indeterminate, .unsupported]

def coverageStates : List CoverageState := [.complete, .partialCoverage, .unverified]

/-- A text of the kind. -/
def textWith (admitted : String → Bool) : JsValue → Option String
  | .str s => if admitted s then some s else none
  | _ => none

/-- `iso(v)`, and the time it is. -/
def isoTime (v : JsValue) : Option Int :=
  match v with
  | .str s => (host.verifier.dateParse s).filter fun t => host.toISOString t = s
  | _ => none

/-- `[A-Za-z0-9]` and up to 127 of `A-Z`, `a-z`, `0-9`, `.`, `_`, `/` and `-`. -/
def isSchemaVersion (s : String) : Bool :=
  match s.toList with
  | [] => false
  | c :: cs => c.isAlphanum && decide (cs.length ≤ 127) &&
      cs.all fun d => d.isAlphanum || d = '.' || d = '_' || d = '/' || d = '-'

/-- `/^[A-Z][A-Z0-9_-]{1,63}$/`. -/
def isReasonText (s : String) : Bool :=
  match s.toList with
  | [] => false
  | c :: cs => c.isUpper && decide (1 ≤ cs.length) && decide (cs.length ≤ 63) &&
      cs.all fun d => d.isUpper || d.isDigit || d = '_' || d = '-'

/-- `Number.isSafeInteger(v) && v >= 0`. -/
def isCount : JsValue → Bool
  | .integer n => decide (0 ≤ n) && decide (n < 2 ^ 53)
  | _ => false

def metadataKeys : List String :=
  ["deploymentId", "evidenceHash", "schemaVersion", "protocolStatus", "dataStatus", "claimMode", "coverage",
    "reasonCodes", "observedAt", "expiresAt", "fresh", "chainCount", "ruleCount", "messageCount"]

/-- The record of a body that shares metadata. Its payload hash comes last. -/
def readMetadata (tenantId key : String) (body : JsValue) : Option HostedIngest := do
  let m ← entries? body
  guard (exact m metadataKeys)
  let deploymentId ← textWith isApiId (property m "deploymentId")
  let evidenceDigest ← textWith isDigest (property m "evidenceHash")
  let _ ← textWith isSchemaVersion (property m "schemaVersion")
  let protocolStatus ← member Verdict.text statuses (property m "protocolStatus")
  let dataStatus ← member DataStatus.text dataStatuses (property m "dataStatus")
  let _ ← member ClaimMode.text claimModes (property m "claimMode")
  let _ ← member CoverageState.text coverageStates (property m "coverage")
  let observedAt ← isoTime host (property m "observedAt")
  let expiresAt ← isoTime host (property m "expiresAt")
  let .arr reasonCodes := property m "reasonCodes" | none
  guard (reasonCodes.all fun code => code.all fun v => (textWith isReasonText v).isSome)
  let .bool _ := property m "fresh" | none
  guard (["chainCount", "ruleCount", "messageCount"].all fun k => isCount (property m k))
  return {
    tenantId
    deploymentId
    evidenceDigest
    text := ""
    sharingLevel := .sanitizedMetadata
    verifyStatus := .metadataOnly
    protocolStatus
    dataStatus
    observedAt
    expiresAt
    payload := body
    idempotencyKey := key
    idempotencyExpiresAt := r.handledAt + 24 * 60 * 60 * 1000
    dbNow := r.dbNow }

/-- The record of a verified bundle, whose statuses are of the vocabulary and whose dates parse. -/
def readApproved (tenantId key : String) (body : JsValue) : Option HostedIngest := do
  let bundle := bundleOf body
  let protocolStatus ← member Verdict.text statuses (fieldOf bundle.core.verdict "protocolStatus")
  let dataStatus ← member DataStatus.text dataStatuses (fieldOf bundle.core.verdict "dataStatus")
  let observedAt ← host.verifier.dateParse bundle.core.completeness.observedAt
  let expiresAt ← host.verifier.dateParse bundle.core.completeness.expiresAt
  return {
    tenantId
    deploymentId := bundle.core.deploymentId
    evidenceDigest := bundle.contentHash
    text := ""
    sharingLevel := .approvedFull
    verifyStatus := .verified
    protocolStatus
    dataStatus
    observedAt
    expiresAt
    payload := body
    idempotencyKey := key
    idempotencyExpiresAt := r.handledAt + 24 * 60 * 60 * 1000
    dbNow := r.dbNow }

/-- What throws is answered by the error handler. -/
def orThrown {α : Type} : Except String α → Except Reply α
  | .ok a => .ok a
  | .error _ => .error .thrown

/-- The record a request wants to be ingested, by the level of its body. -/
def readIngest (tenantId key : String) (body : JsValue) : Except Reply HostedIngest :=
  match entries? body with
  | none => .error (.refusal 400 "invalid-ingest")
  | some entries =>
    if !exact entries ["level", "body"] then .error (.refusal 400 "invalid-ingest")
    else
      match property entries "level" with
      | .str "approved-full" => do
        let check ← orThrown (verifyBundle host.verifier (property entries "body") none)
        orReply check.verified (.refusal 400 "evidence-not-verified")
        match readApproved host r tenantId key (property entries "body") with
        | some input => return input
        | none => .error .thrown
      | .str "sanitized-metadata" =>
        match readMetadata host r tenantId key (property entries "body") with
        | some input => .ok input
        | none => .error (.refusal 400 "invalid-metadata")
      | _ => .error (.refusal 400 "invalid-ingest")

/-- What a grant lets its tenant upload. -/
def permitted (grant : Option DeploymentGrant) (level : SharingLevel) : Bool :=
  grant.any fun g => decide (g.sharingLevel ≠ .localOnly) &&
    (decide (g.sharingLevel = .approvedFull) || decide (level = .sanitizedMetadata))

/-- The transaction, with no other beside it. -/
def ingest (input : HostedIngest) : Handler StoredResponse :=
  .op fun s =>
    let ended := (ingestHostedEvaluation host.verifier.sha256 s.registry.deploymentTenants input).alone s.hosted []
    (match ended.1 with
      | .ok answer => .ok answer.response
      | .error _ => .error .thrown,
      { s with hosted := ended.2 })

def ingestEvaluation : Handler Reply := do
  let identity ← authorize host r "ingest:write"
  let key ← orDeny (r.idempotencyKey.filter isIdempotencyKey) (throw (.refusal 400 "invalid-idempotency-key"))
  let body ← decided (r.body.mapError Reply.failed)
  let input ← decided (readIngest host r identity.tenantId key body)
  let grant ← read fun s => findGrant s.registry.deploymentTenants identity.tenantId input.deploymentId
  permit (permitted grant input.sharingLevel) (deny host r (some identity) "ingest:write" 404 "not-found")
  decided (orReply (decide (input.observedAt < input.expiresAt)) (.refusal 400 "invalid-freshness-window"))
  let text ← decided (orThrown (stringified host.verifier.nfc body))
  let answered : Handler Reply := do
    let answer ← ingest host { input with text }
    audit host r (some identity) "ingest:write" .allowed answer.status
    return ⟨answer.status, answer.body⟩
  answered.orCatch fun _ => do
    audit host r (some identity) "ingest:write" .denied 409
    return .refusal 409 "idempotency-conflict"

end Ingest

/-! ## Acknowledging -/

section Acknowledging

variable (host : ApiHost) (r : ApiRequest)

/-- The tables an acknowledgement touches. -/
def ApiState.alertDb (s : ApiState) : AlertDb where
  deployments := []
  evaluations := []
  deploymentTenants := s.registry.deploymentTenants.rows.map fun g => (g.deploymentId, g.tenantId)
  alertOutbox := s.alertOutbox
  alertDeliveries := ∅

def acknowledge (tenantId incidentKey by_ : String) (at_ : Int) : Handler Nat :=
  .op fun s =>
    match acknowledgeTenantAlert s.alertDb tenantId incidentKey by_ at_ with
    | .ok (count, db) => (.ok count, { s with alertOutbox := db.alertOutbox })
    | .error _ => (.error .thrown, s)

def acknowledgeAlert (incidentKey : String) : Handler Reply := do
  let identity ← authorize host r "alerts:ack"
  decided (orReply (isDigest incidentKey) notFound)
  let count ← acknowledge identity.tenantId incidentKey identity.tokenId r.handledAt
  audit host r (some identity) "alerts:ack" (if 0 < count then .allowed else .denied) (if 0 < count then 200 else 404)
  return if 0 < count then ⟨200, .obj [("acknowledged", .bool true)]⟩ else notFound

end Acknowledging

end IcttSentinel.Api
