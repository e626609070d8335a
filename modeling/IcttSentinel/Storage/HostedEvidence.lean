/-
Hosted evidence, packages/storage-postgres/src/hosted-evidence.ts and migration 0007: "the idempotency decision, hosted
record and remembered answer share one lock and transaction". The lock is that of the idempotency key, and the record is
unique under its digest. Times are milliseconds.
-/
import IcttSentinel.Evidence.Replay
import IcttSentinel.Lib.Transactions
import IcttSentinel.Storage.Hosted

namespace IcttSentinel.Storage

open IcttSentinel.Domain IcttSentinel.InvariantCore IcttSentinel.Lib
open IcttSentinel.Evidence (JsValue domainSeparatedSha256)

/-! ## Rows -/

inductive HostedVerifyStatus where
  | verified
  | metadataOnly
  deriving DecidableEq, Repr

def HostedVerifyStatus.text : HostedVerifyStatus → String
  | .verified => "verified"
  | .metadataOnly => "metadata-only"

structure HostedEvaluationRow where
  tenantId : String
  deploymentId : String
  evidenceDigest : String
  payloadHash : String
  sharingLevel : SharingLevel
  verifyStatus : HostedVerifyStatus
  protocolStatus : Verdict
  dataStatus : DataStatus
  observedAt : Int
  expiresAt : Int
  payload : JsValue
  receivedAt : Int

structure StoredResponse where
  status : Int
  body : JsValue

structure IdempotencyRow where
  tenantId : String
  idempotencyKey : String
  route : String
  payloadHash : String
  response : StoredResponse
  createdAt : Int
  expiresAt : Int

/-- The rows of `hosted_evaluations` and of `api_idempotency`. -/
inductive HostedRow where
  | evaluation (row : HostedEvaluationRow)
  | idempotency (row : IdempotencyRow)

inductive HostedKey where
  | evaluation (tenantId deploymentId evidenceDigest : String)
  | idempotency (tenantId idempotencyKey : String)
  deriving DecidableEq, Repr

/-- The primary keys. -/
def HostedRow.key : HostedRow → HostedKey
  | .evaluation r => .evaluation r.tenantId r.deploymentId r.evidenceDigest
  | .idempotency r => .idempotency r.tenantId r.idempotencyKey

mutual

/-- A text of the value has a character NUL, which no `jsonb` can hold. -/
def holdsNul : JsValue → Bool
  | .str s => s.toList.contains (Char.ofNat 0)
  | .arr elements => holdsNulElements elements
  | .obj entries => holdsNulEntries entries
  | _ => false

def holdsNulElements : List (Option JsValue) → Bool
  | [] => false
  | none :: elements => holdsNulElements elements
  | some v :: elements => holdsNul v || holdsNulElements elements

def holdsNulEntries : List (String × JsValue) → Bool
  | [] => false
  | (name, v) :: entries => name.toList.contains (Char.ofNat 0) || holdsNul v || holdsNulEntries entries

end

/-! ## The transaction -/

/-- `advisoryLockKey`: FNV-1a over the UTF-16 units of the lane, forwards and backwards. -/
def advisoryLockKey (lane : String) : UInt32 × UInt32 :=
  let units := (codeUnits lane).map fun unit => UInt32.ofNat unit
  (units.foldl (fun h unit => (h ^^^ unit) * 0x01000193) 0x811c9dc5,
    units.reverse.foldl (fun h unit => (h ^^^ unit) * 0x811c9dc5) 0x01000193)

/-- What a client asks to be ingested: its record, the canonical text of the body it was sent in, and the key it was
sent under. The two clocks are those of the process and of the database. -/
structure HostedIngest where
  tenantId : String
  deploymentId : String
  evidenceDigest : String
  text : String
  sharingLevel : SharingLevel
  verifyStatus : HostedVerifyStatus
  protocolStatus : Verdict
  dataStatus : DataStatus
  observedAt : Int
  expiresAt : Int
  payload : JsValue
  idempotencyKey : String
  idempotencyExpiresAt : Int
  dbNow : Int

/-- How an ingest fails: `IdempotencyPayloadConflictError`, or an error of the database. -/
inductive IngestFailure where
  | conflict (idempotencyKey : String)
  | violation (violation : Violation)
  | untranslatable
  deriving DecidableEq, Repr

structure IngestAnswer where
  duplicate : Bool
  response : StoredResponse

def ingestRoute : String := "POST /v1/ingest/evaluations"

section Transaction

variable (sha256 : String → String) (deploymentTenants : Keyed DeploymentGrant.deploymentId) (r : HostedIngest)

def HostedIngest.payloadHash : String := domainSeparatedSha256 sha256 "ictt-sentinel/hosted-ingest/v1" r.text

def HostedIngest.recordKey : HostedKey := .evaluation r.tenantId r.deploymentId r.evidenceDigest

def HostedIngest.rememberedKey : HostedKey := .idempotency r.tenantId r.idempotencyKey

def HostedIngest.lockKey : UInt32 × UInt32 := advisoryLockKey ("hosted/" ++ r.tenantId ++ "/" ++ r.idempotencyKey)

def HostedIngest.record : HostedEvaluationRow where
  tenantId := r.tenantId
  deploymentId := r.deploymentId
  evidenceDigest := r.evidenceDigest
  payloadHash := r.payloadHash sha256
  sharingLevel := r.sharingLevel
  verifyStatus := r.verifyStatus
  protocolStatus := r.protocolStatus
  dataStatus := r.dataStatus
  observedAt := r.observedAt
  expiresAt := r.expiresAt
  payload := r.payload
  receivedAt := r.dbNow

def HostedIngest.response (duplicate : Bool) : StoredResponse where
  status := if duplicate then 200 else 201
  body := .obj [("accepted", .bool true), ("duplicate", .bool duplicate), ("evidenceDigest", .str r.evidenceDigest)]

def HostedIngest.remembered (duplicate : Bool) : IdempotencyRow where
  tenantId := r.tenantId
  idempotencyKey := r.idempotencyKey
  route := ingestRoute
  payloadHash := r.payloadHash sha256
  response := r.response duplicate
  createdAt := r.dbNow
  expiresAt := r.idempotencyExpiresAt

/-- A column or a constraint refuses a row. -/
def checked {α : Type} : Except Violation α → Except IngestFailure α
  | .ok a => .ok a
  | .error violation => .error (.violation violation)

/-- The columns and constraints of `hosted_evaluations`. -/
def HostedIngest.recordCheck : Except IngestFailure Unit :=
  if holdsNul r.payload then .error .untranslatable
  else checked do
    ensure (matchesHex "" 64 r.evidenceDigest) (.checkViolation "hosted_evaluations_digest_ck")
    ensure (matchesHex "" 64 (r.payloadHash sha256)) (.checkViolation "hosted_evaluations_payload_ck")
    ensure (decide (r.sharingLevel ≠ .localOnly)) (.checkViolation "hosted_evaluations_sharing_ck")
    ensure (decide (r.observedAt < r.expiresAt)) (.checkViolation "hosted_evaluations_ttl_ck")
    ensure (findGrant deploymentTenants r.tenantId r.deploymentId).isSome
      (.foreignKeyViolation "hosted_evaluations_deployment_id_tenant_id_fkey")

/-- The columns and constraints of `api_idempotency`. -/
def HostedIngest.rememberedCheck : Except IngestFailure Unit :=
  checked do
    ensure (matchesToken 16 r.idempotencyKey) (.checkViolation "api_idempotency_key_ck")
    ensure (matchesHex "" 64 (r.payloadHash sha256)) (.checkViolation "api_idempotency_payload_ck")
    ensure (decide (r.dbNow < r.idempotencyExpiresAt)) (.checkViolation "api_idempotency_ttl_ck")

abbrev IngestProgram := Program HostedRow HostedKey (UInt32 × UInt32) IngestFailure IngestAnswer

/-- The answer is remembered under the key. -/
def rememberAnswer (duplicate : Bool) : IngestProgram :=
  match r.rememberedCheck sha256 with
  | .error e => .rollback e
  | .ok () =>
    .insert (.idempotency (r.remembered sha256 duplicate)) (.violation (.uniqueViolation "api_idempotency_pkey"))
      (.commit ⟨duplicate, r.response duplicate⟩)

def insertRecord : IngestProgram :=
  match r.recordCheck sha256 deploymentTenants with
  | .error e => .rollback e
  | .ok () =>
    .insert (.evaluation (r.record sha256)) (.violation (.uniqueViolation "hosted_evaluations_pkey"))
      (rememberAnswer sha256 r false)

/-- The record is looked up under its digest. -/
def lookUpRecord : IngestProgram :=
  .select r.recordKey fun existing =>
    match existing with
    | some (.evaluation existing) =>
      if existing.payloadHash ≠ r.payloadHash sha256 then .rollback (.conflict r.idempotencyKey)
      else rememberAnswer sha256 r true
    | _ => insertRecord sha256 deploymentTenants r

/-- The answer is looked up under the key. -/
def lookUpAnswer : IngestProgram :=
  .select r.rememberedKey fun prior =>
    match prior with
    | some (.idempotency prior) =>
      if prior.payloadHash ≠ r.payloadHash sha256 ∨ prior.route ≠ ingestRoute then
        .rollback (.conflict r.idempotencyKey)
      else .commit ⟨true, prior.response⟩
    | _ => lookUpRecord sha256 deploymentTenants r

def ingestHostedEvaluation : IngestProgram := .lock r.lockKey (lookUpAnswer sha256 deploymentTenants r)

end Transaction

end IcttSentinel.Storage
