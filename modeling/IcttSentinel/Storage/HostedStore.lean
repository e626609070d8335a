/-
What the hosted API reads and writes, packages/storage-postgres/src/hosted-store.ts and hosted-evidence.ts: tokens,
grants, timelines, and the audit log. "Reference and authorization data is operator-curated; the runtime reads it."
A `text` column is ordered by the collation of the database.
-/
import IcttSentinel.Lib.Sorting
import IcttSentinel.Storage.HostedEvidence
import Mathlib.Data.Prod.Lex
import Mathlib.Data.String.Basic

namespace IcttSentinel.Storage

open IcttSentinel.Lib
open IcttSentinel.Evidence (JsValue)

/-! ## Who is calling -/

/-- The tables the runtime only reads. Tokens and grants are those of tenants, and token ids are unique. -/
structure Registry where
  tenants : Keyed Tenant.tenantId
  apiTokens : Keyed ApiToken.tokenHash
  deploymentTenants : Keyed DeploymentGrant.deploymentId
  tokenIds : (apiTokens.rows.map ApiToken.tokenId).Nodup
  tokenTenants : ∀ t ∈ apiTokens.rows, tenants.has t.tenantId = true
  grantTenants : ∀ g ∈ deploymentTenants.rows, tenants.has g.tenantId = true

structure TokenIdentity where
  tokenId : String
  tenantId : String
  scopes : List String
  deriving DecidableEq, Repr

/-- The identity of a token that is neither revoked nor expired, of a tenant that is not disabled. -/
def findTokenByHash (registry : Registry) (tokenHash : String) (now : Int) : Option TokenIdentity :=
  match registry.apiTokens.lookup tokenHash with
  | none => none
  | some t =>
    match registry.tenants.lookup t.tenantId with
    | none => none
    | some n =>
      if t.revokedAt.isNone && decide (now < t.expiresAt) && n.disabledAt.isNone then
        some { tokenId := t.tokenId, tenantId := t.tenantId, scopes := t.scopes }
      else none

/-! ## What they may see -/

section Order

variable {κ : Type} (collate : String → κ)

/-- The order of texts: that of the collation, and bytewise where it does not tell them apart. -/
def textKey (s : String) : κ ×ₗ String := toLex (collate s, s)

theorem textKey_injective : Function.Injective (textKey collate) := fun _ _ h =>
  congrArg (fun p : κ ×ₗ String => (ofLex p).2) h

variable [LinearOrder κ]

def listGrants (registry : Registry) (tenantId : String) (limit : Nat) (after : Option String) : List DeploymentGrant :=
  (sortOn (fun g : DeploymentGrant => textKey collate g.deploymentId) (registry.deploymentTenants.rows.filter fun g =>
    decide (g.tenantId = tenantId) &&
      after.all fun id => decide (textKey collate id < textKey collate g.deploymentId))).take limit

def HostedRow.evaluation? : HostedRow → Option HostedEvaluationRow
  | .evaluation row => some row
  | .idempotency _ => none

def readHostedEvaluation (hosted : Keyed HostedRow.key) (tenantId deploymentId evidenceDigest : String) :
    Option HostedEvaluationRow :=
  (hosted.lookup (.evaluation tenantId deploymentId evidenceDigest)).bind HostedRow.evaluation?

/-- `(observed_at, evidence_digest)`. -/
def timelineKey (row : HostedEvaluationRow) : Int ×ₗ (κ ×ₗ String) :=
  toLex (row.observedAt, textKey collate row.evidenceDigest)

/-- Whether the row comes after the cursor in a timeline, which is none where the row of the cursor is missing. -/
def pastCursor (hosted : Keyed HostedRow.key) (tenantId deploymentId : String) (after : Option String)
    (row : HostedEvaluationRow) : Bool :=
  after.all fun digest => (readHostedEvaluation hosted tenantId deploymentId digest).any fun cursor =>
    decide (timelineKey collate row < timelineKey collate cursor)

/-- The latest rows of a deployment, after the cursor. -/
def readHostedEvaluations (hosted : Keyed HostedRow.key) (tenantId deploymentId : String) (limit : Nat)
    (after : Option String) : List HostedEvaluationRow :=
  (sortOn (fun row : HostedEvaluationRow => OrderDual.toDual (timelineKey collate row))
    ((hosted.rows.filterMap HostedRow.evaluation?).filter fun row =>
      decide (row.tenantId = tenantId) && decide (row.deploymentId = deploymentId) &&
        pastCursor collate hosted tenantId deploymentId after row)).take limit

end Order

/-! ## The audit log -/

inductive AuditOutcome where
  | allowed
  | denied
  | error
  deriving DecidableEq, Repr

structure AuditEntry where
  auditId : String
  tenantId : Option String
  tokenId : Option String
  requestId : String
  action : String
  resource : String
  outcome : AuditOutcome
  statusCode : Int
  detail : JsValue

/-- `on conflict (audit_id) do nothing`. -/
def appendAudit (registry : Registry) (entry : AuditEntry) (log : Keyed AuditEntry.auditId) :
    Except Violation (Keyed AuditEntry.auditId) := do
  ensure (decide (100 ≤ entry.statusCode) && decide (entry.statusCode ≤ 599)) (.checkViolation "api_audit_status_ck")
  if log.has entry.auditId then return log
  ensure (entry.tenantId.all registry.tenants.has) (.foreignKeyViolation "api_audit_log_tenant_id_fkey")
  ensure (entry.tokenId.all fun id => registry.apiTokens.rows.any fun t => decide (t.tokenId = id))
    (.foreignKeyViolation "api_audit_log_token_id_fkey")
  return log.insertIfAbsent entry

end IcttSentinel.Storage
