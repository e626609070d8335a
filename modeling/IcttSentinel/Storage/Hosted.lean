/-
The hosted plane, packages/storage-postgres/src/hosted-store.ts and migrations 0006 and 0007: who is calling, what they
may see, and whether they have done exactly this before. Times are milliseconds.
-/
import IcttSentinel.Storage.Schema

namespace IcttSentinel.Storage

open IcttSentinel.Lib

/-! ## Rows -/

structure Tenant where
  tenantId : String
  disabledAt : Option Int

structure ApiToken where
  tokenId : String
  tenantId : String
  tokenHash : String
  scopes : List String
  expiresAt : Int
  revokedAt : Option Int

inductive SharingLevel where
  | localOnly
  | sanitizedMetadata
  | approvedFull
  deriving DecidableEq, Repr

def SharingLevel.text : SharingLevel → String
  | .localOnly => "local-only"
  | .sanitizedMetadata => "sanitized-metadata"
  | .approvedFull => "approved-full"

structure DeploymentGrant where
  deploymentId : String
  tenantId : String
  sharingLevel : SharingLevel

structure NonceRow where
  tenantId : String
  nonce : String
  signedAt : Int
  expiresAt : Int
  deriving DecidableEq, Repr

def NonceRow.key (r : NonceRow) : String × String := (r.tenantId, r.nonce)

structure HintRow where
  hintId : String
  deploymentId : String
  chainKey : String
  suggestedBlockNumber : Int
  source : String
  dedupKey : String

/-- What a webhook touches. Tenants, deployments, grants and chains are registered by the operator. -/
structure HookDb where
  deployments : List String
  chains : List String
  tenants : Keyed Tenant.tenantId
  deploymentTenants : Keyed DeploymentGrant.deploymentId
  webhookNonces : Keyed NonceRow.key
  webhookHints : Keyed HintRow.dedupKey

/-! ## Statements -/

/-- `[A-Za-z0-9_.:-]{least,128}`, the whole text. -/
def matchesToken (least : Nat) (s : String) : Bool :=
  decide (least ≤ s.toList.length) && decide (s.toList.length ≤ 128) &&
    s.toList.all fun c => c.isAlphanum || c = '_' || c = '.' || c = ':' || c = '-'

/-- The grant of a deployment, if it is the tenant's. -/
def findGrant (deploymentTenants : Keyed DeploymentGrant.deploymentId) (tenantId deploymentId : String) :
    Option DeploymentGrant :=
  (deploymentTenants.lookup deploymentId).filter fun g => decide (g.tenantId = tenantId)

/-- `on conflict (tenant_id, nonce) do nothing`, and whether the row was new. -/
def claimNonce (row : NonceRow) (db : HookDb) : Except Violation (Bool × HookDb) := do
  ensure (matchesToken 8 row.nonce) (.checkViolation "webhook_nonces_nonce_ck")
  ensure (decide (row.signedAt < row.expiresAt)) (.checkViolation "webhook_nonces_ttl_ck")
  if db.webhookNonces.has row.key then return (false, db)
  ensure (db.tenants.has row.tenantId) (.foreignKeyViolation "webhook_nonces_tenant_id_fkey")
  return (true, { db with webhookNonces := db.webhookNonces.insertIfAbsent row })

/-- `delete from webhook_nonces where expires_at <= now`. -/
def sweepNonces (now : Int) (db : HookDb) : HookDb :=
  { db with webhookNonces := db.webhookNonces.keep fun r => decide (now < r.expiresAt) }

/-- `on conflict (dedup_key) do nothing`, and whether the row was new. -/
def enqueueHint (hint : HintRow) (db : HookDb) : Except Violation (Bool × HookDb) := do
  ensure (fitsBigint hint.suggestedBlockNumber) .numericValueOutOfRange
  ensure (["webhook", "metrics-api", "data-api"].contains hint.source) (.checkViolation "webhook_hints_source_ck")
  ensure (decide (0 ≤ hint.suggestedBlockNumber)) (.checkViolation "webhook_hints_block_ck")
  if db.webhookHints.has hint.dedupKey then return (false, db)
  ensure (!db.webhookHints.rows.any fun r => r.hintId = hint.hintId) (.uniqueViolation "webhook_hints_pkey")
  ensure (db.deployments.contains hint.deploymentId) (.foreignKeyViolation "webhook_hints_deployment_id_fkey")
  ensure (db.chains.contains hint.chainKey) (.foreignKeyViolation "webhook_hints_chain_key_fkey")
  return (true, { db with webhookHints := db.webhookHints.insertIfAbsent hint })

/-! ## Nonces -/

variable {row : NonceRow} {db db' : HookDb}

/-- A nonce is claimed where none of it is stored, and is stored from then on. -/
theorem claimNonce_new (h : claimNonce row db = .ok (true, db')) :
    row.signedAt < row.expiresAt ∧ db.webhookNonces.has row.key = false ∧
      db' = { db with webhookNonces := db.webhookNonces.insertIfAbsent row } := by
  unfold claimNonce at h
  obtain ⟨-, -, h⟩ := bind_eq_ok.1 h
  obtain ⟨⟨⟩, httl, h⟩ := bind_eq_ok.1 h
  split at h
  · cases h
  · rename_i hnew
    obtain ⟨-, -, h⟩ := bind_eq_ok.1 h
    cases h
    exact ⟨of_decide_eq_true (ensure_eq_ok.1 httl), by simpa using hnew, rfl⟩

/-- A nonce that was claimed before leaves the store as it is. -/
theorem claimNonce_repeated (h : claimNonce row db = .ok (false, db')) : db' = db := by
  unfold claimNonce at h
  obtain ⟨-, -, h⟩ := bind_eq_ok.1 h
  obtain ⟨-, -, h⟩ := bind_eq_ok.1 h
  split at h
  · cases h
    rfl
  · obtain ⟨-, -, h⟩ := bind_eq_ok.1 h
    cases h

/-- Hints leave the nonces alone. -/
theorem enqueueHint_nonces {hint : HintRow} {queued : Bool} (h : enqueueHint hint db = .ok (queued, db')) :
    db'.webhookNonces = db.webhookNonces := by
  unfold enqueueHint at h
  obtain ⟨-, -, h⟩ := bind_eq_ok.1 h
  obtain ⟨-, -, h⟩ := bind_eq_ok.1 h
  obtain ⟨-, -, h⟩ := bind_eq_ok.1 h
  split at h
  · cases h
    rfl
  · obtain ⟨-, -, h⟩ := bind_eq_ok.1 h
    obtain ⟨-, -, h⟩ := bind_eq_ok.1 h
    obtain ⟨-, -, h⟩ := bind_eq_ok.1 h
    cases h
    rfl

end IcttSentinel.Storage
