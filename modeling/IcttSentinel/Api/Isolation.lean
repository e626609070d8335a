/-
Tenants of the hosted API, apps/api/src/server.ts: what a tenant is answered depends on its own rows, and what it asks
for changes no one else's. A deployment, a digest or an incident of another tenant is answered as one that does not
exist, as "distinguishing them would turn this endpoint into an existence oracle for other tenants".
-/
import IcttSentinel.Api.Pagination

namespace IcttSentinel.Api

open IcttSentinel.Alerts IcttSentinel.Lib IcttSentinel.Storage
open IcttSentinel.Evidence (JsValue)

/-! ## Serving a request -/

/-- An operation of the API document: its id, the scheme that opens it, and what its answers mean. -/
def operation (method operationId : String) (scheme : Option String) (responses : List (String × String)) : JsValue :=
  .obj [(method, .obj (("operationId", .str operationId) ::
    (scheme.toList.map fun s => ("security", .arr [some (.obj [(s, .arr [])])])) ++
      [("responses", .obj (responses.map fun e => (e.1, .obj [("description", .str e.2)])))]))]

/-- `OPENAPI`. -/
def openapiDocument : JsValue :=
  .obj [("openapi", .str "3.1.0"),
    ("jsonSchemaDialect", .str "https://json-schema.org/draft/2020-12/schema"),
    ("info", .obj [("title", .str "ictt-sentinel hosted evidence API"), ("version", .str "1.0.0")]),
    ("components", .obj [("securitySchemes", .obj
      [("bearerToken", .obj [("type", .str "http"), ("scheme", .str "bearer"), ("bearerFormat", .str "opaque")]),
        ("webhookSignature", .obj [("type", .str "apiKey"), ("in", .str "header"), ("name", .str "x-ictt-signature")])])]),
    ("paths", .obj
      [("/live", operation "get" "live" none [("200", "Process live")]),
        ("/ready", operation "get" "ready" none [("200", "Truth path ready"), ("503", "Truth path unavailable")]),
        ("/v1/deployments", operation "get" "listDeployments" (some "bearerToken") [("200", "Authorized deployments")]),
        ("/v1/deployments/\x7bdeploymentId\x7d/status",
          operation "get" "deploymentStatus" (some "bearerToken") [("200", "Latest verdict")]),
        ("/v1/deployments/\x7bdeploymentId\x7d/verdicts",
          operation "get" "verdictTimeline" (some "bearerToken") [("200", "Verdict timeline")]),
        ("/v1/deployments/\x7bdeploymentId\x7d/messages",
          operation "get" "messageTimeline" (some "bearerToken") [("200", "Approved message timeline")]),
        ("/v1/deployments/\x7bdeploymentId\x7d/evidence",
          operation "get" "evidenceMetadata" (some "bearerToken") [("200", "Evidence metadata")]),
        ("/v1/deployments/\x7bdeploymentId\x7d/evidence/\x7bdigest\x7d",
          operation "get" "downloadEvidence" (some "bearerToken") [("200", "Evidence record and approved bundle")]),
        ("/v1/ingest/evaluations", operation "post" "ingestEvaluation" (some "bearerToken")
          [("200", "Idempotent replay"), ("201", "Accepted"), ("409", "Idempotency conflict")]),
        ("/v1/alerts/\x7bincidentKey\x7d/acknowledge",
          operation "post" "acknowledgeAlert" (some "bearerToken") [("200", "Acknowledged")]),
        ("/v1/webhooks/\x7btenantId\x7d/\x7bsourceId\x7d/hints",
          operation "post" "receiveHint" (some "webhookSignature") [("202", "Bounded hint accepted")])])]

section Serving

variable (host : ApiHost) {κ : Type} [LinearOrder κ] (collate : String → κ) (r : ApiRequest)

def routed : Handler Reply :=
  match r.route with
  | .openapi => decided (.ok ⟨200, openapiDocument⟩)
  | .live => decided (.ok (.success [("live", .bool true)]))
  | .ready => decided (.ok { Reply.success [("ready", .bool r.storeReady)] with status := if r.storeReady then 200 else 503 })
  | .listDeployments => listDeployments host collate r
  | .deploymentStatus deploymentId => deploymentStatus host collate r deploymentId
  | .verdictTimeline deploymentId => verdictTimeline host collate r deploymentId
  | .messageTimeline deploymentId => messageTimeline host collate r deploymentId
  | .evidenceMetadata deploymentId => evidenceMetadata host collate r deploymentId
  | .downloadEvidence deploymentId digest => downloadEvidence host r deploymentId digest
  | .ingestEvaluation => ingestEvaluation host r
  | .acknowledgeAlert incidentKey => acknowledgeAlert host r incidentKey

/-- The body of a request is parsed before its route is entered. -/
def parsed : Except Reply Unit :=
  match r.body with
  | .error statusCode => if r.route.method = "POST" then .error (.failed statusCode) else .ok ()
  | .ok _ => .ok ()

/-- A request is answered by its route, or with the refusal that ended it. -/
def serve (s : ApiState) : Reply × ApiState :=
  let ended := (do
    decided (parsed r)
    routed host collate r : Handler Reply) s
  (match ended.1 with
    | .ok reply => reply
    | .error refusal => refusal,
    ended.2)

end Serving

/-! ## Two states that agree on a tenant -/

/-- The tenant of a hosted row. -/
def tenantOf : HostedKey → String
  | .evaluation tenantId _ _ => tenantId
  | .idempotency tenantId _ => tenantId

/-- An alert of one of the tenant's deployments. -/
def ApiState.OwnAlert (s : ApiState) (tenantId : String) (row : AlertOutboxRow) : Prop :=
  ∃ g ∈ s.registry.deploymentTenants.rows, g.tenantId = tenantId ∧ g.deploymentId = row.deploymentId

/-- The window of one of the tenant's tokens. -/
def ApiState.OwnPlace (s : ApiState) (tenantId : String) (b : Bucket) : Prop :=
  ∃ t ∈ s.registry.apiTokens.rows, t.tenantId = tenantId ∧ b.key = "auth/" ++ t.tokenHash

/-- The states hold the same rows of the tenant, whatever they hold of others. -/
structure SameTenant (tenantId : String) (s t : ApiState) : Prop where
  tenants : SameRows (fun n : Tenant => n.tenantId = tenantId) s.registry.tenants t.registry.tenants
  apiTokens : SameRows (fun k : ApiToken => k.tenantId = tenantId) s.registry.apiTokens t.registry.apiTokens
  grants : SameRows (fun g : DeploymentGrant => g.tenantId = tenantId) s.registry.deploymentTenants
    t.registry.deploymentTenants
  hosted : SameRows (fun row => tenantOf row.key = tenantId) s.hosted t.hosted
  alerts : SameRows (s.OwnAlert tenantId) s.alertOutbox.table t.alertOutbox.table
  limits : s.rate.limit = t.rate.limit ∧ s.rate.windowMs = t.rate.windowMs
  places : SameRows (s.OwnPlace tenantId) s.rate.entries t.rate.entries

/-- The rows of everyone but the tenant are as they were. -/
structure OthersKept (tenantId : String) (s t : ApiState) : Prop where
  registry : t.registry = s.registry
  hosted : SameRows (fun row => tenantOf row.key ≠ tenantId) s.hosted t.hosted
  alerts : SameRows (fun row => ¬ s.OwnAlert tenantId row) s.alertOutbox.table t.alertOutbox.table
  audits : SameRows (fun e : AuditEntry => ∃ other, e.tenantId = some other ∧ other ≠ tenantId) s.apiAuditLog t.apiAuditLog
  places : SameRows (fun b => ¬ s.OwnPlace tenantId b) s.rate.entries t.rate.entries

theorem OthersKept.refl (tenantId : String) (s : ApiState) : OthersKept tenantId s s :=
  ⟨rfl, .refl _ _, .refl _ _, .refl _ _, .refl _ _⟩

theorem OthersKept.ownAlert {tenantId : String} {s t : ApiState} (h : OthersKept tenantId s t) (row : AlertOutboxRow) :
    t.OwnAlert tenantId row ↔ s.OwnAlert tenantId row := by
  unfold ApiState.OwnAlert
  rw [h.registry]

theorem OthersKept.ownPlace {tenantId : String} {s t : ApiState} (h : OthersKept tenantId s t) (b : Bucket) :
    t.OwnPlace tenantId b ↔ s.OwnPlace tenantId b := by
  unfold ApiState.OwnPlace
  rw [h.registry]

theorem OthersKept.trans {tenantId : String} (s t u : ApiState) (h : OthersKept tenantId s t)
    (h' : OthersKept tenantId t u) : OthersKept tenantId s u where
  registry := h'.registry.trans h.registry
  hosted := h.hosted.trans h'.hosted
  alerts := h.alerts.trans (h'.alerts.imp fun row hrow hown => hrow ((h.ownAlert row).1 hown))
  audits := h.audits.trans h'.audits
  places := h.places.trans (h'.places.imp fun b hb hown => hb ((h.ownPlace b).1 hown))

/-- Both states hold the token, and the same rows of its tenant. -/
structure Alike (k : ApiToken) (s t : ApiState) : Prop where
  held : k ∈ s.registry.apiTokens.rows
  same : SameTenant k.tenantId s t

/-- The identity is that of the token. -/
structure Identifies (k : ApiToken) (identity : TokenIdentity) : Prop where
  tenant : identity.tenantId = k.tenantId
  token : identity.tokenId = k.tokenId

/-- With the token, the handler ends alike in states that are alike, leaves them alike, and changes no one else's rows. -/
abbrev Isolates {α : Type} (k : ApiToken) (Q : α → Prop) (m : Handler α) : Prop :=
  Stateful.Secure (Alike k) (OthersKept k.tenantId) Q m

/-! ## What is done with the token -/

section Steps

variable {α β : Type} {k : ApiToken} {s t : ApiState} {Q : α → Prop} {Q' : β → Prop}

theorem Alike.held' (h : Alike k s t) : k ∈ t.registry.apiTokens.rows := (h.same.apiTokens k rfl).1 h.held

theorem Isolates.andThen {m : Handler α} {f : α → Handler β} (hm : Isolates k Q m) (hf : ∀ a, Q a → Isolates k Q' (f a)) :
    Isolates k Q' (m >>= f) :=
  Stateful.Secure.bind OthersKept.trans hm hf

theorem isolates_pure {a : α} (ha : Q a) : Isolates k Q (pure a : Handler α) :=
  Stateful.secure_pure (OthersKept.refl _) ha

theorem isolates_throw (reply : Reply) : Isolates k Q (throw reply : Handler α) :=
  Stateful.secure_throw (OthersKept.refl _) reply

theorem isolates_decided {answer : Except Reply α} (h : ∀ a, answer = .ok a → Q a) : Isolates k Q (decided answer) :=
  Stateful.secure_read (OthersKept.refl _) (fun _ _ _ => rfl) fun _ _ _ => h

theorem isolates_read {f : ApiState → α} (h : ∀ s t, Alike k s t → f s = f t ∧ Q (f s)) : Isolates k Q (read f) :=
  Stateful.secure_read (OthersKept.refl _) (fun s t hst => congrArg Except.ok (h s t hst).1) fun s t hst a ha => by
    rw [← Except.ok.inj ha]
    exact (h s t hst).2

theorem isolates_orDeny {found : Option α} {denied : Handler α} (hfound : ∀ a ∈ found, Q a) (hdenied : Isolates k Q denied) :
    Isolates k Q (orDeny found denied) := by
  cases found with
  | none => exact hdenied
  | some a => exact isolates_pure (hfound a rfl)

theorem isolates_permit (holds : Bool) {denied : Handler Unit} (hdenied : Isolates k (fun _ => True) denied) :
    Isolates k (fun _ => True) (permit holds denied) := by
  cases holds
  · exact hdenied
  · exact isolates_pure trivial

/-! ### The audit log -/

/-- An entry of a tenant and a token that exist is refused for its status only. -/
theorem appendAudit_eq {registry : Registry} {entry : AuditEntry} {log : Keyed AuditEntry.auditId}
    (htenant : entry.tenantId.all registry.tenants.has = true)
    (htoken : (entry.tokenId.all fun id => registry.apiTokens.rows.any fun t => decide (t.tokenId = id)) = true) :
    appendAudit registry entry log =
      if decide (100 ≤ entry.statusCode) && decide (entry.statusCode ≤ 599) then .ok (log.insertIfAbsent entry)
      else .error (.checkViolation "api_audit_status_ck") := by
  unfold appendAudit
  rw [htenant, htoken]
  cases hstatus : decide (100 ≤ entry.statusCode) && decide (entry.statusCode ≤ 599) with
  | false => rfl
  | true =>
    cases hhas : log.has entry.auditId with
    | true =>
      have hsame : log.insertIfAbsent entry = log := Keyed.ext (by rw [Keyed.rows_insertIfAbsent, hhas]; rfl)
      rw [hsame]
      rfl
    | false => rfl

variable (host : ApiHost) (r : ApiRequest)

section

variable {identity : Option TokenIdentity} {action : String} {outcome : AuditOutcome} {statusCode : Int}

theorem audit_of_ok {log : Keyed AuditEntry.auditId}
    (h : appendAudit s.registry (auditEntry host r identity action outcome statusCode) s.apiAuditLog = .ok log) :
    audit host r identity action outcome statusCode s = (.ok (), { s with apiAuditLog := log }) := by
  unfold audit Stateful.op
  simp only [h]

theorem audit_of_error {e : Violation}
    (h : appendAudit s.registry (auditEntry host r identity action outcome statusCode) s.apiAuditLog = .error e) :
    audit host r identity action outcome statusCode s = (.error .thrown, s) := by
  unfold audit Stateful.op
  simp only [h]

end

/-- An audit of the token's holder, or of no one. -/
theorem audit_apply {identity : Option TokenIdentity} (hidentity : ∀ id ∈ identity, Identifies k id)
    (hk : k ∈ s.registry.apiTokens.rows) (action : String) (outcome : AuditOutcome) (statusCode : Int) :
    ∃ log, audit host r identity action outcome statusCode s =
        (if decide (100 ≤ statusCode) && decide (statusCode ≤ 599) then .ok () else .error .thrown,
          { s with apiAuditLog := log }) ∧
      SameRows (fun e : AuditEntry => ∃ other, e.tenantId = some other ∧ other ≠ k.tenantId) s.apiAuditLog log := by
  have htenant : ((auditEntry host r identity action outcome statusCode).tenantId.all s.registry.tenants.has) = true := by
    cases identity with
    | none => rfl
    | some id =>
      show s.registry.tenants.has id.tenantId = true
      rw [(hidentity id rfl).tenant]
      exact s.registry.tokenTenants k hk
  have htoken : ((auditEntry host r identity action outcome statusCode).tokenId.all fun id =>
      s.registry.apiTokens.rows.any fun t => decide (t.tokenId = id)) = true := by
    cases identity with
    | none => rfl
    | some id =>
      show (s.registry.apiTokens.rows.any fun t => decide (t.tokenId = id.tokenId)) = true
      rw [(hidentity id rfl).token, List.any_eq_true]
      exact ⟨k, hk, decide_eq_true rfl⟩
  have hown : ¬∃ other, (auditEntry host r identity action outcome statusCode).tenantId = some other ∧ other ≠ k.tenantId := by
    rintro ⟨other, hother, hne⟩
    obtain ⟨id, hid, rfl⟩ := Option.map_eq_some_iff.1 hother
    exact hne (hidentity id hid).tenant
  have happend : appendAudit s.registry (auditEntry host r identity action outcome statusCode) s.apiAuditLog =
      if decide (100 ≤ statusCode) && decide (statusCode ≤ 599) then
        .ok (s.apiAuditLog.insertIfAbsent (auditEntry host r identity action outcome statusCode))
      else .error (.checkViolation "api_audit_status_ck") := appendAudit_eq htenant htoken
  cases hstatus : decide (100 ≤ statusCode) && decide (statusCode ≤ 599) with
  | false =>
    rw [hstatus] at happend
    exact ⟨s.apiAuditLog, audit_of_error host r happend, .refl _ _⟩
  | true =>
    rw [hstatus] at happend
    exact ⟨_, audit_of_ok host r happend, sameRows_insertIfAbsent hown⟩

theorem Alike.logged (h : Alike k s t) (log log' : Keyed AuditEntry.auditId) :
    Alike k { s with apiAuditLog := log } { t with apiAuditLog := log' } :=
  ⟨h.held, ⟨h.same.tenants, h.same.apiTokens, h.same.grants, h.same.hosted, h.same.alerts, h.same.limits, h.same.places⟩⟩

theorem isolates_audit {identity : Option TokenIdentity} (hidentity : ∀ id ∈ identity, Identifies k id) (action : String)
    (outcome : AuditOutcome) (statusCode : Int) :
    Isolates k (fun _ => True) (audit host r identity action outcome statusCode) := by
  intro s t hst
  obtain ⟨log, hs, hlog⟩ := audit_apply host r hidentity hst.held action outcome statusCode
  obtain ⟨log', ht, hlog'⟩ := audit_apply host r hidentity hst.held' action outcome statusCode
  rw [hs, ht]
  exact ⟨rfl, hst.logged log log', ⟨rfl, .refl _ _, .refl _ _, hlog, .refl _ _⟩,
    ⟨rfl, .refl _ _, .refl _ _, hlog', .refl _ _⟩, fun _ _ => trivial⟩

theorem isolates_deny {identity : Option TokenIdentity} (hidentity : ∀ id ∈ identity, Identifies k id) (action : String)
    (status : Int) (error : String) : Isolates k Q (deny host r identity action status error) :=
  (isolates_audit host r hidentity action .denied status).andThen fun _ _ => isolates_throw _

/-! ### The rate limiter -/

/-- Two limiters that hold the same window answer alike, and rewrite that window only. -/
theorem take_alike {l m : RateLimiter} {key : String} (hlookup : l.entries.lookup key = m.entries.lookup key)
    (hlimits : l.limit = m.limit ∧ l.windowMs = m.windowMs) (now : Int) :
    ∃ allowed b, b.key = key ∧ l.take key now = (allowed, { l with entries := l.entries.upsert b }) ∧
      m.take key now = (allowed, { m with entries := m.entries.upsert b }) := by
  unfold RateLimiter.take
  rw [← hlookup, ← hlimits.1, ← hlimits.2]
  cases hfound : l.entries.lookup key with
  | none => exact ⟨true, { key, start := now, count := 1 }, rfl, rfl, rfl⟩
  | some current =>
    dsimp only
    split
    · exact ⟨true, { key, start := now, count := 1 }, rfl, rfl, rfl⟩
    · exact ⟨_, { current with count := current.count + 1 }, (Keyed.lookup_eq_some.1 hfound).2, rfl, rfl⟩

theorem isolates_takePlace (now : Int) : Isolates k (fun _ => True) (takePlace ("auth/" ++ k.tokenHash) now) := by
  intro s t hst
  have hown : ∀ b : Bucket, b.key = "auth/" ++ k.tokenHash → s.OwnPlace k.tenantId b := fun b hb => ⟨k, hst.held, rfl, hb⟩
  have hown' : ∀ b : Bucket, b.key = "auth/" ++ k.tokenHash → t.OwnPlace k.tenantId b := fun b hb => ⟨k, hst.held', rfl, hb⟩
  obtain ⟨allowed, b, hb, hs, ht⟩ := take_alike (hst.same.places.lookup_eq hown) hst.same.limits now
  have hs' : takePlace ("auth/" ++ k.tokenHash) now s =
      (.ok allowed, { s with rate := { s.rate with entries := s.rate.entries.upsert b } }) := by
    simp only [takePlace, Stateful.op, hs]
  have ht' : takePlace ("auth/" ++ k.tokenHash) now t =
      (.ok allowed, { t with rate := { t.rate with entries := t.rate.entries.upsert b } }) := by
    simp only [takePlace, Stateful.op, ht]
  rw [hs', ht']
  refine ⟨rfl, ⟨hst.held, ⟨hst.same.tenants, hst.same.apiTokens, hst.same.grants, hst.same.hosted, hst.same.alerts,
    hst.same.limits, hst.same.places.upsert b⟩⟩, ⟨rfl, .refl _ _, .refl _ _, .refl _ _, ?_⟩,
    ⟨rfl, .refl _ _, .refl _ _, .refl _ _, ?_⟩, fun _ _ => trivial⟩
  · exact sameRows_upsert fun x hx hkey => hx (hown x (hkey.trans hb))
  · exact sameRows_upsert fun x hx hkey => hx (hown' x (hkey.trans hb))

/-! ### Authorization -/

theorem findGrant_alike {tenantId : String} {grants grants' : Keyed DeploymentGrant.deploymentId}
    (h : SameRows (fun g : DeploymentGrant => g.tenantId = tenantId) grants grants') (deploymentId : String) :
    findGrant grants tenantId deploymentId = findGrant grants' tenantId deploymentId :=
  h.lookup_filter (fun _ hg => of_decide_eq_true hg) deploymentId

theorem isolates_authenticate (now : Int) :
    Isolates k (fun found => ∀ id ∈ found, Identifies k id) (authenticate k.tokenHash now) := by
  refine isolates_read fun s t hst => ?_
  have hs : s.registry.apiTokens.lookup k.tokenHash = some k := Keyed.lookup_eq_some.2 ⟨hst.held, rfl⟩
  have ht : t.registry.apiTokens.lookup k.tokenHash = some k := Keyed.lookup_eq_some.2 ⟨hst.held', rfl⟩
  have htenant : s.registry.tenants.lookup k.tenantId = t.registry.tenants.lookup k.tenantId :=
    hst.same.tenants.lookup_eq fun _ hn => hn
  unfold findTokenByHash
  rw [hs, ht]
  refine ⟨by simp only [htenant], fun id hid => ?_⟩
  dsimp only at hid
  split at hid
  · cases hid
  · split at hid
    · cases hid
      exact ⟨rfl, rfl⟩
    · cases hid

variable (hk : tokenHash host r.token = k.tokenHash)
include hk

theorem isolates_authorize (scope : String) : Isolates k (Identifies k) (authorize host r scope) := by
  have hnone : ∀ id ∈ (none : Option TokenIdentity), Identifies k id := fun _ h => by cases h
  have hplace : Isolates k (fun _ => True) (takePlace ("auth/" ++ tokenHash host r.token) r.takenAt) := by
    rw [hk]
    exact isolates_takePlace r.takenAt
  have hfind : Isolates k (fun found => ∀ id ∈ found, Identifies k id)
      (authenticate (tokenHash host r.token) r.authenticatedAt) := by
    rw [hk]
    exact isolates_authenticate r.authenticatedAt
  have hrest : ∀ found : Option TokenIdentity, (∀ id ∈ found, Identifies k id) → Isolates k (Identifies k) (do
      let identity ← orDeny found (deny host r none scope 401 "unauthorized")
      permit (identity.scopes.contains scope) (deny host r (some identity) scope 403 "forbidden")
      return identity : Handler TokenIdentity) := by
    intro found hfound
    refine (isolates_orDeny hfound (isolates_deny host r hnone scope 401 _)).andThen fun identity hidentity => ?_
    have hsome : ∀ id ∈ some identity, Identifies k id := fun id h => by
      cases h
      exact hidentity
    exact (isolates_permit _ (isolates_deny host r hsome scope 403 _)).andThen fun _ _ => isolates_pure hidentity
  refine hplace.andThen fun allowed _ => ?_
  refine (isolates_permit _ (isolates_deny host r hnone scope 429 _)).andThen fun _ _ => ?_
  dsimp only
  split
  · exact hfind.andThen hrest
  · exact (isolates_pure hnone).andThen hrest

/-- A deployment that is not the tenant's is not found, whether it exists or not. -/
theorem isolates_deployment (deploymentId scope : String) :
    Isolates k (fun found => Identifies k found.1) (deployment host r deploymentId scope) := by
  refine (isolates_authorize host r hk scope).andThen fun identity hidentity => ?_
  have hsome : ∀ id ∈ some identity, Identifies k id := fun id h => by
    cases h
    exact hidentity
  refine (isolates_permit _ (isolates_deny host r hsome scope 404 _)).andThen fun _ _ => ?_
  have hread : Isolates k (fun _ => True)
      (read fun s => findGrant s.registry.deploymentTenants identity.tenantId deploymentId) := by
    refine isolates_read fun s t hst => ⟨?_, trivial⟩
    rw [hidentity.tenant]
    exact findGrant_alike hst.same.grants deploymentId
  refine hread.andThen fun found _ => ?_
  refine (isolates_orDeny (fun _ _ => trivial) (isolates_deny host r hsome scope 404 _)).andThen fun grant (_ : True) => ?_
  exact isolates_pure hidentity

end Steps

/-! ## What is read -/

section Reading

variable {κ : Type} [LinearOrder κ] (collate : String → κ) {tenantId : String}

theorem listGrants_alike {registry registry' : Registry}
    (h : SameRows (fun g : DeploymentGrant => g.tenantId = tenantId) registry.deploymentTenants registry'.deploymentTenants)
    (limit : Nat) (after : Option String) :
    listGrants collate registry tenantId limit after = listGrants collate registry' tenantId limit after := by
  have hmine : ∀ g : DeploymentGrant, (decide (g.tenantId = tenantId) &&
      after.all fun id => decide (textKey collate id < textKey collate g.deploymentId)) = true → g.tenantId = tenantId :=
    fun g hg => of_decide_eq_true (Bool.and_eq_true_iff.1 hg).1
  unfold listGrants
  rw [h.sortOn_filter hmine fun a b _ _ hab => textKey_injective collate hab]

variable {hosted hosted' : Keyed HostedRow.key} (h : SameRows (fun row => tenantOf row.key = tenantId) hosted hosted')
include h

theorem readHostedEvaluation_alike (deploymentId digest : String) :
    readHostedEvaluation hosted tenantId deploymentId digest = readHostedEvaluation hosted' tenantId deploymentId digest := by
  unfold readHostedEvaluation
  rw [h.lookup_eq fun row hrow => by rw [hrow]; rfl]

theorem readHostedEvaluations_alike (deploymentId : String) (limit : Nat) (after : Option String) :
    readHostedEvaluations collate hosted tenantId deploymentId limit after =
      readHostedEvaluations collate hosted' tenantId deploymentId limit after := by
  have hpast : pastCursor collate hosted tenantId deploymentId after = pastCursor collate hosted' tenantId deploymentId after := by
    funext row
    unfold pastCursor
    simp only [readHostedEvaluation_alike h]
  have hrows : ∀ table : Keyed HostedRow.key, (table.rows.filterMap HostedRow.evaluation?).filter (fun row =>
      decide (row.tenantId = tenantId) && decide (row.deploymentId = deploymentId) &&
        pastCursor collate hosted' tenantId deploymentId after row) =
      (recordsOf tenantId deploymentId table).filter (pastCursor collate hosted' tenantId deploymentId after) := by
    intro table
    unfold recordsOf
    rw [List.filter_filter]
    exact List.filter_congr fun row _ => Bool.and_comm _ _
  have hperm : (recordsOf tenantId deploymentId hosted).Perm (recordsOf tenantId deploymentId hosted') := by
    refine (List.perm_ext_iff_of_nodup (recordsOf_keys collate hosted).of_map (recordsOf_keys collate hosted').of_map).2
      fun row => ?_
    rw [mem_recordsOf, mem_recordsOf]
    exact and_congr_left fun hmine => h (.evaluation row) hmine.1
  unfold readHostedEvaluations
  rw [hpast, hrows, hrows]
  refine congrArg (List.take limit) (sortOn_eq_of_perm (fun a ha b hb hab => ?_) (hperm.filter _))
  exact List.inj_on_of_nodup_map (recordsOf_keys collate hosted) (List.mem_of_mem_filter ha) (List.mem_of_mem_filter hb) hab

end Reading

/-! ## What is written -/

section Writing

variable {k : ApiToken}

theorem rememberAnswer_within (sha256 : String → String) (input : HostedIngest) (duplicate : Bool) :
    Program.Within HostedRow.key (fun key => tenantOf key = input.tenantId) (rememberAnswer sha256 input duplicate) := by
  unfold rememberAnswer
  split
  · exact .rollback
  · exact .insert rfl .commit

/-- An ingest reads and writes rows of its own tenant only. -/
theorem ingestHostedEvaluation_within (sha256 : String → String) (grants : Keyed DeploymentGrant.deploymentId)
    (input : HostedIngest) :
    Program.Within HostedRow.key (fun key => tenantOf key = input.tenantId) (ingestHostedEvaluation sha256 grants input) := by
  have hinsert : Program.Within HostedRow.key (fun key => tenantOf key = input.tenantId) (insertRecord sha256 grants input) := by
    unfold insertRecord
    split
    · exact .rollback
    · exact .insert rfl (rememberAnswer_within sha256 input false)
  have hrecord : Program.Within HostedRow.key (fun key => tenantOf key = input.tenantId) (lookUpRecord sha256 grants input) := by
    refine .select rfl fun found _ => ?_
    split
    · split
      · exact .rollback
      · exact rememberAnswer_within sha256 input true
    · exact hinsert
  refine .lock (.select rfl fun found _ => ?_)
  split
  · split
    · exact .rollback
    · exact .commit
  · exact hrecord

theorem ingestHostedEvaluation_congr (sha256 : String → String) {grants grants' : Keyed DeploymentGrant.deploymentId}
    {input : HostedIngest}
    (h : findGrant grants input.tenantId input.deploymentId = findGrant grants' input.tenantId input.deploymentId) :
    ingestHostedEvaluation sha256 grants input = ingestHostedEvaluation sha256 grants' input := by
  have hcheck : input.recordCheck sha256 grants = input.recordCheck sha256 grants' := by
    unfold HostedIngest.recordCheck
    rw [h]
  unfold ingestHostedEvaluation lookUpAnswer lookUpRecord insertRecord
  simp only [hcheck]

theorem isolates_ingest (host : ApiHost) {input : HostedIngest} (hinput : input.tenantId = k.tenantId) :
    Isolates k (fun _ => True) (ingest host input) := by
  intro s t hst
  have hgrant : findGrant s.registry.deploymentTenants input.tenantId input.deploymentId =
      findGrant t.registry.deploymentTenants input.tenantId input.deploymentId := by
    rw [hinput]
    exact findGrant_alike hst.same.grants input.deploymentId
  have hprogram := ingestHostedEvaluation_congr host.verifier.sha256 hgrant
  have hlookup : ∀ key, tenantOf key = input.tenantId → s.hosted.lookup key = t.hosted.lookup key := fun key hkey =>
    hst.same.hosted.lookup_eq fun row hrow => by rw [hrow, hkey, hinput]
  have hwithin := ingestHostedEvaluation_within host.verifier.sha256 s.registry.deploymentTenants input
  obtain ⟨hanswer, hafter⟩ := hwithin.alone_alike hlookup []
  have helsewhere : ∀ table : Keyed HostedRow.key, SameRows (fun row => tenantOf row.key ≠ k.tenantId) table
      ((ingestHostedEvaluation host.verifier.sha256 s.registry.deploymentTenants input).alone table []).2 := fun table => by
    rw [← hinput]
    exact hwithin.alone_elsewhere [] fun r hr => absurd hr List.not_mem_nil
  simp only [ingest, Stateful.op, ← hprogram]
  refine ⟨by rw [hanswer], ⟨hst.held, ⟨hst.same.tenants, hst.same.apiTokens, hst.same.grants, ?_, hst.same.alerts,
    hst.same.limits, hst.same.places⟩⟩, ⟨rfl, helsewhere _, .refl _ _, .refl _ _, .refl _ _⟩,
    ⟨rfl, helsewhere _, .refl _ _, .refl _ _, .refl _ _⟩, fun _ _ => trivial⟩
  exact sameRows_of_lookup_eq fun r hr => hafter r.key (hr.trans hinput.symm)

/-! ### Alerts -/

theorem acknowledgeRow_check {selects : AlertOutboxRow → Bool} {by_ : String} {at_ : Int} {row : AlertOutboxRow}
    (h : row.check = .ok ()) : (acknowledgeRow selects by_ at_ row).check = .ok () := by
  unfold acknowledgeRow
  split
  next hopen =>
    rw [Bool.and_eq_true] at hopen
    obtain ⟨hfits, hattempts, hoccurrences, hevidence, hincident, -, hrecovered⟩ := AlertOutboxRow.check_eq_ok.1 h
    have hstate : row.lifecycleState ≠ .recovered := of_decide_eq_true hopen.2
    rw [decide_eq_false hstate] at hrecovered
    exact AlertOutboxRow.check_eq_ok.2 ⟨hfits, hattempts, hoccurrences, hevidence, hincident, rfl, hrecovered⟩
  next => exact h

theorem acknowledgeRow_deploymentId (selects : AlertOutboxRow → Bool) (by_ : String) (at_ : Int) (row : AlertOutboxRow) :
    (acknowledgeRow selects by_ at_ row).deploymentId = row.deploymentId := by
  unfold acknowledgeRow
  split <;> rfl

theorem contains_iff_ownAlert {s : ApiState} {tenantId : String} {row : AlertOutboxRow} :
    s.alertDb.deploymentTenants.contains (row.deploymentId, tenantId) = true ↔ s.OwnAlert tenantId row := by
  rw [List.contains_iff_mem]
  show _ ∈ s.registry.deploymentTenants.rows.map _ ↔ _
  rw [List.mem_map]
  exact exists_congr fun g => and_congr_right fun _ => by rw [Prod.mk.injEq, and_comm]

/-- What an acknowledgement selects. -/
def selected (s : ApiState) (tenantId incidentKey : String) (row : AlertOutboxRow) : Bool :=
  s.alertDb.deploymentTenants.contains (row.deploymentId, tenantId) && row.incidentKey = incidentKey

/-- An acknowledgement is never refused. -/
theorem acknowledge_apply (s : ApiState) (tenantId incidentKey by_ : String) (at_ : Int) :
    ∃ alertOutbox : AlertOutbox,
      alertOutbox.table.rows = s.alertOutbox.table.rows.map (acknowledgeRow (selected s tenantId incidentKey) by_ at_) ∧
        acknowledge tenantId incidentKey by_ at_ s =
          (.ok (s.alertOutbox.table.rows.filter fun r => selected s tenantId incidentKey r && r.isOpen).length,
            { s with alertOutbox }) := by
  have hcommits : ∃ alertOutbox, s.alertOutbox.update (acknowledgeRow (selected s tenantId incidentKey) by_ at_)
      (acknowledgeRow_dedupKey _ _ _) (acknowledgeRow_outboxId _ _ _) = .ok alertOutbox :=
    AlertOutbox.update_commits fun r hr => acknowledgeRow_check (s.alertOutbox.checks r hr)
  obtain ⟨alertOutbox, hupdate⟩ := hcommits
  refine ⟨alertOutbox, AlertOutbox.update_ok hupdate, ?_⟩
  have hrows : acknowledgeTenantAlert s.alertDb tenantId incidentKey by_ at_ =
      .ok ((s.alertOutbox.table.rows.filter fun r => selected s tenantId incidentKey r && r.isOpen).length,
        { s.alertDb with alertOutbox }) := by
    show (do
      let alertOutbox ← s.alertOutbox.update (acknowledgeRow (selected s tenantId incidentKey) by_ at_)
        (acknowledgeRow_dedupKey _ _ _) (acknowledgeRow_outboxId _ _ _)
      return (_, { s.alertDb with alertOutbox }) : Except Violation (Nat × AlertDb)) = _
    rw [hupdate]
    rfl
  simp only [acknowledge, Stateful.op, hrows]

theorem isolates_acknowledge (incidentKey by_ : String) (at_ : Int) :
    Isolates k (fun _ => True) (acknowledge k.tenantId incidentKey by_ at_) := by
  intro s t hst
  have hown : ∀ row, s.OwnAlert k.tenantId row ↔ t.OwnAlert k.tenantId row := fun row => by
    constructor
    · rintro ⟨g, hg, hmine, hrow⟩
      exact ⟨g, (hst.same.grants g hmine).1 hg, hmine, hrow⟩
    · rintro ⟨g, hg, hmine, hrow⟩
      exact ⟨g, (hst.same.grants g hmine).2 hg, hmine, hrow⟩
  have hselected : selected s k.tenantId incidentKey = selected t k.tenantId incidentKey := by
    funext row
    unfold selected
    rw [Bool.eq_iff_iff.2 (contains_iff_ownAlert.trans ((hown row).trans contains_iff_ownAlert.symm))]
  have hmine : ∀ row, selected s k.tenantId incidentKey row = true → s.OwnAlert k.tenantId row := fun row hrow =>
    contains_iff_ownAlert.1 (Bool.and_eq_true_iff.1 hrow).1
  have hkept : ∀ row, s.OwnAlert k.tenantId (acknowledgeRow (selected s k.tenantId incidentKey) by_ at_ row) ↔
      s.OwnAlert k.tenantId row := fun row => by
    unfold ApiState.OwnAlert
    rw [acknowledgeRow_deploymentId]
  have hfixed : ∀ row, ¬ s.OwnAlert k.tenantId row →
      acknowledgeRow (selected s k.tenantId incidentKey) by_ at_ row = row := fun row hrow => by
    unfold acknowledgeRow
    rw [if_neg fun h => hrow (hmine row (Bool.and_eq_true_iff.1 h).1)]
  obtain ⟨o, ho, hs⟩ := acknowledge_apply s k.tenantId incidentKey by_ at_
  obtain ⟨o', ho', ht⟩ := acknowledge_apply t k.tenantId incidentKey by_ at_
  rw [← hselected] at ho' ht
  have hopen : ∀ row, (selected s k.tenantId incidentKey row && row.isOpen) = true → s.OwnAlert k.tenantId row :=
    fun row hrow => hmine row (Bool.and_eq_true_iff.1 hrow).1
  have hcount := (hst.same.alerts.filter_perm hopen).length_eq
  rw [hs, ht, hcount]
  refine ⟨rfl, ⟨hst.held, ⟨hst.same.tenants, hst.same.apiTokens, hst.same.grants, hst.same.hosted,
    hst.same.alerts.map ho ho' hkept, hst.same.limits, hst.same.places⟩⟩, ⟨rfl, .refl _ _, ?_, .refl _ _, .refl _ _⟩,
    ⟨rfl, .refl _ _, ?_, .refl _ _, .refl _ _⟩, fun _ _ => trivial⟩
  · exact sameRows_map ho (fun row => not_congr (hkept row)) hfixed
  · refine (sameRows_map ho' (fun row => not_congr (hkept row)) hfixed).imp fun row hrow => ?_
    rwa [hown row]

end Writing

/-! ## The routes -/

section Routes

variable {k : ApiToken} (host : ApiHost) {κ : Type} [LinearOrder κ] (collate : String → κ) (r : ApiRequest)

/-- The end of a route that is answered. -/
theorem isolates_answered {identity : TokenIdentity} (hidentity : Identifies k identity) (action : String)
    (outcome : AuditOutcome) (statusCode : Int) (reply : Reply) : Isolates k (fun _ => True) (do
      audit host r (some identity) action outcome statusCode
      return reply : Handler Reply) := by
  have hsome : ∀ id ∈ some identity, Identifies k id := fun id h => by
    cases h
    exact hidentity
  exact (isolates_audit host r hsome action outcome statusCode).andThen fun _ _ => isolates_pure trivial

theorem isolates_timeline {identity : TokenIdentity} (hidentity : Identifies k identity) (grant : DeploymentGrant)
    (limit : Nat) (after : Option String) : Isolates k (fun _ => True) (timeline collate identity grant limit after) := by
  refine isolates_read fun s t hst => ⟨?_, trivial⟩
  rw [hidentity.tenant]
  exact readHostedEvaluations_alike collate hst.same.hosted grant.deploymentId limit after

variable (hk : tokenHash host r.token = k.tokenHash)
include hk

theorem isolates_listDeployments : Isolates k (fun _ => True) (listDeployments host collate r) := by
  refine (isolates_authorize host r hk "status:read").andThen fun identity hidentity => ?_
  refine (isolates_decided fun _ _ => trivial).andThen fun bounds (_ : True) => ?_
  have hread : Isolates k (fun _ => True)
      (read fun s => listGrants collate s.registry identity.tenantId bounds.1 bounds.2) := by
    refine isolates_read fun s t hst => ⟨?_, trivial⟩
    rw [hidentity.tenant]
    exact listGrants_alike collate hst.same.grants bounds.1 bounds.2
  exact hread.andThen fun grants _ => isolates_answered host r hidentity "status:read" .allowed 200 _

theorem isolates_deploymentStatus (deploymentId : String) :
    Isolates k (fun _ => True) (deploymentStatus host collate r deploymentId) := by
  refine (isolates_deployment host r hk deploymentId "status:read").andThen fun found hidentity => ?_
  refine (isolates_timeline collate hidentity found.2 1 none).andThen fun rows _ => ?_
  exact isolates_answered host r hidentity "status:read" .allowed 200 _

theorem isolates_records (scope field deploymentId : String) :
    Isolates k (fun _ => True) (records host collate r scope field deploymentId) := by
  refine (isolates_deployment host r hk deploymentId scope).andThen fun found hidentity => ?_
  refine (isolates_decided fun _ _ => trivial).andThen fun bounds (_ : True) => ?_
  refine (isolates_timeline collate hidentity found.2 bounds.1 bounds.2).andThen fun rows _ => ?_
  exact isolates_answered host r hidentity scope .allowed 200 _

theorem isolates_messageTimeline (deploymentId : String) :
    Isolates k (fun _ => True) (messageTimeline host collate r deploymentId) := by
  refine (isolates_deployment host r hk deploymentId "evidence:read").andThen fun found hidentity => ?_
  refine (isolates_timeline collate hidentity found.2 100 none).andThen fun rows _ => ?_
  refine (isolates_decided fun _ _ => trivial).andThen fun messages (_ : True) => ?_
  exact isolates_answered host r hidentity "evidence:read" .allowed 200 _

/-- A digest of someone else's is not found, whether it exists or not. -/
theorem isolates_downloadEvidence (deploymentId digest : String) :
    Isolates k (fun _ => True) (downloadEvidence host r deploymentId digest) := by
  refine (isolates_deployment host r hk deploymentId "evidence:read").andThen fun found hidentity => ?_
  refine (isolates_decided fun _ _ => trivial).andThen fun _ (_ : True) => ?_
  have hread : Isolates k (fun _ => True)
      (read fun s => readHostedEvaluation s.hosted found.1.tenantId found.2.deploymentId digest) := by
    refine isolates_read fun s t hst => ⟨?_, trivial⟩
    rw [hidentity.tenant]
    exact readHostedEvaluation_alike hst.same.hosted found.2.deploymentId digest
  refine hread.andThen fun record _ => ?_
  refine (isolates_orDeny (fun _ _ => trivial) (isolates_throw notFound)).andThen fun row (_ : True) => ?_
  exact isolates_answered host r hidentity "evidence:read" .allowed 200 _

/-- An incident of someone else's is not found, whether it exists or not. -/
theorem isolates_acknowledgeAlert (incidentKey : String) :
    Isolates k (fun _ => True) (acknowledgeAlert host r incidentKey) := by
  refine (isolates_authorize host r hk "alerts:ack").andThen fun identity hidentity => ?_
  refine (isolates_decided fun _ _ => trivial).andThen fun _ (_ : True) => ?_
  have hack : Isolates k (fun _ => True) (acknowledge identity.tenantId incidentKey identity.tokenId r.handledAt) := by
    rw [hidentity.tenant]
    exact isolates_acknowledge incidentKey identity.tokenId r.handledAt
  exact hack.andThen fun count _ => isolates_answered host r hidentity "alerts:ack" _ _ _

/-! ### Ingesting -/

omit hk

theorem readMetadata_tenant {tenantId key : String} {body : JsValue} {input : HostedIngest}
    (h : readMetadata host r tenantId key body = some input) : input.tenantId = tenantId := by
  unfold readMetadata at h
  simp only [Option.bind_eq_bind, Option.bind_eq_some_iff] at h
  obtain ⟨_, -, _, -, _, -, _, -, _, -, _, -, _, -, _, -, _, -, _, -, _, -, h⟩ := h
  split at h
  · obtain ⟨_, -, h⟩ := Option.bind_eq_some_iff.1 h
    split at h
    · obtain ⟨_, -, h⟩ := Option.bind_eq_some_iff.1 h
      cases h
      rfl
    · cases h
  · cases h

theorem readApproved_tenant {tenantId key : String} {body : JsValue} {input : HostedIngest}
    (h : readApproved host r tenantId key body = some input) : input.tenantId = tenantId := by
  unfold readApproved at h
  obtain ⟨_, -, h⟩ := Option.bind_eq_some_iff.1 h
  obtain ⟨_, -, h⟩ := Option.bind_eq_some_iff.1 h
  obtain ⟨_, -, h⟩ := Option.bind_eq_some_iff.1 h
  obtain ⟨_, -, h⟩ := Option.bind_eq_some_iff.1 h
  cases h
  rfl

/-- Whatever the body says, the record is the caller's. -/
theorem readIngest_tenant {tenantId key : String} {body : JsValue} {input : HostedIngest}
    (h : readIngest host r tenantId key body = .ok input) : input.tenantId = tenantId := by
  unfold readIngest at h
  split at h
  · cases h
  · split at h
    · cases h
    · split at h
      · obtain ⟨_, -, h⟩ := bind_eq_ok.1 h
        obtain ⟨_, -, h⟩ := bind_eq_ok.1 h
        split at h
        · next hread =>
          cases h
          exact readApproved_tenant host r hread
        · cases h
      · split at h
        · next hread =>
          cases h
          exact readMetadata_tenant host r hread
        · cases h
      · cases h

include hk

theorem isolates_ingestEvaluation : Isolates k (fun _ => True) (ingestEvaluation host r) := by
  refine (isolates_authorize host r hk "ingest:write").andThen fun identity hidentity => ?_
  have hsome : ∀ id ∈ some identity, Identifies k id := fun id h => by
    cases h
    exact hidentity
  refine (isolates_orDeny (fun _ _ => trivial) (isolates_throw _)).andThen fun key (_ : True) => ?_
  refine (isolates_decided fun _ _ => trivial).andThen fun body (_ : True) => ?_
  have hread : Isolates k (fun input => input.tenantId = k.tenantId) (decided (readIngest host r identity.tenantId key body)) :=
    isolates_decided fun input hinput => (readIngest_tenant host r hinput).trans hidentity.tenant
  refine hread.andThen fun input hinput => ?_
  have hgrant : Isolates k (fun _ => True)
      (read fun s => findGrant s.registry.deploymentTenants identity.tenantId input.deploymentId) := by
    refine isolates_read fun s t hst => ⟨?_, trivial⟩
    rw [hidentity.tenant]
    exact findGrant_alike hst.same.grants input.deploymentId
  refine hgrant.andThen fun grant _ => ?_
  refine (isolates_permit _ (isolates_deny host r hsome "ingest:write" 404 _)).andThen fun _ _ => ?_
  refine (isolates_decided fun _ _ => trivial).andThen fun _ (_ : True) => ?_
  refine (isolates_decided fun _ _ => trivial).andThen fun text (_ : True) => ?_
  have hstored : Isolates k (fun _ => True) (ingest host { input with text }) := isolates_ingest host hinput
  refine Stateful.Secure.orCatch OthersKept.trans
    (hstored.andThen fun answer _ => isolates_answered host r hidentity "ingest:write" .allowed answer.status _) fun _ => ?_
  exact isolates_answered host r hidentity "ingest:write" .denied 409 _

theorem isolates_routed : Isolates k (fun _ => True) (routed host collate r) := by
  unfold routed
  split
  · exact isolates_decided fun _ _ => trivial
  · exact isolates_decided fun _ _ => trivial
  · exact isolates_decided fun _ _ => trivial
  · exact isolates_listDeployments host collate r hk
  · exact isolates_deploymentStatus host collate r hk _
  · exact isolates_records host collate r hk _ _ _
  · exact isolates_messageTimeline host collate r hk _
  · exact isolates_records host collate r hk _ _ _
  · exact isolates_downloadEvidence host r hk _ _
  · exact isolates_ingestEvaluation host r hk
  · exact isolates_acknowledgeAlert host r hk _

/-- One request of the token's holder. -/
theorem serve_alike {s t : ApiState} (h : Alike k s t) :
    (serve host collate r s).1 = (serve host collate r t).1 ∧
      Alike k (serve host collate r s).2 (serve host collate r t).2 ∧
      OthersKept k.tenantId s (serve host collate r s).2 ∧ OthersKept k.tenantId t (serve host collate r t).2 := by
  have hserved : Isolates k (fun _ => True) (do
      decided (parsed r)
      routed host collate r : Handler Reply) :=
    (isolates_decided fun _ _ => trivial).andThen fun _ (_ : True) => isolates_routed host collate r hk
  obtain ⟨hanswer, hafter, hs, ht, -⟩ := hserved s t h
  exact ⟨by simp only [serve, hanswer], hafter, hs, ht⟩

end Routes

/-! ## Runs -/

/-- The request presents a token of the tenant. -/
def ApiRequest.PresentedBy (r : ApiRequest) (host : ApiHost) (tenantId : String) (s : ApiState) : Prop :=
  ∃ k ∈ s.registry.apiTokens.rows, k.tenantId = tenantId ∧ k.tokenHash = tokenHash host r.token

/-- The state with the rows of the tenant, and no one else's. -/
def ApiState.onlyOf (s : ApiState) (tenantId : String) : ApiState where
  rate := { s.rate with entries := s.rate.entries.keep fun b =>
    s.registry.apiTokens.rows.any fun k => decide (k.tenantId = tenantId) && decide (b.key = "auth/" ++ k.tokenHash) }
  registry := {
    tenants := s.registry.tenants.keep fun n => decide (n.tenantId = tenantId)
    apiTokens := s.registry.apiTokens.keep fun k => decide (k.tenantId = tenantId)
    deploymentTenants := s.registry.deploymentTenants.keep fun g => decide (g.tenantId = tenantId)
    tokenIds := s.registry.tokenIds.sublist (List.filter_sublist.map _)
    tokenTenants := fun k hk => by
      obtain ⟨hk, hmine⟩ := Keyed.mem_keep.1 hk
      obtain ⟨n, hn, hid⟩ := Keyed.has_iff.1 (s.registry.tokenTenants k hk)
      exact Keyed.has_iff.2 ⟨n, Keyed.mem_keep.2 ⟨hn, by rwa [hid]⟩, hid⟩
    grantTenants := fun g hg => by
      obtain ⟨hg, hmine⟩ := Keyed.mem_keep.1 hg
      obtain ⟨n, hn, hid⟩ := Keyed.has_iff.1 (s.registry.grantTenants g hg)
      exact Keyed.has_iff.2 ⟨n, Keyed.mem_keep.2 ⟨hn, by rwa [hid]⟩, hid⟩ }
  hosted := s.hosted.keep fun row => decide (tenantOf row.key = tenantId)
  alertOutbox := {
    table := s.alertOutbox.table.keep fun row =>
      s.registry.deploymentTenants.rows.any fun g => decide (g.tenantId = tenantId) && decide (g.deploymentId = row.deploymentId)
    ids := s.alertOutbox.ids.sublist (List.filter_sublist.map _)
    checks := fun row hrow => s.alertOutbox.checks row (Keyed.mem_keep.1 hrow).1 }
  apiAuditLog := s.apiAuditLog.keep fun e => decide (e.tenantId = some tenantId)

theorem sameTenant_onlyOf (s : ApiState) (tenantId : String) : SameTenant tenantId s (s.onlyOf tenantId) where
  tenants := sameRows_keep fun _ hn => decide_eq_true hn
  apiTokens := sameRows_keep fun _ hk => decide_eq_true hk
  grants := sameRows_keep fun _ hg => decide_eq_true hg
  hosted := sameRows_keep fun _ hrow => decide_eq_true hrow
  alerts := sameRows_keep fun row ⟨g, hg, hmine, hrow⟩ => List.any_eq_true.2
    ⟨g, hg, by rw [decide_eq_true hmine, decide_eq_true hrow]; rfl⟩
  limits := ⟨rfl, rfl⟩
  places := sameRows_keep fun b ⟨k, hk, hmine, hb⟩ => List.any_eq_true.2
    ⟨k, hk, by rw [decide_eq_true hmine, decide_eq_true hb]; rfl⟩

section Runs

variable (host : ApiHost) {κ : Type} [LinearOrder κ] (collate : String → κ) {tenantId : String} {requests : List ApiRequest}
  {s t : ApiState}

theorem runAll_serve_alike (hsame : SameTenant tenantId s t) (hrequests : ∀ r ∈ requests, r.PresentedBy host tenantId s) :
    (Stateful.runAll (serve host collate) requests s).1 = (Stateful.runAll (serve host collate) requests t).1 ∧
      SameTenant tenantId (Stateful.runAll (serve host collate) requests s).2 (Stateful.runAll (serve host collate) requests t).2 ∧
      OthersKept tenantId s (Stateful.runAll (serve host collate) requests s).2 ∧
      OthersKept tenantId t (Stateful.runAll (serve host collate) requests t).2 := by
  refine Stateful.runAll_alike (OthersKept.refl tenantId) OthersKept.trans (fun r s s' hkept hr => ?_)
    (fun r s t hsame hr => ?_) hsame hrequests
  · unfold ApiRequest.PresentedBy
    rwa [hkept.registry]
  · obtain ⟨k, hk, rfl, hhash⟩ := hr
    obtain ⟨hanswer, hafter, hs, ht⟩ := serve_alike host collate r hhash.symm ⟨hk, hsame⟩
    exact ⟨hanswer, hafter.same, hs, ht⟩

end Runs

/-- Tenants are isolated: two states that hold the same rows of a tenant, and any rows of others, answer every sequence of
requests made with the tenant's tokens alike, and change no one else's rows. So a deployment, a digest or an incident of
another tenant is answered as in the state that has no other tenant. -/
theorem tenants_isolated (host : ApiHost) {κ : Type} [LinearOrder κ] (collate : String → κ) (tenantId : String)
    (requests : List ApiRequest) (s t : ApiState) (hsame : SameTenant tenantId s t)
    (hrequests : ∀ r ∈ requests, r.PresentedBy host tenantId s) :
    (Stateful.runAll (serve host collate) requests s).1 = (Stateful.runAll (serve host collate) requests t).1 ∧
      SameTenant tenantId (Stateful.runAll (serve host collate) requests s).2 (Stateful.runAll (serve host collate) requests t).2 ∧
      OthersKept tenantId s (Stateful.runAll (serve host collate) requests s).2 ∧
      OthersKept tenantId t (Stateful.runAll (serve host collate) requests t).2 ∧
      (Stateful.runAll (serve host collate) requests s).1 =
        (Stateful.runAll (serve host collate) requests (s.onlyOf tenantId)).1 := by
  obtain ⟨hanswers, hafter, hs, ht⟩ := runAll_serve_alike host collate hsame hrequests
  exact ⟨hanswers, hafter, hs, ht, (runAll_serve_alike host collate (sameTenant_onlyOf s tenantId) hrequests).1⟩

/-! ### Two tenants -/

def sampleApiHost : ApiHost where
  verifier := {
    nfc := Evidence.sampleNfc
    sha256 := fun s => s
    jsonSecrets := fun _ => .ok []
    findSecrets := fun _ => []
    dateParse := fun _ => none }
  toISOString := fun _ => ""
  auditId := fun _ _ => none

def sampleToken (tenantId token : String) : ApiToken where
  tokenId := tenantId ++ "-token"
  tenantId
  tokenHash := tokenHash sampleApiHost token
  scopes := ["status:read"]
  expiresAt := 100
  revokedAt := none

/-- Two tenants, of which the second has the only deployment. -/
def twoTenants : ApiState where
  rate := { limit := 120, windowMs := 60000, entries := ∅ }
  registry := {
    tenants := ⟨[⟨"acme", none⟩, ⟨"other", none⟩], by decide⟩
    apiTokens := ⟨[sampleToken "acme" "acme-token-000001", sampleToken "other" "other-token-00001"], by decide +kernel⟩
    deploymentTenants := ⟨[⟨"bridge", "other", .sanitizedMetadata⟩], by decide⟩
    tokenIds := by decide +kernel
    tokenTenants := by decide +kernel
    grantTenants := by decide +kernel }
  hosted := ∅
  alertOutbox := .empty
  apiAuditLog := ∅

/-- The first tenant asks for the deployment of the second. -/
def foreignRequest : ApiRequest where
  id := "req-1"
  route := .deploymentStatus "bridge"
  authorization := some "Bearer acme-token-000001"
  query := []
  idempotencyKey := none
  body := .ok .undefined
  storeReady := true
  takenAt := 1
  authenticatedAt := 1
  handledAt := 1
  dbNow := 1

theorem tenants_isolated_foreign :
    (Stateful.runAll (serve sampleApiHost fun s => s) [foreignRequest] twoTenants).1 =
        (Stateful.runAll (serve sampleApiHost fun s => s) [foreignRequest] (twoTenants.onlyOf "acme")).1 ∧
      OthersKept "acme" twoTenants (Stateful.runAll (serve sampleApiHost fun s => s) [foreignRequest] twoTenants).2 := by
  have hpresented : ∀ r ∈ [foreignRequest], r.PresentedBy sampleApiHost "acme" twoTenants := by
    intro r hr
    rw [List.mem_singleton.1 hr]
    exact ⟨sampleToken "acme" "acme-token-000001", List.mem_cons_self, rfl, by decide +kernel⟩
  obtain ⟨hanswers, -, hkept, -⟩ := tenants_isolated sampleApiHost (fun s => s) "acme" [foreignRequest] twoTenants
    (twoTenants.onlyOf "acme") (sameTenant_onlyOf twoTenants "acme") hpresented
  exact ⟨hanswers, hkept⟩

end IcttSentinel.Api
