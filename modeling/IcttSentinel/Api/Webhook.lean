/-
The webhook route, apps/api/src/server.ts: "a webhook is accepted once: the nonce is remembered until its timestamp
window closes, and a repeat inside that window is refused". A request is still fresh at the millisecond its window
closes, and at that very millisecond a sweep forgets its nonce already: there the request can be replayed.
-/
import IcttSentinel.Api.Requests
import IcttSentinel.Evidence.Replay
import IcttSentinel.Lib.BigIntText

namespace IcttSentinel.Api

open IcttSentinel.Lib IcttSentinel.Storage
open IcttSentinel.Evidence (JsValue entries? property domainSeparatedSha256 jsonParse)

/-! ## The route -/

/-- What the route takes from the process it runs in: its secrets, HMAC-SHA256, SHA-256, and `JSON.parse` of a body as
UTF-8, which is none where that throws. -/
structure HookHost where
  webhookSecret : String → String → Option String
  hmac : String → List UInt8 → List UInt8
  sha256 : String → String
  parseBody : List UInt8 → Option JsValue

/-- A delivery: the two segments of its path, its headers, and its bytes where its media type is that of a hint. -/
structure HookRequest where
  tenantId : String
  sourceId : String
  timestamp : Option String
  nonce : Option String
  signature : Option String
  body : Option (List UInt8)
  deriving DecidableEq

structure HookHint where
  deploymentId : String
  chainKey : String
  suggestedBlockNumber : String
  deriving DecidableEq

/-- `/^[0-9]{10,13}$/`. -/
def isTimestamp (s : String) : Bool :=
  decide (10 ≤ s.toList.length) && decide (s.toList.length ≤ 13) && s.toList.all Char.isDigit

/-- `/^(0|[1-9][0-9]*)$/`. -/
def isBlockNumber (s : String) : Bool :=
  match s.toList with
  | [] => false
  | c :: cs => c.isDigit && cs.all Char.isDigit && (c ≠ '0' || cs.isEmpty)

/-- `Number(stamp)` and `BigInt(text)` of a text of digits. -/
def numberOf (digits : String) : Int := ((numeral 10 digits.toList).getD 0 : Nat)

/-- The greatest time a `Date` can hold. -/
def maxTime : Int := 8640000000000000

/-- `Buffer.from(signature, 'hex')`. -/
def bytesOfHex : List Char → List UInt8
  | high :: low :: cs =>
    UInt8.ofNat (16 * ((Json.hexDigit high).getD 0) + (Json.hexDigit low).getD 0) :: bytesOfHex cs
  | _ => []

def bytesOf (s : String) : List UInt8 := s.toUTF8.toList

/-- What is signed. -/
def signedBytes (stamp nonce : String) (raw : List UInt8) : List UInt8 :=
  bytesOf stamp ++ bytesOf "." ++ bytesOf nonce ++ bytesOf "." ++ raw

def readHint (body : Option JsValue) : Option HookHint :=
  match body.bind entries? with
  | none => none
  | some entries =>
    match property entries "deploymentId", property entries "chainKey", property entries "suggestedBlockNumber" with
    | .str deploymentId, .str chainKey, .str suggestedBlockNumber =>
      if exact entries ["deploymentId", "chainKey", "suggestedBlockNumber"] && isApiId deploymentId && isApiId chainKey &&
          isBlockNumber suggestedBlockNumber && decide (suggestedBlockNumber.toList.length ≤ 78) then
        some { deploymentId, chainKey, suggestedBlockNumber }
      else none
    | _, _, _ => none

/-- How far the clocks of the sender and the API may be apart, and how long a nonce is remembered. -/
def hookWindow : Int := 300000

def invalidWebhook : Reply := .refusal 401 "invalid-webhook"

/-- What is checked before anything is looked up, and the nonce that is claimed then. -/
def admitHook (host : HookHost) (now : Int) (r : HookRequest) : Except Reply (NonceRow × HookHint) :=
  match r.timestamp, r.nonce, r.signature, r.body with
  | some stamp, some nonce, some signature, some raw => do
    orReply (isSegment r.tenantId && isSegment r.sourceId && isTimestamp stamp && isNonce nonce && isDigest signature)
      invalidWebhook
    let signedAt := numberOf stamp
    orReply (decide (signedAt ≤ maxTime) && decide (|now - signedAt| ≤ hookWindow)) invalidWebhook
    let expected := (host.webhookSecret r.tenantId r.sourceId).map fun secret =>
      host.hmac secret (signedBytes stamp nonce raw)
    orReply (decide (expected = some (bytesOfHex signature.toList))) invalidWebhook
    match readHint (host.parseBody raw) with
    | none => .error (.refusal 400 "invalid-hint")
    | some hint =>
      return ({ tenantId := r.tenantId, nonce, signedAt, expiresAt := signedAt + hookWindow }, hint)
  | _, _, _, _ => .error invalidWebhook

/-- The state of the process and of the store. -/
structure HookState where
  rate : RateLimiter
  db : HookDb

/-- A delivery's answer, and whether it got past `claimNonce`. -/
structure Delivery where
  reply : Reply
  accepted : Bool

/-- The hint of an accepted delivery, in the store of `postgres.ts`: a deployment of another tenant queues nothing. -/
def queueHint (host : HookHost) (tenantId sourceId : String) (hint : HookHint) (db : HookDb) :
    Except Violation (Bool × HookDb) :=
  let dedup := domainSeparatedSha256 host.sha256 "ictt-sentinel/webhook-hint/v1"
    ("/".intercalate [tenantId, sourceId, hint.deploymentId, hint.chainKey, hint.suggestedBlockNumber])
  match findGrant db.deploymentTenants tenantId hint.deploymentId with
  | none => .ok (false, db)
  | some _ =>
    enqueueHint
      { hintId := dedup
        deploymentId := hint.deploymentId
        chainKey := hint.chainKey
        suggestedBlockNumber := numberOf hint.suggestedBlockNumber
        source := "webhook"
        dedupKey := dedup } db

/-- A delivery is answered. Statements commit one by one: a nonce stays claimed where its hint cannot be queued. -/
def deliver (host : HookHost) (now : Int) (r : HookRequest) (s : HookState) : Delivery × HookState :=
  match admitHook host now r with
  | .error reply => (⟨reply, false⟩, s)
  | .ok (row, hint) =>
    let (taken, rate) := s.rate.take ("hook/" ++ r.tenantId ++ "/" ++ r.sourceId) now
    if !taken then (⟨.refusal 429 "rate-limited", false⟩, { s with rate })
    else
      match claimNonce row s.db with
      | .error _ => (⟨.thrown, false⟩, { s with rate })
      | .ok (false, db) => (⟨.refusal 409 "webhook-replay", false⟩, { rate, db })
      | .ok (true, db) =>
        match queueHint host r.tenantId r.sourceId hint db with
        | .error _ => (⟨.thrown, true⟩, { rate, db })
        | .ok (queued, db) =>
          (⟨⟨202, .obj [("accepted", .bool true), ("duplicateHint", .bool !queued),
            ("effect", .str "bounded-priority-hint-only")]⟩, true⟩, { rate, db })

/-! ## Runs -/

inductive HookEvent where
  | delivered (now : Int) (request : HookRequest)
  | swept (now : Int)
  deriving DecidableEq

def HookEvent.time : HookEvent → Int
  | .delivered now _ => now
  | .swept now => now

def hookStep (host : HookHost) (s : HookState) : HookEvent → HookState
  | .delivered now r => (deliver host now r s).2
  | .swept now => { s with db := sweepNonces now s.db }

/-- The deliveries of a run that got past `claimNonce`. -/
def acceptedHooks (host : HookHost) : HookState → List HookEvent → List HookRequest
  | _, [] => []
  | s, event :: events =>
    (match event with
      | .delivered now r => if (deliver host now r s).1.accepted then [r] else []
      | .swept _ => []) ++ acceptedHooks host (hookStep host s event) events

/-- The tenant, nonce, timestamp and signature of a delivery. -/
def HookRequest.signed (r : HookRequest) : String × Option String × Option String × Option String :=
  (r.tenantId, r.nonce, r.timestamp, r.signature)

/-- The last millisecond at which a delivery is fresh. -/
def HookRequest.closesAt (r : HookRequest) : Int := numberOf (r.timestamp.getD "") + hookWindow

/-! ## What a delivery leaves -/

variable {host : HookHost} {now : Int} {r : HookRequest} {s : HookState}

/-- The nonce of an admitted delivery is remembered to the end of its window, which is not over. -/
theorem admitHook_ok {row : NonceRow} {hint : HookHint} (h : admitHook host now r = .ok (row, hint)) :
    r.nonce = some row.nonce ∧ row.tenantId = r.tenantId ∧ row.expiresAt = r.closesAt ∧ now ≤ r.closesAt := by
  unfold admitHook at h
  split at h
  · rename_i stamp nonce signature raw hstamp hnonce _ _
    obtain ⟨-, -, h⟩ := bind_eq_ok.1 h
    obtain ⟨⟨⟩, hfresh, h⟩ := bind_eq_ok.1 h
    obtain ⟨-, -, h⟩ := bind_eq_ok.1 h
    have hcloses : r.closesAt = numberOf stamp + hookWindow := by rw [HookRequest.closesAt, hstamp]; rfl
    have hnow : |now - numberOf stamp| ≤ hookWindow := by
      simpa using (Bool.and_eq_true_iff.1 (orReply_eq_ok.1 hfresh)).2
    split at h
    · cases h
    · cases h
      refine ⟨hnonce, rfl, hcloses.symm, ?_⟩
      have hright : now - numberOf stamp ≤ hookWindow := (abs_le.1 hnow).2
      omega
  · cases h

/-- The nonce of a delivery is stored and expires with its window. -/
def Remembers (db : HookDb) (r : HookRequest) : Prop :=
  ∃ row ∈ db.webhookNonces.rows, row.tenantId = r.tenantId ∧ r.nonce = some row.nonce ∧ row.expiresAt = r.closesAt

/-- An accepted delivery is fresh, and its nonce is new and remembered from then on; any other leaves the nonces as
they are. -/
theorem deliver_cases (host : HookHost) (now : Int) (r : HookRequest) (s : HookState) :
    ((deliver host now r s).1.accepted = false ∧ (deliver host now r s).2.db.webhookNonces = s.db.webhookNonces) ∨
      ((deliver host now r s).1.accepted = true ∧ now ≤ r.closesAt ∧
        ∃ row : NonceRow, row.tenantId = r.tenantId ∧ r.nonce = some row.nonce ∧ row.expiresAt = r.closesAt ∧
          s.db.webhookNonces.has row.key = false ∧
            (deliver host now r s).2.db.webhookNonces = s.db.webhookNonces.insertIfAbsent row) := by
  unfold deliver
  split
  · exact Or.inl ⟨rfl, rfl⟩
  · rename_i row hint hadmitted
    obtain ⟨hnonce, htenant, hexpires, hnow⟩ := admitHook_ok hadmitted
    dsimp only
    split
    · exact Or.inl ⟨rfl, rfl⟩
    · split
      · exact Or.inl ⟨rfl, rfl⟩
      · rename_i db hclaim
        obtain rfl : db = s.db := claimNonce_repeated hclaim
        exact Or.inl ⟨rfl, rfl⟩
      · rename_i db hclaim
        obtain ⟨-, hnew, rfl⟩ := claimNonce_new hclaim
        refine Or.inr ?_
        split
        · exact ⟨rfl, hnow, row, htenant, hnonce, hexpires, hnew, rfl⟩
        · rename_i queued db' hqueued
          refine ⟨rfl, hnow, row, htenant, hnonce, hexpires, hnew, ?_⟩
          unfold queueHint at hqueued
          split at hqueued
          · cases hqueued
            rfl
          · exact enqueueHint_nonces hqueued

theorem signed_eq {r r' : HookRequest} (h : r'.signed = r.signed) :
    r'.tenantId = r.tenantId ∧ r'.nonce = r.nonce ∧ r'.closesAt = r.closesAt := by
  obtain ⟨htenant, hnonce, hstamp, -⟩ := (by simpa [HookRequest.signed] using h :
    r'.tenantId = r.tenantId ∧ r'.nonce = r.nonce ∧ r'.timestamp = r.timestamp ∧ r'.signature = r.signature)
  exact ⟨htenant, hnonce, by rw [HookRequest.closesAt, HookRequest.closesAt, hstamp]⟩

/-- Deliveries forget no nonce. -/
theorem Remembers.deliver {r' : HookRequest} (h : Remembers s.db r) : Remembers (deliver host now r' s).2.db r := by
  obtain ⟨row, hrow, hrest⟩ := h
  rcases deliver_cases host now r' s with ⟨-, hnonces⟩ | ⟨-, -, row', -, -, -, -, hnonces⟩
  · exact ⟨row, hnonces ▸ hrow, hrest⟩
  · exact ⟨row, hnonces ▸ Keyed.mem_insertIfAbsent.2 (Or.inl hrow), hrest⟩

/-- A sweep forgets a nonce no sooner than its window closes. -/
theorem Remembers.sweep {db : HookDb} (h : Remembers db r) (hnow : now < r.closesAt) :
    Remembers (sweepNonces now db) r := by
  obtain ⟨row, hrow, htenant, hnonce, hexpires⟩ := h
  have hkept : now < row.expiresAt := by omega
  exact ⟨row, Keyed.mem_keep.2 ⟨hrow, decide_eq_true hkept⟩, htenant, hnonce, hexpires⟩

/-- What is remembered is refused. -/
theorem Remembers.refused {r' : HookRequest} (h : Remembers s.db r) (hsigned : r'.signed = r.signed) :
    (Api.deliver host now r' s).1.accepted = false := by
  obtain ⟨row, hrow, htenant, hnonce, -⟩ := h
  obtain ⟨htenant', hnonce', -⟩ := signed_eq hsigned
  rcases deliver_cases host now r' s with ⟨h, -⟩ | ⟨-, -, row', hrow', hrow'', -, hnew, -⟩
  · exact h
  · have hsame : row.nonce = row'.nonce := by
      have := hnonce.symm.trans (hnonce'.symm.trans hrow'')
      exact Option.some.inj this
    refine absurd ?_ (Keyed.has_eq_false.1 hnew row hrow)
    show (row.tenantId, row.nonce) = (row'.tenantId, row'.nonce)
    rw [htenant, hrow', htenant', hsame]

/-! ## Whole runs -/

/-- The request is delivered at the very millisecond its window closes, behind a sweep of that millisecond. -/
def SweptAtClose (events : List HookEvent) (r : HookRequest) : Prop :=
  ∃ r' : HookRequest, r'.signed = r.signed ∧
    [HookEvent.swept r.closesAt, HookEvent.delivered r.closesAt r'].Sublist events

/-- It is so delivered after an earlier delivery. -/
def ReplayedAtClose (events : List HookEvent) (r : HookRequest) : Prop :=
  ∃ (now : Int) (r₀ r' : HookRequest), r₀.signed = r.signed ∧ r'.signed = r.signed ∧
    [HookEvent.delivered now r₀, HookEvent.swept r.closesAt, HookEvent.delivered r.closesAt r'].Sublist events

/-- How often the request got past `claimNonce`. -/
def timesAccepted (host : HookHost) (s : HookState) (events : List HookEvent) (r : HookRequest) : Nat :=
  (acceptedHooks host s events).countP fun r' => decide (r'.signed = r.signed)

theorem timesAccepted_delivered {r' : HookRequest} {events : List HookEvent} :
    timesAccepted host s (.delivered now r' :: events) r =
      (if (deliver host now r' s).1.accepted = true ∧ r'.signed = r.signed then 1 else 0) +
        timesAccepted host (deliver host now r' s).2 events r := by
  unfold timesAccepted
  rw [acceptedHooks, List.countP_append]
  congr 1
  cases haccepted : (deliver host now r' s).1.accepted <;> simp [List.countP_cons]

theorem timesAccepted_swept {events : List HookEvent} :
    timesAccepted host s (.swept now :: events) r = timesAccepted host { s with db := sweepNonces now s.db } events r :=
  rfl

/-- Behind the end of its window a request is not accepted any more. -/
theorem timesAccepted_late {events : List HookEvent}
    (hlate : ∀ now r', HookEvent.delivered now r' ∈ events → r'.signed = r.signed → r.closesAt < now) :
    timesAccepted host s events r = 0 := by
  induction events generalizing s with
  | nil => rfl
  | cons event events ih =>
    have hrest := fun now r' h => hlate now r' (List.mem_cons_of_mem event h)
    cases event with
    | delivered now r' =>
      rw [timesAccepted_delivered, ih hrest, if_neg]
      rintro ⟨haccepted, hsigned⟩
      have hnow : r.closesAt < now := hlate now r' List.mem_cons_self hsigned
      rcases deliver_cases host now r' s with ⟨hrefused, -⟩ | ⟨-, hfresh, -⟩
      · rw [hrefused] at haccepted
        cases haccepted
      · rw [(signed_eq hsigned).2.2] at hfresh
        omega
    | swept now => rw [timesAccepted_swept, ih hrest]

/-- A remembered request is not accepted any more: its nonce is forgotten when its window closes, and what is delivered
at that very millisecond comes before the sweep. -/
theorem timesAccepted_remembered {events : List HookEvent} (hclock : events.Pairwise fun a b => a.time ≤ b.time)
    (hclose : ¬ SweptAtClose events r) (hremembers : Remembers s.db r) : timesAccepted host s events r = 0 := by
  induction events generalizing s with
  | nil => rfl
  | cons event events ih =>
    obtain ⟨hafter, hrest⟩ := List.pairwise_cons.1 hclock
    have hclose' : ¬ SweptAtClose events r := by
      rintro ⟨r', hsigned, hsub⟩
      exact hclose ⟨r', hsigned, hsub.cons event⟩
    cases event with
    | delivered now r' =>
      rw [timesAccepted_delivered, ih hrest hclose' hremembers.deliver, if_neg]
      rintro ⟨haccepted, hsigned⟩
      rw [hremembers.refused hsigned] at haccepted
      cases haccepted
    | swept now =>
      rw [timesAccepted_swept]
      by_cases hnow : now < r.closesAt
      · exact ih hrest hclose' (hremembers.sweep hnow)
      · refine timesAccepted_late fun later r' hmem hsigned => ?_
        have hlater : now ≤ later := hafter _ hmem
        by_contra hnot
        have hsame : now = r.closesAt := by omega
        have hsame' : later = r.closesAt := by omega
        subst hsame'
        refine hclose ⟨r', hsigned, ?_⟩
        rw [hsame]
        exact (List.singleton_sublist.2 hmem).cons_cons _

/-- A signed webhook is accepted at most once in every run in which it is not delivered and then delivered again at the
millisecond its window closes, behind a sweep of that millisecond. -/
theorem webhook_accepted_once (host : HookHost) (s : HookState) {events : List HookEvent} {r : HookRequest}
    (hclock : events.Pairwise fun a b => a.time ≤ b.time) (hclose : ¬ ReplayedAtClose events r) :
    timesAccepted host s events r ≤ 1 := by
  induction events generalizing s with
  | nil => exact Nat.zero_le 1
  | cons event events ih =>
    obtain ⟨-, hrest⟩ := List.pairwise_cons.1 hclock
    have hclose' : ¬ ReplayedAtClose events r := by
      rintro ⟨now, r₀, r', hfirst, hsigned, hsub⟩
      exact hclose ⟨now, r₀, r', hfirst, hsigned, hsub.cons event⟩
    cases event with
    | swept now => exact ih _ hrest hclose'
    | delivered now r' =>
      rw [timesAccepted_delivered]
      split
      · rename_i h
        obtain ⟨haccepted, hsigned⟩ := h
        have hremembers : Remembers (deliver host now r' s).2.db r := by
          obtain ⟨htenant, hnonce, hcloses⟩ := signed_eq hsigned
          rcases deliver_cases host now r' s with
            ⟨hrefused, -⟩ | ⟨-, -, row, hrow, hrow', hexpires, hnew, hnonces⟩
          · rw [hrefused] at haccepted
            cases haccepted
          · refine ⟨row, hnonces ▸ Keyed.mem_insertIfAbsent.2 (Or.inr ⟨rfl, hnew⟩), hrow.trans htenant, ?_, ?_⟩
            · rw [← hnonce, hrow']
            · rw [hexpires, hcloses]
        -- this delivery is the earlier one
        have hunswept : ¬ SweptAtClose events r := by
          rintro ⟨r'', hsigned'', hsub⟩
          exact hclose ⟨now, r', r'', hsigned, hsigned'', hsub.cons_cons _⟩
        rw [timesAccepted_remembered hrest hunswept hremembers]
      · rw [Nat.zero_add]
        exact ih _ hrest hclose'

/-! ## A replay -/

def hexText (bytes : List UInt8) : String :=
  String.ofList (bytes.flatMap fun b => [Nat.digitChar (b.toNat / 16), Nat.digitChar (b.toNat % 16)])

theorem hex_byte : ∀ n : Fin 256,
    16 * (Json.hexDigit (Nat.digitChar (n.val / 16))).getD 0 + (Json.hexDigit (Nat.digitChar (n.val % 16))).getD 0 =
        n.val ∧
      isLowerHex (Nat.digitChar (n.val / 16)) = true ∧ isLowerHex (Nat.digitChar (n.val % 16)) = true := by
  decide +kernel

theorem bytesOfHex_hexText (bytes : List UInt8) : bytesOfHex (hexText bytes).toList = bytes := by
  rw [hexText, String.toList_ofList]
  induction bytes with
  | nil => rfl
  | cons b bytes ih =>
    rw [List.flatMap_cons, List.cons_append, List.cons_append, List.nil_append, bytesOfHex, ih,
      (hex_byte ⟨b.toNat, b.toNat_lt⟩).1, UInt8.ofNat_toNat]

theorem isDigest_hexText {bytes : List UInt8} (h : bytes.length = 32) : isDigest (hexText bytes) = true := by
  let digits := fun b : UInt8 => [Nat.digitChar (b.toNat / 16), Nat.digitChar (b.toNat % 16)]
  have hlength : ∀ bs : List UInt8, (bs.flatMap digits).length = 2 * bs.length := by
    intro bs
    induction bs with
    | nil => rfl
    | cons b bs ih =>
      have htwo : (digits b).length = 2 := rfl
      rw [List.flatMap_cons, List.length_append, ih, htwo, List.length_cons, Nat.mul_succ, Nat.add_comm]
  have hall : ∀ bs : List UInt8, (bs.flatMap digits).all isLowerHex = true := by
    intro bs
    rw [List.all_eq_true]
    intro c hc
    obtain ⟨b, -, hc⟩ := List.mem_flatMap.1 hc
    obtain ⟨-, hhigh, hlow⟩ := hex_byte ⟨b.toNat, b.toNat_lt⟩
    rcases List.mem_pair.1 hc with rfl | rfl
    · exact hhigh
    · exact hlow
  have htext : (hexText bytes).toList = bytes.flatMap digits := String.toList_ofList
  unfold isDigest matchesHex
  simp only [htext, String.toList_empty, String.length_empty, List.drop_zero, List.isPrefixOf_nil_left, Bool.true_and,
    Bool.and_eq_true, decide_eq_true_eq]
  exact ⟨by rw [hlength, h], hall bytes⟩

def sampleStamp : String := "1780272060000"
def sampleNonce : String := "nonce-0001"

/-- A hint of the deployment `quickstart-healthy`, as it is sent. -/
def sampleHintBytes : List UInt8 :=
  bytesOf
    "\x7b\"deploymentId\":\"quickstart-healthy\",\"chainKey\":\"bridge/home\",\"suggestedBlockNumber\":\"10\"\x7d"

/-- A process with one webhook source. -/
def sampleHookHost (hmac : String → List UInt8 → List UInt8) : HookHost where
  webhookSecret tenant source :=
    if tenant = "tenant-a" ∧ source = "source-a" then some "webhook-test-secret" else none
  hmac
  sha256 := id
  parseBody raw := jsonParse (String.ofList (raw.map fun b => Char.ofNat b.toNat))

/-- The hint, signed. -/
def sampleHook (hmac : String → List UInt8 → List UInt8) : HookRequest where
  tenantId := "tenant-a"
  sourceId := "source-a"
  timestamp := some sampleStamp
  nonce := some sampleNonce
  signature := some (hexText (hmac "webhook-test-secret" (signedBytes sampleStamp sampleNonce sampleHintBytes)))
  body := some sampleHintBytes

/-- The same delivery of another body. -/
def signedHook (hmac : String → List UInt8 → List UInt8) (raw : List UInt8) : HookRequest :=
  { sampleHook hmac with
    signature := some (hexText (hmac "webhook-test-secret" (signedBytes sampleStamp sampleNonce raw)))
    body := some raw }

def sampleHookState : HookState where
  rate := { limit := 120, windowMs := 60000, entries := ∅ }
  db := {
    deployments := ["quickstart-healthy"]
    chains := ["bridge/home"]
    tenants := (∅ : Keyed Tenant.tenantId).insertIfAbsent ⟨"tenant-a", none⟩
    deploymentTenants := (∅ : Keyed DeploymentGrant.deploymentId).insertIfAbsent
      ⟨"quickstart-healthy", "tenant-a", .approvedFull⟩
    webhookNonces := ∅
    webhookHints := ∅ }

def sampleNonceRow : NonceRow where
  tenantId := "tenant-a"
  nonce := sampleNonce
  signedAt := 1780272060000
  expiresAt := 1780272360000

def sampleHint : HookHint where
  deploymentId := "quickstart-healthy"
  chainKey := "bridge/home"
  suggestedBlockNumber := "10"

section Replay

variable {hmac : String → List UInt8 → List UInt8}

/-- A signed hint is admitted in all of its window. -/
theorem admitHook_signed (hmac32 : ∀ secret bytes, (hmac secret bytes).length = 32) {now : Int}
    (hnow : |now - 1780272060000| ≤ hookWindow) {raw : List UInt8} {hint : HookHint}
    (hread : readHint (jsonParse (String.ofList (raw.map fun b => Char.ofNat b.toNat))) = some hint) :
    admitHook (sampleHookHost hmac) now (signedHook hmac raw) = .ok (sampleNonceRow, hint) := by
  have hstamp : numberOf sampleStamp = 1780272060000 := by decide +kernel
  have htexts : (isSegment "tenant-a" && isSegment "source-a" && isTimestamp sampleStamp && isNonce sampleNonce) = true := by
    decide +kernel
  have hhint : readHint ((sampleHookHost hmac).parseBody raw) = some hint := hread
  unfold admitHook
  simp only [signedHook, sampleHook]
  rw [htexts, isDigest_hexText (hmac32 _ _), hstamp, bytesOfHex_hexText, hhint]
  have hdate : decide ((1780272060000 : Int) ≤ maxTime) = true := by decide
  rw [hdate, decide_eq_true hnow]
  simp [orReply, sampleHookHost, sampleNonceRow, hookWindow, bind, Except.bind, pure, Except.pure]

theorem admitHook_sample (hmac32 : ∀ secret bytes, (hmac secret bytes).length = 32) {now : Int}
    (hnow : |now - 1780272060000| ≤ hookWindow) :
    admitHook (sampleHookHost hmac) now (sampleHook hmac) = .ok (sampleNonceRow, sampleHint) :=
  admitHook_signed hmac32 hnow (by decide +kernel)

/-- Whatever the hash, a hint that is sent when it is signed is accepted, and accepted again when its window closes if
its nonce is swept at that millisecond. -/
theorem replayed_at_close : ¬ ∃ hmac : String → List UInt8 → List UInt8,
    (∀ secret bytes, (hmac secret bytes).length = 32) ∧
      ∀ (s : HookState) (events : List HookEvent), (events.Pairwise fun a b => a.time ≤ b.time) →
        ∀ r, timesAccepted (sampleHookHost hmac) s events r ≤ 1 := by
  rintro ⟨hmac, hmac32, h⟩
  have hfirst : admitHook (sampleHookHost hmac) 1780272060000 (sampleHook hmac) = .ok (sampleNonceRow, sampleHint) :=
    admitHook_sample hmac32 (by decide)
  have hlast : admitHook (sampleHookHost hmac) 1780272360000 (sampleHook hmac) = .ok (sampleNonceRow, sampleHint) :=
    admitHook_sample hmac32 (by decide)
  let replayed := sampleHook hmac
  let swept := { (deliver (sampleHookHost hmac) 1780272060000 replayed sampleHookState).2 with
    db := sweepNonces 1780272360000 (deliver (sampleHookHost hmac) 1780272060000 replayed sampleHookState).2.db }
  have hsent : (deliver (sampleHookHost hmac) 1780272060000 replayed sampleHookState).1.accepted = true := by
    unfold deliver
    rw [hfirst]
    rfl
  have hreplayed : (deliver (sampleHookHost hmac) 1780272360000 replayed swept).1.accepted = true := by
    unfold swept deliver
    rw [hfirst, hlast]
    rfl
  have honce := h sampleHookState
    [.delivered 1780272060000 replayed, .swept 1780272360000, .delivered 1780272360000 replayed]
    (by simp [HookEvent.time]) replayed
  rw [timesAccepted_delivered, timesAccepted_swept, timesAccepted_delivered, if_pos ⟨hsent, rfl⟩,
    if_pos ⟨hreplayed, rfl⟩] at honce
  omega

end Replay

/-- Swept one millisecond before its window closes. -/
theorem webhook_accepted_once_early :
    timesAccepted (sampleHookHost fun _ _ => List.replicate 32 0) sampleHookState
      [.delivered 1780272060000 (sampleHook fun _ _ => List.replicate 32 0), .swept 1780272359999,
        .delivered 1780272360000 (sampleHook fun _ _ => List.replicate 32 0)]
      (sampleHook fun _ _ => List.replicate 32 0) ≤ 1 :=
  webhook_accepted_once _ _ (by simp [HookEvent.time]) (by
    rintro ⟨now, r₀, r', -, -, hsub⟩
    have hcloses : (sampleHook fun _ _ => List.replicate 32 0).closesAt = 1780272360000 := by decide +kernel
    have hmem := hsub.subset (List.mem_cons_of_mem _ List.mem_cons_self)
    rw [hcloses] at hmem
    simp at hmem)

end IcttSentinel.Api
