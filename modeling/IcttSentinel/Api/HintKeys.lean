/-
The dedup key of a hint, apps/api/src/server.ts and packages/storage-postgres/src/replay-store.ts: "enqueue a hint, or
do nothing if this upstream event was already delivered". Five fields are joined by slashes, and a deployment and a
chain key may hold slashes themselves: a part that moves from the one to the other leaves the key as it is.
-/
import IcttSentinel.Api.Webhook
import IcttSentinel.Lib.Joined

namespace IcttSentinel.Api

open IcttSentinel.Lib IcttSentinel.Storage
open IcttSentinel.Evidence (domainSeparatedSha256 jsonParse)

/-- A hint, with the path it was sent to. -/
structure SentHint where
  tenantId : String
  sourceId : String
  hint : HookHint
  deriving DecidableEq

/-- What is hashed to the dedup key. -/
def SentHint.dedupText (h : SentHint) : String :=
  "/".intercalate [h.tenantId, h.sourceId, h.hint.deploymentId, h.hint.chainKey, h.hint.suggestedBlockNumber]

def SentHint.dedup (host : HookHost) (h : SentHint) : String :=
  domainSeparatedSha256 host.sha256 "ictt-sentinel/webhook-hint/v1" h.dedupText

def SentHint.queue (host : HookHost) (h : SentHint) (db : HookDb) : Except Violation (Bool × HookDb) :=
  queueHint host h.tenantId h.sourceId h.hint db

/-- Some delivery of the hint passes every check of the route. -/
def SentHint.Accepted (host : HookHost) (h : SentHint) : Prop :=
  ∃ now r row, admitHook host now r = .ok (row, h.hint) ∧ r.tenantId = h.tenantId ∧ r.sourceId = h.sourceId

/-- The keys differ, and queueing the first hint does not change whether the second is queued. -/
def Apart (host : HookHost) (h h' : SentHint) : Prop :=
  h.dedup host ≠ h'.dedup host ∧
    ∀ db queued db', h.queue host db = .ok (queued, db') → (h'.queue host db').map Prod.fst = (h'.queue host db).map Prod.fst

/-- The end of the first deployment's name is the start of the second chain key. -/
def SentHint.CutsLater (h h' : SentHint) : Prop :=
  ∃ part, h.hint.deploymentId = h'.hint.deploymentId ++ "/" ++ part ∧ h'.hint.chainKey = part ++ "/" ++ h.hint.chainKey

/-- Hints of one path and block whose deployments and chain keys are cut apart at different slashes. -/
structure Shifted (h h' : SentHint) : Prop where
  tenantId : h.tenantId = h'.tenantId
  sourceId : h.sourceId = h'.sourceId
  suggestedBlockNumber : h.hint.suggestedBlockNumber = h'.hint.suggestedBlockNumber
  cut : h.CutsLater h' ∨ h'.CutsLater h

/-! ## What is accepted -/

/-- No slash is in the path, and none in the block. -/
structure SentHint.Shaped (h : SentHint) : Prop where
  tenantId : '/' ∉ h.tenantId.toList
  sourceId : '/' ∉ h.sourceId.toList
  suggestedBlockNumber : '/' ∉ h.hint.suggestedBlockNumber.toList

theorem slash_notMem_of_isSegment {s : String} (h : isSegment s = true) : '/' ∉ s.toList := by
  unfold isSegment isSlug at h
  split at h
  · cases h
  · rename_i c cs hs
    obtain ⟨⟨hc, -⟩, hcs⟩ := (by simpa only [Bool.and_eq_true] using h :
      ((c.isLower || c.isDigit) = true ∧ decide (cs.length ≤ 126) = true) ∧ _)
    rw [hs]
    intro hmem
    rcases List.mem_cons.1 hmem with rfl | hmem
    · exact absurd hc (by decide)
    · exact absurd (List.all_eq_true.1 hcs _ hmem) (by decide)

theorem slash_notMem_of_isBlockNumber {s : String} (h : isBlockNumber s = true) : '/' ∉ s.toList := by
  unfold isBlockNumber at h
  split at h
  · cases h
  · rename_i c cs hs
    obtain ⟨⟨hc, hcs⟩, -⟩ := (by simpa only [Bool.and_eq_true] using h :
      (c.isDigit = true ∧ cs.all Char.isDigit = true) ∧ _)
    rw [hs]
    intro hmem
    rcases List.mem_cons.1 hmem with rfl | hmem
    · exact absurd hc (by decide)
    · exact absurd (List.all_eq_true.1 hcs _ hmem) (by decide)

theorem readHint_block {body : Option Evidence.JsValue} {hint : HookHint} (h : readHint body = some hint) :
    isBlockNumber hint.suggestedBlockNumber = true := by
  unfold readHint at h
  split at h
  · cases h
  · split at h
    · split at h
      · rename_i hchecks
        obtain ⟨⟨-, hblock⟩, -⟩ := (by simpa only [Bool.and_eq_true] using hchecks :
          (_ ∧ isBlockNumber _ = true) ∧ _)
        cases h
        exact hblock
      · cases h
    · cases h

variable {host : HookHost} {h h' : SentHint}

theorem SentHint.Accepted.shaped (haccepted : h.Accepted host) : h.Shaped := by
  obtain ⟨now, r, row, hadmitted, htenant, hsource⟩ := haccepted
  unfold admitHook at hadmitted
  split at hadmitted
  · obtain ⟨⟨⟩, htexts, hadmitted⟩ := bind_eq_ok.1 hadmitted
    obtain ⟨-, -, hadmitted⟩ := bind_eq_ok.1 hadmitted
    obtain ⟨-, -, hadmitted⟩ := bind_eq_ok.1 hadmitted
    obtain ⟨⟨⟨⟨htenantId, hsourceId⟩, -⟩, -⟩, -⟩ := (by simpa only [Bool.and_eq_true] using orReply_eq_ok.1 htexts :
      (((isSegment r.tenantId = true ∧ isSegment r.sourceId = true) ∧ _) ∧ _) ∧ _)
    split at hadmitted
    · cases hadmitted
    · rename_i hint hread
      have hhint : hint = h.hint := (Prod.mk.inj (Except.ok.inj hadmitted)).2
      rw [htenant] at htenantId
      rw [hsource] at hsourceId
      exact ⟨slash_notMem_of_isSegment htenantId, slash_notMem_of_isSegment hsourceId,
        slash_notMem_of_isBlockNumber (readHint_block (hhint ▸ hread))⟩
  · cases hadmitted

/-! ## Keys -/

theorem SentHint.toList_dedupText (h : SentHint) : h.dedupText.toList =
    h.tenantId.toList ++ '/' :: (h.sourceId.toList ++ '/' ::
      ((h.hint.deploymentId.toList ++ '/' :: h.hint.chainKey.toList) ++ '/' :: h.hint.suggestedBlockNumber.toList)) := by
  unfold SentHint.dedupText
  simp

theorem SentHint.cutsLater_iff : h.CutsLater h' ↔
    ∃ part, h.hint.deploymentId.toList = h'.hint.deploymentId.toList ++ '/' :: part ∧
      h'.hint.chainKey.toList = part ++ '/' :: h.hint.chainKey.toList := by
  constructor
  · rintro ⟨part, hdeployment, hchain⟩
    refine ⟨part.toList, ?_, ?_⟩
    · rw [hdeployment]
      simp
    · rw [hchain]
      simp
  · rintro ⟨part, hdeployment, hchain⟩
    refine ⟨String.ofList part, String.toList_inj.1 ?_, String.toList_inj.1 ?_⟩
    · rw [hdeployment]
      simp
    · rw [hchain]
      simp

/-- One text is made of two hints exactly when a part moves from a deployment to a chain key. -/
theorem dedupText_eq_iff (hshaped : h.Shaped) (hshaped' : h'.Shaped) :
    h.dedupText = h'.dedupText ↔ h = h' ∨ Shifted h h' := by
  rw [← String.toList_inj, h.toList_dedupText, h'.toList_dedupText]
  constructor
  · intro htexts
    obtain ⟨htenant, htexts⟩ := append_cons_inj hshaped.tenantId hshaped'.tenantId htexts
    obtain ⟨hsource, htexts⟩ := append_cons_inj hshaped.sourceId hshaped'.sourceId htexts
    obtain ⟨hnames, hblock⟩ :=
      append_cons_inj_right hshaped.suggestedBlockNumber hshaped'.suggestedBlockNumber htexts
    rw [String.toList_inj] at htenant hsource hblock
    rcases append_cons_eq_iff.1 hnames with ⟨hdeployment, hchain⟩ | hcut | hcut
    · rw [String.toList_inj] at hdeployment hchain
      obtain ⟨_, _, _, _, _⟩ := h
      obtain ⟨_, _, _, _, _⟩ := h'
      subst htenant hsource hblock hdeployment hchain
      exact Or.inl rfl
    · exact Or.inr ⟨htenant, hsource, hblock, Or.inl (SentHint.cutsLater_iff.2 hcut)⟩
    · exact Or.inr ⟨htenant, hsource, hblock, Or.inr (SentHint.cutsLater_iff.2 hcut)⟩
  · rintro (rfl | hshifted)
    · rfl
    · have hcut := hshifted.cut
      rw [SentHint.cutsLater_iff, SentHint.cutsLater_iff] at hcut
      rw [hshifted.tenantId, hshifted.sourceId, hshifted.suggestedBlockNumber, append_cons_eq_iff.2 (Or.inr hcut)]

theorem Shifted.ne (hshifted : Shifted h h') : h ≠ h' := by
  rintro rfl
  have hcut : h.CutsLater h := hshifted.cut.elim id id
  obtain ⟨part, hdeployment, -⟩ := SentHint.cutsLater_iff.1 hcut
  have hlength := congrArg List.length hdeployment
  rw [List.length_append, List.length_cons] at hlength
  omega

/-! ## The queue -/

/-- Queueing adds rows of the hint's key only, and leaves what the rows refer to. -/
theorem queue_ok {db db' : HookDb} {queued : Bool} (hqueue : h.queue host db = .ok (queued, db')) :
    db'.deployments = db.deployments ∧ db'.chains = db.chains ∧ db'.deploymentTenants = db.deploymentTenants ∧
      (db'.webhookHints = db.webhookHints ∨ ∃ row : HintRow, row.hintId = h.dedup host ∧ row.dedupKey = h.dedup host ∧
        db'.webhookHints = db.webhookHints.insertIfAbsent row) := by
  unfold SentHint.queue queueHint at hqueue
  dsimp only at hqueue
  split at hqueue
  · cases hqueue
    exact ⟨rfl, rfl, rfl, Or.inl rfl⟩
  · unfold enqueueHint at hqueue
    obtain ⟨-, -, hqueue⟩ := bind_eq_ok.1 hqueue
    obtain ⟨-, -, hqueue⟩ := bind_eq_ok.1 hqueue
    obtain ⟨-, -, hqueue⟩ := bind_eq_ok.1 hqueue
    split at hqueue
    · cases hqueue
      exact ⟨rfl, rfl, rfl, Or.inl rfl⟩
    · obtain ⟨-, -, hqueue⟩ := bind_eq_ok.1 hqueue
      obtain ⟨-, -, hqueue⟩ := bind_eq_ok.1 hqueue
      obtain ⟨-, -, hqueue⟩ := bind_eq_ok.1 hqueue
      cases hqueue
      exact ⟨rfl, rfl, rfl, Or.inr ⟨_, rfl, rfl, rfl⟩⟩

theorem map_bind_congr {ε α β γ : Type} {x : Except ε α} {f f' : α → Except ε β} {g : β → γ}
    (hf : ∀ a, (f a).map g = (f' a).map g) : (x >>= f).map g = (x >>= f').map g := by
  cases x with
  | error e => rfl
  | ok a => exact hf a

/-- Whether a hint is queued depends on its own key and on what its row refers to. -/
theorem enqueueHint_fst_congr {row : HintRow} {db db' : HookDb} (hdeployments : db'.deployments = db.deployments)
    (hchains : db'.chains = db.chains) (hkey : db'.webhookHints.has row.dedupKey = db.webhookHints.has row.dedupKey)
    (hid : (db'.webhookHints.rows.any fun r => r.hintId = row.hintId) =
      db.webhookHints.rows.any fun r => r.hintId = row.hintId) :
    (enqueueHint row db').map Prod.fst = (enqueueHint row db).map Prod.fst := by
  unfold enqueueHint
  rw [hdeployments, hchains, hkey, hid]
  refine map_bind_congr fun _ => map_bind_congr fun _ => map_bind_congr fun _ => ?_
  split
  · rfl
  · exact map_bind_congr fun _ => map_bind_congr fun _ => map_bind_congr fun _ => rfl

/-- Hints of different keys do not get in each other's way. -/
theorem queue_apart (hkeys : h.dedup host ≠ h'.dedup host) {db db' : HookDb} {queued : Bool}
    (hqueue : h.queue host db = .ok (queued, db')) :
    (h'.queue host db').map Prod.fst = (h'.queue host db).map Prod.fst := by
  obtain ⟨hdeployments, hchains, hgrants, hhints⟩ := queue_ok hqueue
  unfold SentHint.queue queueHint
  dsimp only
  rw [hgrants]
  split
  · rfl
  · rcases hhints with hsame | ⟨row, hid, hkey, hadded⟩
    · exact enqueueHint_fst_congr hdeployments hchains (by rw [hsame]) (by rw [hsame])
    -- at most one row is added, under the key of the first hint
    · have hrows : ∀ r, r ∈ db'.webhookHints.rows ↔ r ∈ db.webhookHints.rows ∨
          r = row ∧ db.webhookHints.has row.dedupKey = false := fun r => by rw [hadded, Keyed.mem_insertIfAbsent]
      refine enqueueHint_fst_congr hdeployments hchains (Bool.eq_iff_iff.2 ?_) (Bool.eq_iff_iff.2 ?_)
      · rw [Keyed.has_iff, Keyed.has_iff]
        constructor
        · rintro ⟨r, hr, hrkey⟩
          rcases (hrows r).1 hr with hr | ⟨rfl, -⟩
          · exact ⟨r, hr, hrkey⟩
          · exact absurd (hkey.symm.trans hrkey) hkeys
        · rintro ⟨r, hr, hrkey⟩
          exact ⟨r, (hrows r).2 (Or.inl hr), hrkey⟩
      · rw [List.any_eq_true, List.any_eq_true]
        constructor
        · rintro ⟨r, hr, hrid⟩
          rcases (hrows r).1 hr with hr | ⟨rfl, -⟩
          · exact ⟨r, hr, hrid⟩
          · exact absurd (hid.symm.trans (of_decide_eq_true hrid)) hkeys
        · rintro ⟨r, hr, hrid⟩
          exact ⟨r, (hrows r).2 (Or.inl hr), hrid⟩

/-- Two different hints that the route accepts do not suppress one another exactly when the one's names are not the
other's with a part moved from the deployment to the chain key. -/
theorem hints_apart_iff (host : HookHost) {h h' : SentHint} (haccepted : h.Accepted host) (haccepted' : h'.Accepted host)
    (hcollision : h.dedup host = h'.dedup host → h.dedupText = h'.dedupText) :
    (h ≠ h' → Apart host h h') ↔ ¬ Shifted h h' := by
  have htexts := dedupText_eq_iff haccepted.shaped haccepted'.shaped
  constructor
  · intro hapart hshifted
    obtain ⟨hkeys, -⟩ := hapart hshifted.ne
    exact hkeys (by rw [SentHint.dedup, SentHint.dedup, htexts.2 (Or.inr hshifted)])
  · intro hshifted hne
    have hkeys : h.dedup host ≠ h'.dedup host := fun hkeys => (htexts.1 (hcollision hkeys)).elim hne hshifted
    exact ⟨hkeys, fun db queued db' hqueue => queue_apart hkeys hqueue⟩

/-! ## Two hints of one key -/

def bridgeBytes : List UInt8 :=
  bytesOf "\x7b\"deploymentId\":\"bridge\",\"chainKey\":\"eu/c\",\"suggestedBlockNumber\":\"10\"\x7d"

def bridgeEuBytes : List UInt8 :=
  bytesOf "\x7b\"deploymentId\":\"bridge/eu\",\"chainKey\":\"c\",\"suggestedBlockNumber\":\"10\"\x7d"

def bridgeHint : SentHint := ⟨"tenant-a", "source-a", ⟨"bridge", "eu/c", "10"⟩⟩

def bridgeEuHint : SentHint := ⟨"tenant-a", "source-a", ⟨"bridge/eu", "c", "10"⟩⟩

section Bridge

variable {hmac : String → List UInt8 → List UInt8} (sha256 : String → String)

theorem accepted_signed (hmac32 : ∀ secret bytes, (hmac secret bytes).length = 32) (raw : List UInt8) {hint : HookHint}
    (hread : readHint (jsonParse (String.ofList (raw.map fun b => Char.ofNat b.toNat))) = some hint) :
    SentHint.Accepted { sampleHookHost hmac with sha256 } ⟨"tenant-a", "source-a", hint⟩ :=
  ⟨1780272060000, signedHook hmac raw, sampleNonceRow, admitHook_signed hmac32 (by decide) hread, rfl, rfl⟩

theorem bridge_accepted (hmac32 : ∀ secret bytes, (hmac secret bytes).length = 32) :
    bridgeHint.Accepted { sampleHookHost hmac with sha256 } :=
  accepted_signed sha256 hmac32 bridgeBytes (by decide +kernel)

theorem bridgeEu_accepted (hmac32 : ∀ secret bytes, (hmac secret bytes).length = 32) :
    bridgeEuHint.Accepted { sampleHookHost hmac with sha256 } :=
  accepted_signed sha256 hmac32 bridgeEuBytes (by decide +kernel)

end Bridge

/-- Whatever the hashes, the hints of the deployments `bridge` and `bridge/eu` are both accepted and share their key. -/
theorem bridge_suppressed : ¬ ∃ (hmac : String → List UInt8 → List UInt8) (sha256 : String → String),
    (∀ secret bytes, (hmac secret bytes).length = 32) ∧
      ∀ h h' : SentHint, h.Accepted { sampleHookHost hmac with sha256 } → h'.Accepted { sampleHookHost hmac with sha256 } →
        (h.dedup { sampleHookHost hmac with sha256 } = h'.dedup { sampleHookHost hmac with sha256 } →
          h.dedupText = h'.dedupText) → h ≠ h' → Apart { sampleHookHost hmac with sha256 } h h' := by
  rintro ⟨hmac, sha256, hmac32, hclaim⟩
  have htexts : bridgeHint.dedupText = bridgeEuHint.dedupText := by decide +kernel
  have hapart := hclaim bridgeHint bridgeEuHint (bridge_accepted sha256 hmac32) (bridgeEu_accepted sha256 hmac32)
    (fun _ => htexts) (by decide)
  exact hapart.1 (by rw [SentHint.dedup, SentHint.dedup, htexts])

/-- The SHA-256 digests of the keys of two hints. -/
def hintSha256 (text : String) : String :=
  if text = "ictt-sentinel/webhook-hint/v1\u0000tenant-a/source-a/bridge/eu/c/10" then
    "e662a421ba3488ecc61a072d76a2a0fe53cb5fb3f87c2dd6af3f93b2b87fc94c"
  else if text = "ictt-sentinel/webhook-hint/v1\u0000tenant-a/source-a/quickstart-healthy/bridge/home/10" then
    "09388ee587199340fa4755d795f8d05338c12b2955d3e27c51cad2ad84f6c06e"
  else ""

def hintHost : HookHost := { sampleHookHost (fun _ _ => List.replicate 32 0) with sha256 := hintSha256 }

def quickstartHint : SentHint := ⟨"tenant-a", "source-a", sampleHint⟩

/-- Hints of two deployments without a common slash. -/
theorem quickstart_apart : quickstartHint.dedup hintHost ≠ bridgeHint.dedup hintHost ∧
    ((quickstartHint ≠ bridgeHint → Apart hintHost quickstartHint bridgeHint) ↔ ¬ Shifted quickstartHint bridgeHint) := by
  have hmac32 : ∀ (_ : String) (_ : List UInt8), (List.replicate 32 (0 : UInt8)).length = 32 := fun _ _ => rfl
  have hkeys : quickstartHint.dedup hintHost ≠ bridgeHint.dedup hintHost := by decide +kernel
  exact ⟨hkeys, hints_apart_iff hintHost (accepted_signed hintSha256 hmac32 sampleHintBytes (by decide +kernel))
    (bridge_accepted hintSha256 hmac32) fun hsame => absurd hsame hkeys⟩

end IcttSentinel.Api
