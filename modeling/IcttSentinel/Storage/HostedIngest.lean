/-
Ingests under way together, packages/storage-postgres/src/hosted-evidence.ts: "the idempotency decision, hosted record
and remembered answer share one lock and transaction". The lock keeps requests of one key apart. Requests of different
keys can look up one record and both find none; the one that inserts it later is refused, and the API answers that
`idempotency-conflict`, though its payload is the one that is stored.
-/
import IcttSentinel.Storage.HostedEvidence

namespace IcttSentinel.Storage

open IcttSentinel.Lib

abbrev IngestSession := Session HostedRow HostedKey (UInt32 × UInt32) IngestFailure IngestAnswer
abbrev IngestStore := Store HostedRow.key (UInt32 × UInt32) IngestFailure IngestAnswer

/-! ## Where an ingest is -/

section Stages

variable (sha256 : String → String) (deploymentTenants : Keyed DeploymentGrant.deploymentId)

/-- The requests, before any of them moved. -/
def ingests (requests : List HostedIngest) : IngestStore where
  committed := ∅
  sessions := requests.map fun r => .active (ingestHostedEvaluation sha256 deploymentTenants r) [] []

variable (r : HostedIngest) (t : Keyed HostedRow.key)

/-- An answer to the request's key, given for the request's payload. -/
def AnswerRemembered (answer : StoredResponse) : Prop :=
  ∃ row, .idempotency row ∈ t.rows ∧ row.tenantId = r.tenantId ∧ row.idempotencyKey = r.idempotencyKey ∧
    row.payloadHash = r.payloadHash sha256 ∧ row.response = answer

/-- The key was used for another payload. -/
def KeyReused : Prop :=
  ∃ row, .idempotency row ∈ t.rows ∧ row.tenantId = r.tenantId ∧ row.idempotencyKey = r.idempotencyKey ∧
    (row.payloadHash ≠ r.payloadHash sha256 ∨ row.route ≠ ingestRoute)

/-- The request's record is stored, with its payload. -/
def RecordKnown : Prop :=
  ∃ row, .evaluation row ∈ t.rows ∧ HostedRow.key (.evaluation row) = r.recordKey ∧
    row.payloadHash = r.payloadHash sha256

/-- Where a request's transaction is, and what it knows of what is committed. -/
inductive IngestStage : IngestSession → Prop
  | begun : IngestStage (.active (ingestHostedEvaluation sha256 deploymentTenants r) [] [])
  | locked : IngestStage (.active (lookUpAnswer sha256 deploymentTenants r) [r.lockKey] [])
  | unremembered (hkey : t.has r.rememberedKey = false) :
      IngestStage (.active (lookUpRecord sha256 deploymentTenants r) [r.lockKey] [])
  | fresh (hkey : t.has r.rememberedKey = false) :
      IngestStage (.active (.insert (.evaluation (r.record sha256))
        (.violation (.uniqueViolation "hosted_evaluations_pkey")) (rememberAnswer sha256 r false)) [r.lockKey] [])
  | answering (duplicate : Bool) (hkey : t.has r.rememberedKey = false)
      (hknown : duplicate = true → RecordKnown sha256 r t) :
      IngestStage (.active (.insert (.idempotency (r.remembered sha256 duplicate))
        (.violation (.uniqueViolation "api_idempotency_pkey")) (.commit ⟨duplicate, r.response duplicate⟩)) [r.lockKey]
        (if duplicate then [] else [.evaluation (r.record sha256)]))
  | remembered (duplicate : Bool) (hkey : t.has r.rememberedKey = false)
      (hknown : duplicate = true → RecordKnown sha256 r t) :
      IngestStage (.active (.commit ⟨duplicate, r.response duplicate⟩) [r.lockKey]
        ((if duplicate then [] else [.evaluation (r.record sha256)]) ++ [.idempotency (r.remembered sha256 duplicate)]))
  | replayed (answer : StoredResponse) (hanswer : AnswerRemembered sha256 r t answer) :
      IngestStage (.active (.commit ⟨true, answer⟩) [r.lockKey] [])
  | refusing (e : IngestFailure) (pending : List HostedRow)
      (hpending : ∀ row ∈ pending, row = .evaluation (r.record sha256))
      (hkey : t.has r.rememberedKey = false ∨ KeyReused sha256 r t) :
      IngestStage (.active (.rollback e) [r.lockKey] pending)
  | answered (a : IngestAnswer) (hanswer : AnswerRemembered sha256 r t a.response) : IngestStage (.ended (.ok a))
  | refused (e : IngestFailure) : IngestStage (.ended (.error e))

end Stages

variable {sha256 : String → String} {deploymentTenants : Keyed DeploymentGrant.deploymentId} {r : HostedIngest}
  {t t' : Keyed HostedRow.key}

theorem has_rememberedKey : t.has r.rememberedKey = true ↔
    ∃ row, .idempotency row ∈ t.rows ∧ row.tenantId = r.tenantId ∧ row.idempotencyKey = r.idempotencyKey := by
  rw [Keyed.has_iff]
  constructor
  · rintro ⟨row, hrow, hkey⟩
    cases row with
    | evaluation row => cases hkey
    | idempotency row =>
      obtain ⟨htenant, hkey⟩ := HostedKey.idempotency.inj hkey
      exact ⟨row, hrow, htenant, hkey⟩
  · rintro ⟨row, hrow, htenant, hkey⟩
    refine ⟨_, hrow, ?_⟩
    show HostedKey.idempotency row.tenantId row.idempotencyKey = .idempotency r.tenantId r.idempotencyKey
    rw [htenant, hkey]

/-- What a session has inserted, and the lock it holds for it. -/
theorem IngestStage.pending {x : IngestSession} (h : IngestStage sha256 deploymentTenants r t x) {row : HostedRow}
    (hrow : row ∈ x.pending) : row = .evaluation (r.record sha256) ∨
      (∃ duplicate, row = .idempotency (r.remembered sha256 duplicate)) ∧ r.lockKey ∈ x.locks := by
  cases h with
  | answering duplicate hkey hknown =>
    cases duplicate with
    | false => exact Or.inl (List.mem_singleton.1 hrow)
    | true => exact absurd hrow List.not_mem_nil
  | remembered duplicate hkey hknown =>
    rcases List.mem_append.1 hrow with hrow | hrow
    · cases duplicate with
      | false => exact Or.inl (List.mem_singleton.1 hrow)
      | true => exact absurd hrow List.not_mem_nil
    · exact Or.inr ⟨⟨duplicate, List.mem_singleton.1 hrow⟩, List.mem_singleton_self _⟩
  | refusing e pending hpending hkey => exact Or.inl (hpending row hrow)
  | _ => exact absurd hrow List.not_mem_nil

theorem AnswerRemembered.mono {answer : StoredResponse} (h : AnswerRemembered sha256 r t answer)
    (hrows : ∀ row ∈ t.rows, row ∈ t'.rows) : AnswerRemembered sha256 r t' answer := by
  obtain ⟨row, hrow, hrest⟩ := h
  exact ⟨row, hrows _ hrow, hrest⟩

theorem KeyReused.mono (h : KeyReused sha256 r t) (hrows : ∀ row ∈ t.rows, row ∈ t'.rows) : KeyReused sha256 r t' := by
  obtain ⟨row, hrow, hrest⟩ := h
  exact ⟨row, hrows _ hrow, hrest⟩

theorem RecordKnown.mono (h : RecordKnown sha256 r t) (hrows : ∀ row ∈ t.rows, row ∈ t'.rows) :
    RecordKnown sha256 r t' := by
  obtain ⟨row, hrow, hrest⟩ := h
  exact ⟨row, hrows _ hrow, hrest⟩

/-- What is committed by the others changes nothing where they do not hold the request's lock. -/
theorem IngestStage.frame {x : IngestSession} (h : IngestStage sha256 deploymentTenants r t x)
    (hrows : ∀ row ∈ t.rows, row ∈ t'.rows)
    (hkey : r.lockKey ∈ x.locks → t.has r.rememberedKey = false → t'.has r.rememberedKey = false) :
    IngestStage sha256 deploymentTenants r t' x := by
  have hlock : r.lockKey ∈ [r.lockKey] := List.mem_singleton_self _
  cases h with
  | begun => exact .begun
  | locked => exact .locked
  | unremembered h => exact .unremembered (hkey hlock h)
  | fresh h => exact .fresh (hkey hlock h)
  | answering duplicate h hknown => exact .answering duplicate (hkey hlock h) fun hd => (hknown hd).mono hrows
  | remembered duplicate h hknown => exact .remembered duplicate (hkey hlock h) fun hd => (hknown hd).mono hrows
  | replayed answer hanswer => exact .replayed answer (hanswer.mono hrows)
  | refusing e pending hpending h =>
    exact .refusing e pending hpending (h.imp (hkey hlock) fun h => h.mono hrows)
  | answered a hanswer => exact .answered a (hanswer.mono hrows)
  | refused e => exact .refused e

/-! ## One statement -/

theorem stage_rememberAnswer (duplicate : Bool) (hkey : t.has r.rememberedKey = false)
    (hknown : duplicate = true → RecordKnown sha256 r t) :
    IngestStage sha256 deploymentTenants r t (.active (rememberAnswer sha256 r duplicate) [r.lockKey]
      (if duplicate then [] else [.evaluation (r.record sha256)])) := by
  unfold rememberAnswer
  split
  · refine .refusing _ _ (fun row hrow => ?_) (Or.inl hkey)
    cases duplicate with
    | false => exact List.mem_singleton.1 hrow
    | true => exact absurd hrow List.not_mem_nil
  · exact .answering duplicate hkey hknown

theorem stage_insertRecord (hkey : t.has r.rememberedKey = false) :
    IngestStage sha256 deploymentTenants r t (.active (insertRecord sha256 deploymentTenants r) [r.lockKey] []) := by
  unfold insertRecord
  split
  · exact .refusing _ _ (fun row hrow => absurd hrow List.not_mem_nil) (Or.inl hkey)
  · exact .fresh hkey

/-- Without rows of its own a session sees what is committed. -/
theorem visible_nil (t : Keyed HostedRow.key) (k : HostedKey) : Store.visible t [] k = t.lookup k := by
  simp [Store.visible]

variable {s s' : IngestStore} {i : Nat} {x x' : IngestSession}

theorem IngestStage.moves (hsound : s.Sound) (hx : s.sessions[i]? = some x)
    (h : IngestStage sha256 deploymentTenants r s.committed x) (hmoves : s.Moves i s') (hx' : s'.sessions[i]? = some x') :
    IngestStage sha256 deploymentTenants r s'.committed x' := by
  have hset : ∀ {y z : IngestSession}, s.sessions[i]? = some y → (s.sessions.set i z)[i]? = some x' → x' = z := by
    intro y z hy hz
    rw [List.getElem?_set_self', hy] at hz
    exact (Option.some.inj hz).symm
  cases hmoves with
  | waits => rwa [← Option.some.inj (hx.symm.trans hx')]
  | locks hsession hfree =>
    obtain rfl := Option.some.inj (hx.symm.trans hsession)
    obtain rfl := hset hsession hx'
    cases h with
    | begun => exact .locked
  | selects hsession =>
    obtain rfl := Option.some.inj (hx.symm.trans hsession)
    obtain rfl := hset hsession hx'
    cases h with
    | locked =>
      rw [visible_nil]
      dsimp only
      split
      · rename_i prior hprior
        obtain ⟨hmem, hkey⟩ := Keyed.lookup_eq_some.1 hprior
        obtain ⟨htenant, hkey⟩ := HostedKey.idempotency.inj hkey
        split
        · rename_i hother
          -- the key was used for another body or another route
          exact .refusing _ _ (fun row hrow => absurd hrow List.not_mem_nil)
            (Or.inr ⟨prior, hmem, htenant, hkey, hother⟩)
        · rename_i hsame
          rw [not_or, not_not] at hsame
          exact .replayed _ ⟨prior, hmem, htenant, hkey, hsame.1, rfl⟩
      · rename_i hnone
        refine .unremembered ?_
        rw [Keyed.has_eq_false]
        intro row hrow hkey
        cases row with
        | evaluation row => cases hkey
        | idempotency row => exact hnone row (Keyed.lookup_eq_some.2 ⟨hrow, hkey⟩)
    | unremembered hkey =>
      rw [visible_nil]
      dsimp only
      split
      · rename_i existing hexisting
        obtain ⟨hmem, hrecord⟩ := Keyed.lookup_eq_some.1 hexisting
        split
        · exact .refusing _ _ (fun row hrow => absurd hrow List.not_mem_nil) (Or.inl hkey)
        · rename_i hsame
          exact stage_rememberAnswer true hkey fun _ => ⟨existing, hmem, hrecord, not_not.1 hsame⟩
      · exact stage_insertRecord hkey
  | inserts hsession hnew hown hfree =>
    obtain rfl := Option.some.inj (hx.symm.trans hsession)
    obtain rfl := hset hsession hx'
    cases h with
    | fresh hkey =>
      exact stage_rememberAnswer false hkey fun h => by cases h
    | answering duplicate hkey hknown => exact .remembered duplicate hkey hknown
  | violates hsession htaken =>
    obtain rfl := hset hsession hx'
    exact .refused _
  | commits hsession =>
    obtain rfl := Option.some.inj (hx.symm.trans hsession)
    obtain rfl := hset hsession hx'
    cases h with
    | remembered duplicate hkey hknown =>
      -- the row of this request is the one pending row, and the commit stores it
      refine .answered _ ⟨r.remembered sha256 duplicate, (hsound.mem_commit hx).2 (Or.inr ?_), rfl, rfl, rfl, rfl⟩
      exact List.mem_append_right _ (List.mem_singleton_self _)
    | replayed answer hanswer => exact .answered _ (hanswer.mono fun row hrow => (hsound.mem_commit hx).2 (Or.inl hrow))
  | rollsBack hsession =>
    obtain rfl := hset hsession hx'
    exact .refused _

/-! ## Whole runs -/

variable {requests : List HostedIngest} {schedule : List Nat}

theorem ingests_session (h : (ingests sha256 deploymentTenants requests).sessions[i]? = some x) :
    ∃ r, requests[i]? = some r ∧ x = .active (ingestHostedEvaluation sha256 deploymentTenants r) [] [] := by
  rw [ingests, List.getElem?_map] at h
  obtain ⟨r, hr, rfl⟩ := Option.map_eq_some_iff.1 h
  exact ⟨r, hr, rfl⟩

theorem sound_ingests : (ingests sha256 deploymentTenants requests).Sound :=
  Store.sound_begun fun x hx => by
    obtain ⟨r, -, rfl⟩ := List.mem_map.1 hx
    exact ⟨rfl, rfl⟩

variable (sha256 deploymentTenants requests) in
/-- In every run, every session is at a stage of its request. -/
theorem stages_run (schedule : List Nat) (i : Nat) (x : IngestSession)
    (hx : ((ingests sha256 deploymentTenants requests).run schedule).sessions[i]? = some x) :
    ∃ r, requests[i]? = some r ∧
      IngestStage sha256 deploymentTenants r ((ingests sha256 deploymentTenants requests).run schedule).committed x := by
  refine sound_ingests.run_sessions (K := fun i t x => ∃ r, requests[i]? = some r ∧
    IngestStage sha256 deploymentTenants r t x) ?_ ?_ ?_ schedule i x hx
  · rintro s s' i x x' hsound hx ⟨r, hr, hstage⟩ hmoves hx'
    exact ⟨r, hr, hstage.moves hsound hx hmoves hx'⟩
  · rintro s i j x y hsound hij hx hy ⟨r, hr, hstage⟩ ⟨r', -, hstage'⟩
    refine ⟨r, hr, hstage.frame (fun row hrow => (hsound.mem_commit hy).2 (Or.inl hrow)) fun hlock hkey => ?_⟩
    -- A row under the request's key is inserted under its lock.
    by_contra hhas
    obtain ⟨row, hrow, htenant, hkeyed⟩ := has_rememberedKey.1 (Bool.not_eq_false _ ▸ hhas)
    rcases (hsound.mem_commit hy).1 hrow with hrow | hrow
    · rw [has_rememberedKey.2 ⟨row, hrow, htenant, hkeyed⟩] at hkey
      cases hkey
    · rcases hstage'.pending hrow with hrow | ⟨⟨duplicate, hrow⟩, hlock'⟩
      · cases hrow
      · obtain rfl := HostedRow.idempotency.inj hrow
        have hsame : r'.lockKey = r.lockKey := by
          show advisoryLockKey ("hosted/" ++ r'.tenantId ++ "/" ++ r'.idempotencyKey) = _
          rw [show r'.tenantId = r.tenantId from htenant, show r'.idempotencyKey = r.idempotencyKey from hkeyed]
          rfl
        exact hij (hsound.exclusive hx hy hlock (hsame ▸ hlock'))
  · intro i x hx
    obtain ⟨r, hr, rfl⟩ := ingests_session hx
    exact ⟨r, hr, .begun⟩

def Answered (s : IngestStore) (i : Nat) (a : IngestAnswer) : Prop := s.sessions[i]? = some (.ended (.ok a))

def Refused (s : IngestStore) (i : Nat) : Prop := ∃ e, s.sessions[i]? = some (.ended (.error e))

instance (s : IngestStore) (i : Nat) : Decidable (Refused s i) :=
  match h : s.sessions[i]? with
  | some (.ended (.error e)) => .isTrue ⟨e, h⟩
  | some (.ended (.ok _)) => .isFalse fun ⟨_, he⟩ => by rw [h] at he; cases he
  | some (.active _ _ _) => .isFalse fun ⟨_, he⟩ => by rw [h] at he; cases he
  | none => .isFalse fun ⟨_, he⟩ => by rw [h] at he; cases he

/-- A committed answer comes with its record. -/
theorem IngestStage.recorded {a : IngestAnswer} {locks : List (UInt32 × UInt32)} {pending : List HostedRow}
    (hsound : s.Sound) (hx : s.sessions[i]? = some (.active (.commit a) locks pending))
    (h : IngestStage sha256 deploymentTenants r s.committed (.active (.commit a) locks pending)) {row : IdempotencyRow}
    (hrow : .idempotency row ∈ pending) : RecordKnown sha256 r (s.committed.insertAll pending) := by
  cases h with
  | remembered duplicate hkey hknown =>
    cases duplicate with
    | true => exact (hknown rfl).mono fun row hrow => (hsound.mem_commit hx).2 (Or.inl hrow)
    | false => exact ⟨r.record sha256, (hsound.mem_commit hx).2 (Or.inr List.mem_cons_self), rfl, rfl⟩
  | replayed answer hanswer => exact absurd hrow List.not_mem_nil

/-- Every row is one of a request that was answered, an answer comes with its record, and the others write nothing. -/
def WrittenByAnswered (sha256 : String → String) (requests : List HostedIngest) (s : IngestStore) : Prop :=
  ∀ row ∈ s.committed.rows, ∃ i r a, requests[i]? = some r ∧ Answered s i a ∧
    (row = .evaluation (r.record sha256) ∨
      (∃ duplicate, row = .idempotency (r.remembered sha256 duplicate)) ∧ RecordKnown sha256 r s.committed)

variable (sha256 deploymentTenants requests) in
theorem written_run (schedule : List Nat) :
    WrittenByAnswered sha256 requests ((ingests sha256 deploymentTenants requests).run schedule) := by
  refine (Store.run_invariant (P := fun s => (∃ schedule, s = (ingests sha256 deploymentTenants requests).run schedule) ∧
    WrittenByAnswered sha256 requests s) ?_ ⟨⟨[], rfl⟩, fun row hrow => absurd hrow List.not_mem_nil⟩ schedule).2
  rintro s i ⟨⟨before, rfl⟩, hwritten⟩
  refine ⟨⟨before ++ [i], by rw [Store.run_append]; rfl⟩, ?_⟩
  have hsound : ((ingests sha256 deploymentTenants requests).run before).Sound := sound_ingests.run before
  have hstages : ∀ j y, ((ingests sha256 deploymentTenants requests).run before).sessions[j]? = some y →
      ∃ r, requests[j]? = some r ∧ IngestStage sha256 deploymentTenants r
        ((ingests sha256 deploymentTenants requests).run before).committed y := stages_run _ _ _ before
  generalize (ingests sha256 deploymentTenants requests).run before = s at *
  have hmoves := Store.advance_moves s i
  generalize s.advance i = s' at *
  -- an answered session stays answered, so the rows written before keep their writers
  have hkept : ∀ row ∈ s.committed.rows, ∃ i r a, requests[i]? = some r ∧ Answered s' i a ∧
      (row = .evaluation (r.record sha256) ∨
        (∃ duplicate, row = .idempotency (r.remembered sha256 duplicate)) ∧ RecordKnown sha256 r s'.committed) := by
    intro row hrow
    obtain ⟨j, r, a, hr, ha, hrow⟩ := hwritten row hrow
    exact ⟨j, r, a, hr, hmoves.ended ha, hrow.imp_right fun h => ⟨h.1, h.2.mono fun row => hmoves.committed⟩⟩
  cases hmoves with
  | commits hsession =>
    rename_i a locks pending
    intro row hrow
    rcases (hsound.mem_commit hsession).1 hrow with hrow | hrow
    · exact hkept row hrow
    · obtain ⟨r, hr, hstage⟩ := hstages i _ hsession
      refine ⟨i, r, a, hr, ?_, ?_⟩
      · show (s.sessions.set i _)[i]? = _
        rw [List.getElem?_set_self', hsession]
        rfl
      · refine (hstage.pending hrow).imp_right fun h => ⟨h.1, ?_⟩
        obtain ⟨⟨duplicate, rfl⟩, -⟩ := h
        exact hstage.recorded hsound hsession hrow
  | _ => exact hkept

/-! ## Conflicts -/

/-- The session is refused, or about to be. -/
def Refusing (x : IngestSession) : Prop :=
  (∃ e locks pending, x = .active (.rollback e) locks pending) ∨ ∃ e, x = .ended (.error e)

/-- The next statement inserts a record that was committed after it was looked up. -/
def RacingInsert (s : IngestStore) (i : Nat) : Prop :=
  ∃ row violation next locks pending,
    s.sessions[i]? = some (.active (.insert (.evaluation row) violation next) locks pending) ∧
      s.committed.has (HostedRow.key (.evaluation row)) = true

/-- The request's rows are admitted by the columns and constraints of their tables. -/
structure Admitted (sha256 : String → String) (deploymentTenants : Keyed DeploymentGrant.deploymentId)
    (r : HostedIngest) : Prop where
  record : r.recordCheck sha256 deploymentTenants = .ok ()
  remembered : r.rememberedCheck sha256 = .ok ()

/-- Nothing that is committed stands against the request. -/
structure Clear (sha256 : String → String) (deploymentTenants : Keyed DeploymentGrant.deploymentId) (r : HostedIngest)
    (s : IngestStore) (i : Nat) : Prop where
  keyed : ∀ row, .idempotency row ∈ s.committed.rows → row.tenantId = r.tenantId →
    row.idempotencyKey = r.idempotencyKey → row.payloadHash = r.payloadHash sha256 ∧ row.route = ingestRoute
  recorded : s.committed.has r.rememberedKey = false → ∀ row, .evaluation row ∈ s.committed.rows →
    HostedRow.key (.evaluation row) = r.recordKey → row.payloadHash = r.payloadHash sha256
  admitted : s.committed.has r.rememberedKey = false → Admitted sha256 deploymentTenants r
  unraced : s.committed.has r.rememberedKey = false → ¬ RacingInsert s i

/-- What stands against nothing is not refused. -/
theorem IngestStage.unrefused (hx : s.sessions[i]? = some x)
    (h : IngestStage sha256 deploymentTenants r s.committed x) (hnot : ¬ Refusing x)
    (hclear : Clear sha256 deploymentTenants r s i) (hmoves : s.Moves i s') (hx' : s'.sessions[i]? = some x') :
    ¬ Refusing x' := by
  have hset : ∀ {y z : IngestSession}, s.sessions[i]? = some y → (s.sessions.set i z)[i]? = some x' → x' = z := by
    intro y z hy hz
    rw [List.getElem?_set_self', hy] at hz
    exact (Option.some.inj hz).symm
  have hremember : ∀ (duplicate : Bool) (pending : List HostedRow), s.committed.has r.rememberedKey = false →
      ¬ Refusing (.active (rememberAnswer sha256 r duplicate) [r.lockKey] pending) := by
    intro duplicate pending hkey
    unfold rememberAnswer
    rw [(hclear.admitted hkey).remembered]
    rintro (⟨e, locks, pending, h⟩ | ⟨e, h⟩) <;> cases h
  cases hmoves with
  | waits => rwa [← Option.some.inj (hx.symm.trans hx')]
  | locks hsession hfree =>
    obtain rfl := Option.some.inj (hx.symm.trans hsession)
    obtain rfl := hset hsession hx'
    cases h with
    | begun => rintro (⟨e, locks, pending, h⟩ | ⟨e, h⟩) <;> cases h
  | selects hsession =>
    obtain rfl := Option.some.inj (hx.symm.trans hsession)
    obtain rfl := hset hsession hx'
    cases h with
    | locked =>
      rw [visible_nil]
      dsimp only
      split
      · rename_i prior hprior
        obtain ⟨hmem, hkey⟩ := Keyed.lookup_eq_some.1 hprior
        obtain ⟨htenant, hkey⟩ := HostedKey.idempotency.inj hkey
        obtain ⟨hhash, hroute⟩ := hclear.keyed prior hmem htenant hkey
        rw [if_neg (by rw [not_or, not_not, not_not]; exact ⟨hhash, hroute⟩)]
        rintro (⟨e, locks, pending, h⟩ | ⟨e, h⟩) <;> cases h
      · rintro (⟨e, locks, pending, h⟩ | ⟨e, h⟩) <;> cases h
    | unremembered hkey =>
      rw [visible_nil]
      dsimp only
      split
      · rename_i existing hexisting
        obtain ⟨hmem, hrecord⟩ := Keyed.lookup_eq_some.1 hexisting
        rw [if_neg (not_not.2 (hclear.recorded hkey existing hmem hrecord))]
        exact hremember true [] hkey
      · unfold insertRecord
        rw [(hclear.admitted hkey).record]
        rintro (⟨e, locks, pending, h⟩ | ⟨e, h⟩) <;> cases h
  | inserts hsession hnew hown hfree =>
    obtain rfl := Option.some.inj (hx.symm.trans hsession)
    obtain rfl := hset hsession hx'
    cases h with
    | fresh hkey => exact hremember false _ hkey
    | answering duplicate hkey hknown => rintro (⟨e, locks, pending, h⟩ | ⟨e, h⟩) <;> cases h
  -- a violation needs a key that was taken between the read and the insert, which the conditions exclude
  | violates hsession htaken =>
    obtain rfl := Option.some.inj (hx.symm.trans hsession)
    cases h with
    | fresh hkey =>
      rcases htaken with htaken | ⟨row, hrow, -⟩
      · exact absurd ⟨_, _, _, _, _, hsession, htaken⟩ (hclear.unraced hkey)
      · exact absurd hrow List.not_mem_nil
    | answering duplicate hkey hknown =>
      rcases htaken with htaken | ⟨row, hrow, hrowkey⟩
      · have hfree : s.committed.has (HostedRow.key (.idempotency (r.remembered sha256 duplicate))) = false := hkey
        rw [hfree] at htaken
        cases htaken
      · cases duplicate with
        | true => exact absurd hrow List.not_mem_nil
        | false =>
          obtain rfl := List.mem_singleton.1 hrow
          cases hrowkey
  | commits hsession =>
    obtain rfl := hset hsession hx'
    rintro (⟨e, locks, pending, h⟩ | ⟨e, h⟩) <;> cases h
  | rollsBack hsession =>
    obtain rfl := Option.some.inj (hx.symm.trans hsession)
    exact absurd (Or.inl ⟨_, _, _, rfl⟩) hnot

/-- A run in which nothing stands against the request when it moves does not refuse it. -/
theorem unrefused_run {before later : List Nat} (hr : requests[i]? = some r)
    (hnot : ∀ x, ((ingests sha256 deploymentTenants requests).run before).sessions[i]? = some x → ¬ Refusing x)
    (hclear : ∀ mid, mid ++ [i] <+: later →
      Clear sha256 deploymentTenants r ((ingests sha256 deploymentTenants requests).run (before ++ mid)) i) :
    ∀ x, ((ingests sha256 deploymentTenants requests).run (before ++ later)).sessions[i]? = some x → ¬ Refusing x := by
  induction later using List.reverseRecOn with
  | nil => rwa [List.append_nil]
  | append_singleton mid k ih =>
    have hmid := ih fun pre hpre => hclear pre (hpre.trans (List.prefix_append mid [k]))
    have hstages := stages_run sha256 deploymentTenants requests (before ++ mid)
    have hlast : k = i →
        Clear sha256 deploymentTenants r ((ingests sha256 deploymentTenants requests).run (before ++ mid)) i := by
      rintro rfl
      exact hclear mid (List.prefix_refl _)
    rw [← List.append_assoc, Store.run_append]
    generalize (ingests sha256 deploymentTenants requests).run (before ++ mid) = s at *
    intro x' hx'
    have hmoves := Store.advance_moves s k
    by_cases hk : k = i
    · subst hk
      cases hx : s.sessions[k]? with
      | none =>
        have hstays : s.advance k = s := by
          unfold Store.advance
          rw [hx]
        rw [Store.run_cons, Store.run_nil, hstays, hx] at hx'
        cases hx'
      | some x =>
        obtain ⟨r', hr', hstage⟩ := hstages k x hx
        obtain rfl := Option.some.inj (hr.symm.trans hr')
        exact hstage.unrefused hx (hmid x hx) (hlast rfl) hmoves hx'
    · rw [Store.run_cons, Store.run_nil, hmoves.other hk] at hx'
      exact hmid x' hx'

/-- What was hashed into two equal hashes is one text, and one text names one record. -/
structure FromBodies (sha256 : String → String) (requests : List HostedIngest) : Prop where
  collisionFree : ∀ r ∈ requests, ∀ r' ∈ requests, r.payloadHash sha256 = r'.payloadHash sha256 → r.text = r'.text
  sameRecord : ∀ r ∈ requests, ∀ r' ∈ requests, r.text = r'.text →
    r.deploymentId = r'.deploymentId ∧ r.evidenceDigest = r'.evidenceDigest

/-- Neither the key nor the digest of the request is sent with another payload by its tenant. -/
structure Agrees (requests : List HostedIngest) (r : HostedIngest) : Prop where
  keyed : ∀ r' ∈ requests, r'.tenantId = r.tenantId → r'.idempotencyKey = r.idempotencyKey → r'.text = r.text
  recorded : ∀ r' ∈ requests, r'.tenantId = r.tenantId → r'.deploymentId = r.deploymentId →
    r'.evidenceDigest = r.evidenceDigest → r'.text = r.text

theorem payloadHash_eq {r r' : HostedIngest} (h : r'.text = r.text) : r'.payloadHash sha256 = r.payloadHash sha256 := by
  unfold HostedIngest.payloadHash
  rw [h]

/-- A request that agrees with all others and whose rows are admitted is refused exactly where, at one of its steps, its
record was committed after it was looked up. -/
theorem refused_iff_raced (hr : requests[i]? = some r) (hagrees : Agrees requests r)
    (hadmitted : Admitted sha256 deploymentTenants r) :
    Refused ((ingests sha256 deploymentTenants requests).run schedule) i ↔
      ∃ before, before ++ [i] <+: schedule ∧
        RacingInsert ((ingests sha256 deploymentTenants requests).run before) i := by
  constructor
  · rintro ⟨e, he⟩
    by_contra hnone
    have hbegun : ∀ x, ((ingests sha256 deploymentTenants requests).run []).sessions[i]? = some x → ¬ Refusing x := by
      intro x hx
      obtain ⟨r', -, rfl⟩ := ingests_session hx
      rintro (⟨e, locks, pending, h⟩ | ⟨e, h⟩) <;> cases h
    refine unrefused_run hr hbegun (fun mid hmid => ?_) _ he (Or.inr ⟨e, rfl⟩)
    rw [List.nil_append]
    have hwritten := written_run sha256 deploymentTenants requests mid
    refine ⟨fun row hrow htenant hkey => ?_, fun _ row hrow hkey => ?_, fun _ => hadmitted, fun _ hraced => ?_⟩
    · obtain ⟨j, r', a, hr', -, hrow | ⟨⟨duplicate, hrow⟩, -⟩⟩ := hwritten _ hrow
      · cases hrow
      · obtain rfl := HostedRow.idempotency.inj hrow
        exact ⟨payloadHash_eq (hagrees.keyed r' (List.mem_of_getElem? hr') htenant hkey), rfl⟩
    · obtain ⟨j, r', a, hr', -, hrow | ⟨⟨duplicate, hrow⟩, -⟩⟩ := hwritten _ hrow
      · obtain rfl := HostedRow.evaluation.inj hrow
        obtain ⟨htenant, hdeployment, hdigest⟩ := HostedKey.evaluation.inj hkey
        exact payloadHash_eq (hagrees.recorded r' (List.mem_of_getElem? hr') htenant hdeployment hdigest)
      · cases hrow
    · exact hnone ⟨mid, hmid, hraced⟩
  · rintro ⟨before, ⟨rest, rfl⟩, row, violation, next, locks, pending, hsession, htaken⟩
    refine ⟨violation, ?_⟩
    rw [Store.run_append, Store.run_append]
    refine Store.ended_run ?_ rest
    rw [Store.run_cons, Store.run_nil]
    unfold Store.advance
    simp only [hsession, htaken, Bool.true_or, if_true]
    rw [List.getElem?_set_self', hsession]
    rfl

/-- Each record and each answer is stored once and stays, with the request that was answered; a request that repeats an
answered key is given the answer again; and one that brings another payload to an answered key or digest is not
answered. -/
structure Idempotent (sha256 : String → String) (requests : List HostedIngest) (s : IngestStore) : Prop where
  once : ∀ a ∈ s.committed.rows, ∀ b ∈ s.committed.rows, a.key = b.key → a = b
  stays : ∀ (later : List Nat), ∀ row ∈ s.committed.rows, row ∈ (s.run later).committed.rows
  written : WrittenByAnswered sha256 requests s
  recorded : ∀ (i : Nat) (r : HostedIngest) (a : IngestAnswer), requests[i]? = some r → Answered s i a →
    RecordKnown sha256 r s.committed
  repeated : ∀ (i j : Nat) (r r' : HostedIngest) (a : IngestAnswer), requests[i]? = some r → requests[j]? = some r' →
    Answered s i a → r'.tenantId = r.tenantId → r'.idempotencyKey = r.idempotencyKey → r'.text = r.text →
      (∀ o, s.sessions[j]? ≠ some (.ended o)) →
        ∀ (later : List Nat) (o : Except IngestFailure IngestAnswer), (s.run later).sessions[j]? = some (.ended o) →
          ∃ a', o = .ok a' ∧ a'.response = a.response
  contradicted : ∀ (i j : Nat) (r r' : HostedIngest) (a a' : IngestAnswer), requests[i]? = some r →
    requests[j]? = some r' → Answered s i a → Answered s j a' → r'.tenantId = r.tenantId →
      (r'.idempotencyKey = r.idempotencyKey ∨
        (r'.deploymentId = r.deploymentId ∧ r'.evidenceDigest = r.evidenceDigest)) → r'.text = r.text

/-- The row a request was answered from. -/
theorem answer_of_answered (hbodies : FromBodies sha256 requests) {before : List Nat} {a : IngestAnswer}
    (hr : requests[i]? = some r)
    (ha : Answered ((ingests sha256 deploymentTenants requests).run before) i a) :
    ∃ row, .idempotency row ∈ ((ingests sha256 deploymentTenants requests).run before).committed.rows ∧
      row.tenantId = r.tenantId ∧ row.idempotencyKey = r.idempotencyKey ∧ row.payloadHash = r.payloadHash sha256 ∧
        row.response = a.response ∧ row.route = ingestRoute ∧
          RecordKnown sha256 r ((ingests sha256 deploymentTenants requests).run before).committed := by
  obtain ⟨r', hr', hstage⟩ := stages_run _ _ _ before i _ ha
  obtain rfl := Option.some.inj (hr.symm.trans hr')
  cases hstage with
  | answered a hanswer =>
    obtain ⟨row, hrow, htenant, hkey, hhash, hresponse⟩ := hanswer
    refine ⟨row, hrow, htenant, hkey, hhash, hresponse, ?_⟩
    obtain ⟨j, r', a', hr', -, hrow' | ⟨⟨duplicate, hrow'⟩, hknown⟩⟩ := written_run _ _ _ before _ hrow
    · cases hrow'
    · obtain rfl := HostedRow.idempotency.inj hrow'
      refine ⟨rfl, ?_⟩
      have htext : r'.text = r.text :=
        hbodies.collisionFree r' (List.mem_of_getElem? hr') r (List.mem_of_getElem? hr) hhash
      obtain ⟨hdeployment, hdigest⟩ :=
        hbodies.sameRecord r' (List.mem_of_getElem? hr') r (List.mem_of_getElem? hr) htext
      obtain ⟨row, hrow, hrecord, hpayload⟩ := hknown
      refine ⟨row, hrow, hrecord.trans ?_, hpayload.trans hhash⟩
      show HostedKey.evaluation r'.tenantId r'.deploymentId r'.evidenceDigest =
        .evaluation r.tenantId r.deploymentId r.evidenceDigest
      rw [hdeployment, hdigest, show r'.tenantId = r.tenantId from htenant]

theorem idempotent_run (hbodies : FromBodies sha256 requests) (before : List Nat) :
    Idempotent sha256 requests ((ingests sha256 deploymentTenants requests).run before) where
  once a ha b hb hab := Keyed.eq_of_key _ ha hb hab
  stays later row hrow := Store.committed_run hrow later
  written := written_run _ _ _ before
  recorded i r a hr ha := by
    obtain ⟨row, -, -, -, -, -, -, hknown⟩ := answer_of_answered hbodies hr ha
    exact hknown
  repeated i j r r' a hr hr' ha htenant hkey htext hunended later o ho := by
    obtain ⟨row, hrow, hrtenant, hrkey, hhash, hresponse, hroute, -⟩ := answer_of_answered hbodies hr ha
    have hhash' : row.payloadHash = r'.payloadHash sha256 := by rw [hhash, payloadHash_eq htext]
    -- committed rows stay, and the key of the first answer is unique among them
    have hrow' : ∀ mid,
        .idempotency row ∈ ((ingests sha256 deploymentTenants requests).run (before ++ mid)).committed.rows := by
      intro mid
      rw [Store.run_append]
      exact Store.committed_run hrow mid
    have hhas : ∀ mid, ((ingests sha256 deploymentTenants requests).run (before ++ mid)).committed.has
        r'.rememberedKey = true := by
      intro mid
      exact has_rememberedKey.2 ⟨row, hrow' mid, hrtenant.trans htenant.symm, hrkey.trans hkey.symm⟩
    have hunique : ∀ mid row',
        .idempotency row' ∈ ((ingests sha256 deploymentTenants requests).run (before ++ mid)).committed.rows →
        row'.tenantId = r'.tenantId → row'.idempotencyKey = r'.idempotencyKey → row' = row := by
      intro mid row' hmem htenant' hkey'
      have hsame : HostedRow.key (.idempotency row') = HostedRow.key (.idempotency row) := by
        show HostedKey.idempotency row'.tenantId row'.idempotencyKey = .idempotency row.tenantId row.idempotencyKey
        rw [htenant', hkey', hrtenant, hrkey, htenant, hkey]
      exact HostedRow.idempotency.inj (Keyed.eq_of_key _ hmem (hrow' mid) hsame)
    -- the second request has not failed before its turn: a refusal needs a row with another body or route
    have hnot : ∀ x, ((ingests sha256 deploymentTenants requests).run before).sessions[j]? = some x → ¬ Refusing x := by
      rintro x hx (⟨e, locks, pending, rfl⟩ | ⟨e, rfl⟩)
      · obtain ⟨r₀, hr₀, hstage⟩ := stages_run _ _ _ before j _ hx
        obtain rfl := Option.some.inj (hr'.symm.trans hr₀)
        have hhas₀ := hhas []
        have hunique₀ := hunique []
        rw [List.append_nil] at hhas₀ hunique₀
        cases hstage with
        | refusing e pending hpending hreused =>
          rcases hreused with hfree | ⟨row', hmem, htenant', hkey', hother⟩
          · rw [hhas₀] at hfree
            cases hfree
          · obtain rfl := hunique₀ row' hmem htenant' hkey'
            rcases hother with hother | hother
            · exact hother hhash'
            · exact hother hroute
      · exact hunended _ hx
    -- and from here on it reads the row of the first answer, so no insert of it is reached
    have hclear : ∀ mid, mid ++ [j] <+: later →
        Clear sha256 deploymentTenants r' ((ingests sha256 deploymentTenants requests).run (before ++ mid)) j := by
      intro mid _
      refine ⟨fun row' hmem htenant' hkey' => ?_, fun hfree => ?_, fun hfree => ?_, fun hfree => ?_⟩
      · obtain rfl := hunique mid row' hmem htenant' hkey'
        exact ⟨hhash', hroute⟩
      all_goals
        rw [hhas mid] at hfree
        cases hfree
    have hlast := unrefused_run hr' hnot hclear
    rw [← Store.run_append] at ho
    have hstage := stages_run _ _ _ (before ++ later) j _ ho
    obtain ⟨r₀, hr₀, hstage⟩ := hstage
    obtain rfl := Option.some.inj (hr'.symm.trans hr₀)
    cases hstage with
    | refused e => exact absurd (Or.inr ⟨e, rfl⟩) (hlast _ ho)
    | answered a' hanswer =>
      obtain ⟨row', hmem, htenant', hkey', -, hresponse'⟩ := hanswer
      obtain rfl := hunique later row' hmem htenant' hkey'
      exact ⟨a', rfl, hresponse'.symm.trans hresponse⟩
  contradicted i j r r' a a' hr hr' ha ha' htenant hsame := by
    obtain ⟨row, hrow, hrtenant, hrkey, hhash, -, -, ⟨known, hknown, hrecord, hpayload⟩⟩ :=
      answer_of_answered hbodies hr ha
    obtain ⟨row', hrow', hrtenant', hrkey', hhash', -, -, ⟨known', hknown', hrecord', hpayload'⟩⟩ :=
      answer_of_answered hbodies hr' ha'
    refine hbodies.collisionFree r' (List.mem_of_getElem? hr') r (List.mem_of_getElem? hr) ?_
    rcases hsame with hkey | ⟨hdeployment, hdigest⟩
    · have heq : HostedRow.key (.idempotency row') = HostedRow.key (.idempotency row) := by
        show HostedKey.idempotency row'.tenantId row'.idempotencyKey = .idempotency row.tenantId row.idempotencyKey
        rw [hrtenant', hrkey', hrtenant, hrkey, htenant, hkey]
      obtain rfl := HostedRow.idempotency.inj (Keyed.eq_of_key _ hrow' hrow heq)
      exact hhash'.symm.trans hhash
    · have heq : HostedRow.key (.evaluation known') = HostedRow.key (.evaluation known) := by
        rw [hrecord, hrecord', HostedIngest.recordKey, HostedIngest.recordKey, htenant, hdeployment, hdigest]
      obtain rfl := HostedRow.evaluation.inj (Keyed.eq_of_key _ hknown' hknown heq)
      exact hpayload'.symm.trans hpayload

/-- Ingests in any order of their statements: stored once and for good, answered alike under one key, contradictions
refused; and a request that agrees with all others is refused exactly where its record was committed between its lookup
and its insert. -/
theorem ingest_idempotent (sha256 : String → String) (deploymentTenants : Keyed DeploymentGrant.deploymentId)
    {requests : List HostedIngest} (hbodies : FromBodies sha256 requests) (schedule : List Nat) :
    Idempotent sha256 requests ((ingests sha256 deploymentTenants requests).run schedule) ∧
      ∀ (i : Nat) (r : HostedIngest), requests[i]? = some r → Agrees requests r → Admitted sha256 deploymentTenants r →
        (Refused ((ingests sha256 deploymentTenants requests).run schedule) i ↔
          ∃ before, before ++ [i] <+: schedule ∧
            RacingInsert ((ingests sha256 deploymentTenants requests).run before) i) :=
  ⟨idempotent_run hbodies schedule, fun _ _ hr hagrees hadmitted => refused_iff_raced hr hagrees hadmitted⟩

/-! ## A race -/

def sampleGrants : Keyed DeploymentGrant.deploymentId :=
  (∅ : Keyed DeploymentGrant.deploymentId).insertIfAbsent ⟨"quickstart-healthy", "tenant-a", .sanitizedMetadata⟩

def sampleDigest64 (_ : String) : String := String.ofList (List.replicate 64 'b')

/-- One payload, sent under a key. -/
def sampleIngest (idempotencyKey : String) : HostedIngest where
  tenantId := "tenant-a"
  deploymentId := "quickstart-healthy"
  evidenceDigest := String.ofList (List.replicate 64 'a')
  text := "metadata"
  sharingLevel := .sanitizedMetadata
  verifyStatus := .metadataOnly
  protocolStatus := .ok
  dataStatus := .complete
  observedAt := 0
  expiresAt := 60000
  payload := .obj []
  idempotencyKey
  idempotencyExpiresAt := 86400000
  dbNow := 0

def twoIngests : List HostedIngest := [sampleIngest "newer-key-00000001", sampleIngest "older-key-00000001"]

theorem twoIngests_fromBodies : FromBodies sampleDigest64 twoIngests where
  collisionFree r hr r' hr' _ := by
    rcases List.mem_pair.1 hr with rfl | rfl <;> rcases List.mem_pair.1 hr' with rfl | rfl <;> rfl
  sameRecord r hr r' hr' _ := by
    rcases List.mem_pair.1 hr with rfl | rfl <;> rcases List.mem_pair.1 hr' with rfl | rfl <;> exact ⟨rfl, rfl⟩

theorem twoIngests_agree {r : HostedIngest} (hr : r ∈ twoIngests) : Agrees twoIngests r where
  keyed r' hr' _ _ := by
    rcases List.mem_pair.1 hr with rfl | rfl <;> rcases List.mem_pair.1 hr' with rfl | rfl <;> rfl
  recorded r' hr' _ _ _ := by
    rcases List.mem_pair.1 hr with rfl | rfl <;> rcases List.mem_pair.1 hr' with rfl | rfl <;> rfl

theorem admitted_sample {key : String} (hkey : matchesToken 16 key = true) :
    Admitted sampleDigest64 sampleGrants (sampleIngest key) where
  record := by
    have h : (sampleIngest "").recordCheck sampleDigest64 sampleGrants = .ok () := by decide +kernel
    exact h
  remembered := by
    have hhash : matchesHex "" 64 ((sampleIngest key).payloadHash sampleDigest64) = true := by
      show matchesHex "" 64 (String.ofList (List.replicate 64 'b')) = true
      decide +kernel
    unfold HostedIngest.rememberedCheck
    rw [hhash, show (sampleIngest key).idempotencyKey = key from rfl, hkey]
    rfl

/-- Both look the record up before either inserts it. -/
def raceSchedule : List Nat := [0, 0, 0, 1, 1, 1, 0, 0, 0, 1]

/-- The second of them is refused. -/
theorem raced_ingest_is_refused : ¬ ∀ (requests : List HostedIngest) (schedule : List Nat),
    FromBodies sampleDigest64 requests → ∀ i r, requests[i]? = some r → Agrees requests r →
      Admitted sampleDigest64 sampleGrants r →
        ¬ Refused ((ingests sampleDigest64 sampleGrants requests).run schedule) i := by
  intro h
  exact h twoIngests raceSchedule twoIngests_fromBodies 1 _ rfl (twoIngests_agree (by simp [twoIngests]))
    (admitted_sample (by decide +kernel)) (by decide +kernel)

theorem ingest_idempotent_raced :
    Idempotent sampleDigest64 twoIngests ((ingests sampleDigest64 sampleGrants twoIngests).run raceSchedule) ∧
      ∃ before, before ++ [1] <+: raceSchedule ∧
        RacingInsert ((ingests sampleDigest64 sampleGrants twoIngests).run before) 1 := by
  obtain ⟨hidempotent, hraced⟩ := ingest_idempotent sampleDigest64 sampleGrants twoIngests_fromBodies raceSchedule
  exact ⟨hidempotent, (hraced 1 _ rfl (twoIngests_agree (by simp [twoIngests])) (admitted_sample (by decide +kernel))).1
    (by decide +kernel)⟩

end IcttSentinel.Storage
