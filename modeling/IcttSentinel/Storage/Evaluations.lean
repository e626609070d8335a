/-
Evaluations, packages/storage-postgres/src/evaluations.ts: "an evaluation is addressed by what it was computed from,
never by when it ran". The key is the hash of one JSON document; a write inserts a row or leaves the one under its key,
and then reads what is there in a statement of its own. Every statement commits by itself.
-/
import IcttSentinel.Domain.Verdict
import IcttSentinel.Lib.Counting
import IcttSentinel.Lib.Decimal
import IcttSentinel.Lib.Joined
import IcttSentinel.Lib.JsonText
import IcttSentinel.Lib.Sorting
import IcttSentinel.Storage.Schema

namespace IcttSentinel.Storage

open IcttSentinel.Domain IcttSentinel.Lib

/-! ## Keys -/

structure EvaluatedBlock where
  chainKey : String
  blockNumber : Int
  blockHash : String
  deriving DecidableEq, Repr

structure EvaluationInput where
  deploymentId : String
  subject : String
  policyVersion : String
  adapterVersion : String
  pinnedBlocks : List EvaluatedBlock
  inputObservationDigests : List String

structure EvaluationRecord extends EvaluationInput where
  verdict : Verdict
  payloadDigest : String

def EvaluatedBlock.text (p : EvaluatedBlock) : String :=
  p.chainKey ++ "@" ++ toString p.blockNumber ++ ":" ++ p.blockHash

/-- The document whose hash is the key. -/
def EvaluationInput.document (input : EvaluationInput) : Json :=
  .obj [
    ("deploymentId", .str input.deploymentId),
    ("subject", .str input.subject),
    ("policyVersion", .str input.policyVersion),
    ("adapterVersion", .str input.adapterVersion),
    ("pinned", .arr ((sortStrings (input.pinnedBlocks.map EvaluatedBlock.text)).map .str)),
    ("digests", .arr ((sortStrings input.inputObservationDigests).map .str))]

def evaluationIdempotencyKey (sha256 : String → String) (input : EvaluationInput) : String :=
  sha256 input.document.stringify

/-- Neither `@` nor `:` is in a chain key or a hash. -/
def EvaluationInput.Separable (input : EvaluationInput) : Prop :=
  ∀ p ∈ input.pinnedBlocks, '@' ∉ p.chainKey.toList ∧ ':' ∉ p.chainKey.toList ∧ '@' ∉ p.blockHash.toList ∧
    ':' ∉ p.blockHash.toList

instance (input : EvaluationInput) : Decidable input.Separable :=
  inferInstanceAs (Decidable (∀ p ∈ input.pinnedBlocks, _))

theorem text_injective {p q : EvaluatedBlock} (hp : '@' ∉ p.chainKey.toList) (hq : '@' ∉ q.chainKey.toList)
    (h : p.text = q.text) : p = q := by
  have hlists := congrArg String.toList h
  have hat : ("@" : String).toList = ['@'] := rfl
  have hcolon : (":" : String).toList = [':'] := rfl
  simp only [EvaluatedBlock.text, String.toList_append, hat, hcolon, List.append_assoc, List.singleton_append] at hlists
  obtain ⟨hchain, hrest⟩ := append_cons_inj hp hq hlists
  obtain ⟨hnumber, hhash⟩ := append_cons_inj (notMem_decimal (by decide) (by decide) _)
    (notMem_decimal (by decide) (by decide) _) hrest
  have hchain' : p.chainKey = q.chainKey := String.toList_inj.1 hchain
  have hnumber' : p.blockNumber = q.blockNumber := decimal_injective (String.toList_inj.1 hnumber)
  have hhash' : p.blockHash = q.blockHash := String.toList_inj.1 hhash
  cases p
  cases q
  cases hchain'
  cases hnumber'
  cases hhash'
  rfl

theorem sortStrings_eq_iff {l l' : List String} : sortStrings l = sortStrings l' ↔ l.Perm l' := by
  refine ⟨fun h => ?_, sortStrings_eq_of_perm⟩
  have hperm : (sortStrings l).Perm l := sortOn_perm _ _
  have hperm' : (sortStrings l').Perm l' := sortOn_perm _ _
  exact hperm.symm.trans (h ▸ hperm')

/-- The pinned blocks of separable inputs are told apart by their texts. -/
theorem texts_perm_iff {a b : EvaluationInput} (ha : a.Separable) (hb : b.Separable) :
    (a.pinnedBlocks.map EvaluatedBlock.text).Perm (b.pinnedBlocks.map EvaluatedBlock.text) ↔
      a.pinnedBlocks.Perm b.pinnedBlocks := by
  refine ⟨fun h => ?_, fun h => h.map _⟩
  have hself : (a.pinnedBlocks.map id).Perm (b.pinnedBlocks.map id) :=
    map_perm_of_map_perm (fun p hp q hq hpq => text_injective (ha p hp).1 (hb q hq).1 hpq) h
  rwa [List.map_id, List.map_id] at hself

theorem strings_inj {l l' : List String} : Json.arr (l.map .str) = Json.arr (l'.map .str) ↔ l = l' := by
  rw [Json.arr.injEq]
  exact (List.map_injective_iff.2 fun _ _ h => Json.str.inj h).eq_iff

/-- What an evaluation was computed from, whatever the order. -/
structure SameInput (a b : EvaluationInput) : Prop where
  deploymentId : a.deploymentId = b.deploymentId
  subject : a.subject = b.subject
  policyVersion : a.policyVersion = b.policyVersion
  adapterVersion : a.adapterVersion = b.adapterVersion
  pinnedBlocks : a.pinnedBlocks.Perm b.pinnedBlocks
  inputObservationDigests : a.inputObservationDigests.Perm b.inputObservationDigests

theorem document_eq_iff {a b : EvaluationInput} (ha : a.Separable) (hb : b.Separable) :
    a.document = b.document ↔ SameInput a b := by
  constructor
  · intro h
    simp only [EvaluationInput.document, Json.obj.injEq, List.cons.injEq, Prod.mk.injEq, true_and, and_true,
      Json.str.injEq, strings_inj, sortStrings_eq_iff, texts_perm_iff ha hb] at h
    obtain ⟨hdeployment, hsubject, hpolicy, hadapter, hpinned, hdigests⟩ := h
    exact ⟨hdeployment, hsubject, hpolicy, hadapter, hpinned, hdigests⟩
  · rintro ⟨hdeployment, hsubject, hpolicy, hadapter, hpinned, hdigests⟩
    simp only [EvaluationInput.document, hdeployment, hsubject, hpolicy, hadapter,
      sortStrings_eq_of_perm (hpinned.map EvaluatedBlock.text), sortStrings_eq_of_perm hdigests]

/-- Keys are equal exactly where the inputs are, as long as the hash does not collide on the two documents. -/
theorem key_eq_iff {sha256 : String → String} {a b : EvaluationInput} (ha : a.Separable) (hb : b.Separable)
    (hsha : sha256 a.document.stringify = sha256 b.document.stringify →
      a.document.stringify = b.document.stringify) :
    evaluationIdempotencyKey sha256 a = evaluationIdempotencyKey sha256 b ↔ SameInput a b := by
  rw [← document_eq_iff ha hb]
  constructor
  · intro h
    exact Json.stringify_injective (hsha h)
  · intro h
    unfold evaluationIdempotencyKey
    rw [h]

/-! ## Writing -/

/-- `evaluations`, whose primary key is the idempotency key too. -/
structure EvaluationRow where
  evaluationId : String
  idempotencyKey : String
  deploymentId : String
  subject : String
  policyVersion : String
  adapterVersion : String
  pinnedBlocks : List EvaluatedBlock
  inputDigest : String
  verdict : Verdict
  payloadDigest : String
  deriving DecidableEq, Repr

structure EvaluationWriteResult where
  evaluationId : String
  idempotencyKey : String
  inserted : Bool
  deriving DecidableEq, Repr

/-- How a write fails: a column or a constraint refuses the row, the row is gone, or `IdempotencyConflictError`. -/
inductive EvaluationFailure where
  | violation (violation : Violation)
  | untranslatable
  | vanished
  | conflict (idempotencyKey storedDigest incomingDigest : String)
  deriving DecidableEq, Repr

section Write

variable (sha256 : String → String) (deployments : List String) (record : EvaluationRecord)

def EvaluationRecord.row : EvaluationRow where
  evaluationId := evaluationIdempotencyKey sha256 record.toEvaluationInput
  idempotencyKey := evaluationIdempotencyKey sha256 record.toEvaluationInput
  deploymentId := record.deploymentId
  subject := record.subject
  policyVersion := record.policyVersion
  adapterVersion := record.adapterVersion
  pinnedBlocks := sortOn (fun p => codeUnits p.chainKey) record.pinnedBlocks
  inputDigest := sha256 (String.join (sortStrings record.inputObservationDigests))
  verdict := record.verdict
  payloadDigest := record.payloadDigest

/-- The texts of the row, none of which can hold a character NUL. -/
def EvaluationRow.texts (row : EvaluationRow) : List String :=
  [row.deploymentId, row.subject, row.policyVersion, row.adapterVersion, row.payloadDigest] ++
    row.pinnedBlocks.flatMap fun p => [p.chainKey, p.blockHash]

/-- The columns and constraints of the table. -/
def EvaluationRow.check (row : EvaluationRow) : Except EvaluationFailure Unit :=
  if row.texts.any fun s => s.toList.contains (Char.ofNat 0) then .error .untranslatable
  else if !matchesHex "" 64 row.idempotencyKey then .error (.violation (.checkViolation "evaluations_idem_ck"))
  else if !matchesHex "" 64 row.inputDigest then .error (.violation (.checkViolation "evaluations_input_ck"))
  else if !matchesHex "" 64 row.payloadDigest then .error (.violation (.checkViolation "evaluations_payload_ck"))
  else if row.pinnedBlocks.isEmpty then .error (.violation (.checkViolation "evaluations_pinned_ck"))
  else .ok ()

/-- A `putEvaluation` that has not begun, one that found its key taken and has yet to read the row, or one that ended. -/
inductive PutEvaluation where
  | inserting
  | reading
  | ended (outcome : Except EvaluationFailure EvaluationWriteResult)

/-- The insert: `on conflict (idempotency_key) do nothing returning evaluation_id`. -/
def insertEvaluation (t : Keyed EvaluationRow.idempotencyKey) : PutEvaluation × Keyed EvaluationRow.idempotencyKey :=
  let row := record.row sha256
  match row.check with
  | .error e => (.ended (.error e), t)
  | .ok () =>
    if t.has row.idempotencyKey then (.reading, t)
    else if !deployments.contains row.deploymentId then
      (.ended (.error (.violation (.foreignKeyViolation "evaluations_deployment_id_fkey"))), t)
    else (.ended (.ok ⟨row.evaluationId, row.idempotencyKey, true⟩), t.insertIfAbsent row)

/-- The read of the row that was there. -/
def readEvaluation (t : Keyed EvaluationRow.idempotencyKey) : Except EvaluationFailure EvaluationWriteResult :=
  let key := evaluationIdempotencyKey sha256 record.toEvaluationInput
  match t.lookup key with
  | none => .error .vanished
  | some row =>
    if row.payloadDigest ≠ record.payloadDigest then .error (.conflict key row.payloadDigest record.payloadDigest)
    else .ok ⟨row.evaluationId, key, false⟩

end Write

/-- The table, and how far each of the calls is. -/
structure EvaluationState where
  evaluations : Keyed EvaluationRow.idempotencyKey
  calls : List PutEvaluation

section Runs

variable (sha256 : String → String) (deployments : List String) (records : List EvaluationRecord)

/-- The `i`th call runs its next statement. -/
def putStep (s : EvaluationState) (i : Nat) : EvaluationState :=
  match records[i]?, s.calls[i]? with
  | some record, some .inserting =>
    let (call, evaluations) := insertEvaluation sha256 deployments record s.evaluations
    { evaluations, calls := s.calls.set i call }
  | some record, some .reading =>
    { s with calls := s.calls.set i (.ended (readEvaluation sha256 record s.evaluations)) }
  | _, _ => s

end Runs

/-! ## What the calls know -/

variable {sha256 : String → String} {deployments : List String} {records : List EvaluationRecord}
  {record : EvaluationRecord} {t t' : Keyed EvaluationRow.idempotencyKey}

def EvaluationRecord.key (sha256 : String → String) (record : EvaluationRecord) : String :=
  evaluationIdempotencyKey sha256 record.toEvaluationInput

/-- The row is admitted by the columns and constraints of its table. -/
structure EvaluationRecord.Admitted (sha256 : String → String) (deployments : List String) (record : EvaluationRecord) :
    Prop where
  check : (record.row sha256).check = .ok ()
  registered : deployments.contains record.deploymentId = true

/-- Where a call is, and what it knows of the table. -/
inductive PutStage (sha256 : String → String) (deployments : List String) (record : EvaluationRecord)
    (t : Keyed EvaluationRow.idempotencyKey) : PutEvaluation → Prop
  | inserting : PutStage sha256 deployments record t .inserting
  | reading (hkey : t.has (record.key sha256) = true) : PutStage sha256 deployments record t .reading
  | inserted (hrow : record.row sha256 ∈ t.rows) :
      PutStage sha256 deployments record t (.ended (.ok ⟨record.key sha256, record.key sha256, true⟩))
  | repeated (row : EvaluationRow) (hrow : row ∈ t.rows) (hkey : row.idempotencyKey = record.key sha256)
      (hpayload : row.payloadDigest = record.payloadDigest) :
      PutStage sha256 deployments record t (.ended (.ok ⟨row.evaluationId, record.key sha256, false⟩))
  | conflicting (row : EvaluationRow) (hrow : row ∈ t.rows) (hkey : row.idempotencyKey = record.key sha256)
      (hpayload : row.payloadDigest ≠ record.payloadDigest) :
      PutStage sha256 deployments record t
        (.ended (.error (.conflict (record.key sha256) row.payloadDigest record.payloadDigest)))
  | refused (e : EvaluationFailure) (hrefused : ¬ record.Admitted sha256 deployments) :
      PutStage sha256 deployments record t (.ended (.error e))

theorem PutStage.mono {call : PutEvaluation} (h : PutStage sha256 deployments record t call)
    (hrows : ∀ row ∈ t.rows, row ∈ t'.rows) : PutStage sha256 deployments record t' call := by
  cases h with
  | inserting => exact .inserting
  | reading hkey =>
    obtain ⟨row, hrow, hrowkey⟩ := Keyed.has_iff.1 hkey
    exact .reading (Keyed.has_iff.2 ⟨row, hrows row hrow, hrowkey⟩)
  | inserted hrow => exact .inserted (hrows _ hrow)
  | repeated row hrow hkey hpayload => exact .repeated row (hrows row hrow) hkey hpayload
  | conflicting row hrow hkey hpayload => exact .conflicting row (hrows row hrow) hkey hpayload
  | refused e hrefused => exact .refused e hrefused

/-- Being told so, and nothing else, means that the row is stored. -/
theorem PutStage.row_of_inserted {call : PutEvaluation} (h : PutStage sha256 deployments record t call)
    {evaluationId key : String} (hcall : call = .ended (.ok ⟨evaluationId, key, true⟩)) :
    record.row sha256 ∈ t.rows := by
  cases h with
  | inserted hrow => exact hrow
  | repeated row hrow hkey hpayload =>
    obtain ⟨-, -, hfalse⟩ := EvaluationWriteResult.mk.inj (Except.ok.inj (PutEvaluation.ended.inj hcall))
    cases hfalse
  | inserting => cases hcall
  | reading hkey => cases hcall
  | conflicting row hrow hkey hpayload => cases hcall
  | refused e hrefused => cases hcall

/-- An insert adds its row where none is under its key, and then says so. -/
theorem insertEvaluation_cases (sha256 : String → String) (deployments : List String) (record : EvaluationRecord)
    (t : Keyed EvaluationRow.idempotencyKey) :
    (∃ call, insertEvaluation sha256 deployments record t = (call, t) ∧
      PutStage sha256 deployments record t call ∧
        call ≠ .ended (.ok ⟨record.key sha256, record.key sha256, true⟩)) ∨
    (t.has (record.key sha256) = false ∧
      insertEvaluation sha256 deployments record t =
        (.ended (.ok ⟨record.key sha256, record.key sha256, true⟩), t.insertIfAbsent (record.row sha256))) := by
  unfold insertEvaluation
  dsimp only
  split
  · rename_i e hcheck
    refine Or.inl ⟨_, rfl, .refused e fun h => ?_, fun h => by cases h⟩
    rw [h.check] at hcheck
    cases hcheck
  · split
    · rename_i hhas
      exact Or.inl ⟨_, rfl, .reading hhas, fun h => by cases h⟩
    · rename_i hhas
      split
      · rename_i hregistered
        refine Or.inl ⟨_, rfl, .refused _ fun h => ?_, fun h => by cases h⟩
        have hdeployment : deployments.contains (record.row sha256).deploymentId = true := h.registered
        rw [hdeployment] at hregistered
        cases hregistered
      · exact Or.inr ⟨(Bool.not_eq_true _).mp hhas, rfl⟩

theorem stage_readEvaluation (hkey : t.has (record.key sha256) = true) :
    PutStage sha256 deployments record t (.ended (readEvaluation sha256 record t)) := by
  unfold readEvaluation
  dsimp only
  split
  · rename_i hnone
    obtain ⟨row, hrow, hrowkey⟩ := Keyed.has_iff.1 hkey
    exact absurd hrowkey (Keyed.lookup_eq_none.1 hnone row hrow)
  · rename_i row hrow
    obtain ⟨hmem, hrowkey⟩ := Keyed.lookup_eq_some.1 hrow
    split
    · rename_i hpayload
      exact .conflicting row hmem hrowkey hpayload
    · rename_i hpayload
      exact .repeated row hmem hrowkey (not_not.1 hpayload)

/-! ## Whole runs -/

/-- The call was told that it inserted the row of its key. -/
def ToldInserted (sha256 : String → String) (s : EvaluationState) (i : Nat) (record : EvaluationRecord) : Prop :=
  s.calls[i]? = some (.ended (.ok ⟨record.key sha256, record.key sha256, true⟩))

/-- What holds in every run. -/
structure PutInvariant (sha256 : String → String) (deployments : List String) (records : List EvaluationRecord)
    (s : EvaluationState) : Prop where
  stages {i : Nat} {record : EvaluationRecord} {call : PutEvaluation} : records[i]? = some record →
    s.calls[i]? = some call → PutStage sha256 deployments record s.evaluations call
  written {row : EvaluationRow} : row ∈ s.evaluations.rows →
    ∃ (i : Nat) (record : EvaluationRecord), records[i]? = some record ∧ ToldInserted sha256 s i record ∧
      row = record.row sha256
  once {i j : Nat} {record record' : EvaluationRecord} : records[i]? = some record → records[j]? = some record' →
    record'.key sha256 = record.key sha256 → ToldInserted sha256 s i record → ToldInserted sha256 s j record' → i = j

theorem getElem?_set_call {calls : List PutEvaluation} {i j : Nat} {call call' : PutEvaluation}
    (h : (calls.set i call)[j]? = some call') : (j = i ∧ call' = call) ∨ (j ≠ i ∧ calls[j]? = some call') := by
  rw [List.getElem?_set] at h
  split at h
  · rename_i hij
    split at h
    · exact Or.inl ⟨hij.symm, (Option.some.inj h).symm⟩
    · cases h
  · rename_i hij
    exact Or.inr ⟨Ne.symm hij, h⟩

variable {s : EvaluationState} {i : Nat}

/-- A call moves on without a row of its own. -/
theorem PutInvariant.move (h : PutInvariant sha256 deployments records s) {call call' : PutEvaluation}
    (hrecord : records[i]? = some record) (hcall : s.calls[i]? = some call) (hended : ∀ o, call ≠ .ended o)
    (hstage : PutStage sha256 deployments record s.evaluations call')
    (hnot : call' ≠ .ended (.ok ⟨record.key sha256, record.key sha256, true⟩)) :
    PutInvariant sha256 deployments records { s with calls := s.calls.set i call' } where
  stages {j record' call''} hj hcall'' := by
    rcases getElem?_set_call hcall'' with ⟨rfl, rfl⟩ | ⟨-, hold⟩
    · obtain rfl := Option.some.inj (hrecord.symm.trans hj)
      exact hstage
    · exact h.stages hj hold
  written hrow := by
    obtain ⟨j, record', hj, htold, hrow⟩ := h.written hrow
    refine ⟨j, record', hj, ?_, hrow⟩
    -- this call has not ended, so it is not the one that wrote the row
    have hji : i ≠ j := by
      rintro rfl
      rw [ToldInserted, hcall] at htold
      exact hended _ (Option.some.inj htold)
    show (s.calls.set i call')[j]? = _
    rw [List.getElem?_set_ne hji]
    exact htold
  once {j k record' record''} hj hk hkeys htold htold' := by
    rcases getElem?_set_call htold with ⟨rfl, heq⟩ | ⟨-, hold⟩
    · obtain rfl := Option.some.inj (hrecord.symm.trans hj)
      exact absurd heq.symm hnot
    · rcases getElem?_set_call htold' with ⟨rfl, heq⟩ | ⟨-, hold'⟩
      · obtain rfl := Option.some.inj (hrecord.symm.trans hk)
        exact absurd heq.symm hnot
      · exact h.once hj hk hkeys hold hold'

/-- A call inserts its row: nobody was told so for its key before. -/
theorem PutInvariant.insert (h : PutInvariant sha256 deployments records s) (hrecord : records[i]? = some record)
    (hcall : s.calls[i]? = some .inserting) (hnew : s.evaluations.has (record.key sha256) = false) :
    PutInvariant sha256 deployments records
      { evaluations := s.evaluations.insertIfAbsent (record.row sha256)
        calls := s.calls.set i (.ended (.ok ⟨record.key sha256, record.key sha256, true⟩)) } := by
  have hmem : ∀ {row}, row ∈ (s.evaluations.insertIfAbsent (record.row sha256)).rows ↔
      row ∈ s.evaluations.rows ∨ row = record.row sha256 := by
    intro row
    rw [Keyed.mem_insertIfAbsent]
    exact or_congr_right ⟨And.left, fun h => ⟨h, hnew⟩⟩
  have hset : (s.calls.set i (.ended (.ok ⟨record.key sha256, record.key sha256, true⟩)))[i]? =
      some (.ended (.ok ⟨record.key sha256, record.key sha256, true⟩)) := by
    rw [List.getElem?_set_self', hcall]
    rfl
  -- no earlier call was told that it inserted this key: the key was free
  have hfresh : ∀ {j record'}, records[j]? = some record' → record'.key sha256 = record.key sha256 →
      ¬ ToldInserted sha256 s j record' := by
    intro j record' hj hkeys htold
    exact Keyed.has_eq_false.1 hnew _ ((h.stages hj htold).row_of_inserted rfl) hkeys
  refine ⟨fun {j record' call} hj hcall' => ?_, fun {row} hrow => ?_,
    fun {j k record' record''} hj hk hkeys htold htold' => ?_⟩
  · rcases getElem?_set_call hcall' with ⟨rfl, rfl⟩ | ⟨-, hold⟩
    · obtain rfl := Option.some.inj (hrecord.symm.trans hj)
      exact .inserted (hmem.2 (Or.inr rfl))
    · exact (h.stages hj hold).mono fun row hrow => hmem.2 (Or.inl hrow)
  · rcases hmem.1 hrow with hrow | rfl
    · obtain ⟨j, record', hj, htold, hrow⟩ := h.written hrow
      refine ⟨j, record', hj, ?_, hrow⟩
      have hji : i ≠ j := by
        rintro rfl
        rw [ToldInserted, hcall] at htold
        cases htold
      show (s.calls.set i _)[j]? = _
      rw [List.getElem?_set_ne hji]
      exact htold
    · exact ⟨i, record, hrecord, hset, rfl⟩
  · rcases getElem?_set_call htold with ⟨rfl, -⟩ | ⟨-, hold⟩ <;>
      rcases getElem?_set_call htold' with ⟨rfl, -⟩ | ⟨-, hold'⟩
    · rfl
    · obtain rfl := Option.some.inj (hrecord.symm.trans hj)
      exact absurd hold' (hfresh hk hkeys)
    · obtain rfl := Option.some.inj (hrecord.symm.trans hk)
      exact absurd hold (hfresh hj hkeys.symm)
    · exact h.once hj hk hkeys hold hold'

theorem PutInvariant.step (h : PutInvariant sha256 deployments records s) (i : Nat) :
    PutInvariant sha256 deployments records (putStep sha256 deployments records s i) := by
  unfold putStep
  split
  · rename_i record hrecord hcall
    rcases insertEvaluation_cases sha256 deployments record s.evaluations with ⟨call, heq, hstage, hnot⟩ | ⟨hnew, heq⟩
    · rw [heq]
      exact h.move hrecord hcall (fun o ho => by cases ho) hstage hnot
    · rw [heq]
      exact h.insert hrecord hcall hnew
  · rename_i record hrecord hcall
    have hkey : s.evaluations.has (record.key sha256) = true := by
      cases h.stages hrecord hcall with
      | reading hkey => exact hkey
    refine h.move hrecord hcall (fun o ho => by cases ho) (stage_readEvaluation hkey) fun hinserted => ?_
    unfold readEvaluation at hinserted
    dsimp only at hinserted
    split at hinserted
    · cases hinserted
    · split at hinserted
      · cases hinserted
      · obtain ⟨-, -, hfalse⟩ := EvaluationWriteResult.mk.inj (Except.ok.inj (PutEvaluation.ended.inj hinserted))
        cases hfalse
  · exact h

/-- What a call that ended came to, where its row is admitted: one call of its key was told that it inserted its row, and
every other is told what is stored. -/
def Settled (sha256 : String → String) (records : List EvaluationRecord) (s : EvaluationState) (i : Nat)
    (record : EvaluationRecord) (o : Except EvaluationFailure EvaluationWriteResult) : Prop :=
  ∃ (j : Nat) (first : EvaluationRecord), records[j]? = some first ∧ first.key sha256 = record.key sha256 ∧
    ToldInserted sha256 s j first ∧
      (j ≠ i → o =
        if first.payloadDigest = record.payloadDigest then .ok ⟨record.key sha256, record.key sha256, false⟩
        else .error (.conflict (record.key sha256) first.payloadDigest record.payloadDigest))

theorem PutInvariant.settled (h : PutInvariant sha256 deployments records s) (hrecord : records[i]? = some record)
    {o : Except EvaluationFailure EvaluationWriteResult} (ho : s.calls[i]? = some (.ended o))
    (hadmitted : record.Admitted sha256 deployments) : Settled sha256 records s i record o := by
  -- a stored row was written by the call that was told it inserted it
  have hfirst : ∀ {row}, row ∈ s.evaluations.rows → row.idempotencyKey = record.key sha256 →
      ∃ (j : Nat) (first : EvaluationRecord), records[j]? = some first ∧ first.key sha256 = record.key sha256 ∧
        ToldInserted sha256 s j first ∧ row = first.row sha256 := by
    intro row hrow hkey
    obtain ⟨j, first, hj, htold, rfl⟩ := h.written hrow
    exact ⟨j, first, hj, hkey, htold, rfl⟩
  have hstage := h.stages hrecord ho
  generalize hcall : PutEvaluation.ended o = call at hstage
  cases hstage with
  | inserting => cases hcall
  | reading hkey => cases hcall
  | inserted hrow =>
    obtain rfl := PutEvaluation.ended.inj hcall
    exact ⟨i, record, hrecord, rfl, ho, fun hne => absurd rfl hne⟩
  | repeated row hrow hkey hpayload =>
    obtain rfl := PutEvaluation.ended.inj hcall
    obtain ⟨j, first, hj, hkeys, htold, rfl⟩ := hfirst hrow hkey
    refine ⟨j, first, hj, hkeys, htold, fun _ => ?_⟩
    have hsame : first.payloadDigest = record.payloadDigest := hpayload
    have hid : (first.row sha256).evaluationId = record.key sha256 := hkeys
    rw [if_pos hsame, hid]
  | conflicting row hrow hkey hpayload =>
    obtain rfl := PutEvaluation.ended.inj hcall
    obtain ⟨j, first, hj, hkeys, htold, rfl⟩ := hfirst hrow hkey
    refine ⟨j, first, hj, hkeys, htold, fun _ => ?_⟩
    have hother : first.payloadDigest ≠ record.payloadDigest := hpayload
    rw [if_neg hother]
    rfl
  | refused e hrefused => exact absurd hadmitted hrefused

end IcttSentinel.Storage
