/-
Histories of the ledger: any number of agents run `ingestBatch` of packages/storage-postgres/src/ledger.ts, and the
store serialises its operations, a transaction for the facts of a batch and a statement for the incident of a refused
one. Over every history no fact changes, no checkpoint moves back, no height is accepted twice, and what was ingested
once is there for good.
-/
import IcttSentinel.Storage.Reordering

namespace IcttSentinel.Storage

open IcttSentinel.Lib

/-! ## Histories -/

/-- One operation on the ledger, by any agent. -/
inductive LedgerEvent where
  | ingested (batch : IngestBatch)
  | recorded (incident : IntegrityIncident)

/-- A statement that fails is rolled back. -/
def committed {ε α : Type} (db : Db) : Except ε (α × Db) → Db
  | .error _ => db
  | .ok (_, db') => db'

section History

variable (sha256 : String → String)

def ledgerStep (db : Db) : LedgerEvent → Db
  | .ingested batch => committed db (ingestTransaction sha256 batch db)
  | .recorded incident => committed db (recordIntegrityIncident incident db)

/-- The store after a history, from the registration of its deployments and chains on. -/
def ledgerAfter (deployments chains : List String) (history : List LedgerEvent) : Db :=
  history.foldl (ledgerStep sha256) (.registered deployments chains)

theorem ledgerAfter_append (deployments chains : List String) (past later : List LedgerEvent) :
    ledgerAfter sha256 deployments chains (past ++ later) =
      later.foldl (ledgerStep sha256) (ledgerAfter sha256 deployments chains past) :=
  List.foldl_append

end History

/-! ## What a later store still holds -/

/-- Every fact of the one is a fact of the other, and no checkpoint is lower there. -/
structure Db.Extends (db db' : Db) : Prop where
  deployments : db'.deployments = db.deployments
  chains : db'.chains = db.chains
  blocks : ∀ b ∈ db.chainBlocks.table.rows, b ∈ db'.chainBlocks.table.rows
  logs : ∀ l ∈ db.chainLogs.rows, l ∈ db'.chainLogs.rows
  observations : ∀ o ∈ db.observations.rows, o ∈ db'.observations.rows
  checkpoints : ∀ deploymentId chainKey, ∀ n ∈ checkpointHeight db deploymentId chainKey,
    ∃ m ∈ checkpointHeight db' deploymentId chainKey, n ≤ m

theorem Db.Extends.refl (db : Db) : db.Extends db :=
  ⟨rfl, rfl, fun _ => id, fun _ => id, fun _ => id, fun _ _ n hn => ⟨n, hn, le_rfl⟩⟩

theorem Db.Extends.trans {db db₁ db₂ : Db} (h : db.Extends db₁) (h' : db₁.Extends db₂) : db.Extends db₂ where
  deployments := h'.deployments.trans h.deployments
  chains := h'.chains.trans h.chains
  blocks b hb := h'.blocks b (h.blocks b hb)
  logs l hl := h'.logs l (h.logs l hl)
  observations o ho := h'.observations o (h.observations o ho)
  checkpoints deploymentId chainKey n hn := by
    obtain ⟨m, hm, hle⟩ := h.checkpoints deploymentId chainKey n hn
    obtain ⟨k, hk, hle'⟩ := h'.checkpoints deploymentId chainKey m hm
    exact ⟨k, hk, hle.trans hle'⟩

section Extends

variable {db db' db₂ : Db}

theorem has_of_rows {ρ κ : Type} [DecidableEq κ] {key : ρ → κ} {t u : Keyed key} (h : ∀ r ∈ t.rows, r ∈ u.rows) {k : κ}
    (hk : t.has k = true) : u.has k = true := by
  obtain ⟨r, hr, hrk⟩ := Keyed.has_iff.1 hk
  exact Keyed.has_iff.2 ⟨r, h r hr, hrk⟩

theorem mem_insertIfAbsent_of_mem {ρ κ : Type} [DecidableEq κ] {key : ρ → κ} {t : Keyed key} {r x : ρ} (hx : x ∈ t.rows) :
    x ∈ (t.insertIfAbsent r).rows :=
  Keyed.mem_insertIfAbsent.2 (Or.inl hx)

theorem has_insertIfAbsent_self {ρ κ : Type} [DecidableEq κ] {key : ρ → κ} {t : Keyed key} {r : ρ} :
    (t.insertIfAbsent r).has (key r) = true :=
  has_insertIfAbsent.2 (Or.inr rfl)

/-- A stored block extends the store, and is skipped from then on. -/
theorem insertBlock_kept {b : BlockFact} {n : Nat} (h : insertBlock db b = .ok (n, db')) :
    db.Extends db' ∧ ∀ db₂, db'.Extends db₂ → insertBlock db₂ b = .ok (0, db₂) := by
  obtain ⟨hformed, -, hone, rfl⟩ := insertBlock_eq_ok.1 ⟨n, h⟩
  refine ⟨⟨rfl, rfl, fun a ha => mem_insertIfAbsent_of_mem ha, fun _ => id, fun _ => id,
    fun _ _ m hm => ⟨m, hm, le_rfl⟩⟩, fun db₂ hext => ?_⟩
  have hhas : db₂.chainBlocks.table.has b.key = true := has_of_rows hext.blocks has_insertIfAbsent_self
  unfold insertBlock
  simp only [BlockFact.formed, Bool.and_eq_true] at hformed
  obtain ⟨⟨⟨⟨hnumber, htime⟩, hhash⟩, hparent⟩, hnonneg⟩ := hformed
  simp [ensure, hnumber, htime, hhash, hparent, hnonneg, hhas, bind, Except.bind, pure, Except.pure]

theorem insertLog_kept {l : LogFact} {n : Nat} (h : insertLog db l = .ok (n, db')) :
    db.Extends db' ∧ ∀ db₂, db'.Extends db₂ → insertLog db₂ l = .ok (0, db₂) := by
  obtain ⟨hformed, -, rfl⟩ := insertLog_eq_ok.1 ⟨n, h⟩
  refine ⟨⟨rfl, rfl, fun _ => id, fun a ha => mem_insertIfAbsent_of_mem ha, fun _ => id,
    fun _ _ m hm => ⟨m, hm, le_rfl⟩⟩, fun db₂ hext => ?_⟩
  have hhas : db₂.chainLogs.has l.key = true := has_of_rows hext.logs has_insertIfAbsent_self
  unfold insertLog
  simp only [LogFact.formed, Bool.and_eq_true, decide_eq_true_eq] at hformed
  obtain ⟨⟨⟨⟨⟨⟨⟨hnumber, hindex⟩, htx⟩, hhash⟩, haddress⟩, hlogIndex⟩, htxIndex⟩, htopics⟩ := hformed
  simp [ensure, hnumber, hindex, htx, hhash, haddress, hlogIndex, htxIndex, htopics, hhas, bind, Except.bind, pure,
    Except.pure]

theorem insertObservation_kept {o : ObservationFact} {n : Nat} (h : insertObservation db o = .ok (n, db')) :
    db.Extends db' ∧ ∀ db₂, db'.Extends db₂ → insertObservation db₂ o = .ok (0, db₂) := by
  unfold insertObservation at h ⊢
  simp only [bind_eq_ok, ensure_eq_ok] at h
  obtain ⟨_, hnumber, _, hgroups, _, hamount, _, hdigest, _, httl, h⟩ := h
  have hagain : ∀ db₂ : Db, db₂.observations.has o.identity = true → insertObservation db₂ o = .ok (0, db₂) := by
    intro db₂ hhas
    unfold insertObservation
    simp [ensure, hnumber, hgroups, hamount, hdigest, httl, hhas, bind, Except.bind, pure, Except.pure]
  split at h
  · rename_i hhas
    cases h
    exact ⟨.refl db, fun db₂ hext => hagain db₂ (has_of_rows hext.observations hhas)⟩
  · simp only [bind_eq_ok, ensure_eq_ok] at h
    obtain ⟨_, -, _, -, _, -, h⟩ := h
    cases h
    exact ⟨⟨rfl, rfl, fun _ => id, fun _ => id, fun a ha => mem_insertIfAbsent_of_mem ha,
      fun _ _ m hm => ⟨m, hm, le_rfl⟩⟩,
      fun db₂ hext => hagain db₂ (has_of_rows hext.observations has_insertIfAbsent_self)⟩

/-- Rows that are each kept are kept together. -/
theorem insertEach_kept {α : Type} (insert : Db → α → Except Violation (Nat × Db))
    (hinsert : ∀ db row n db', insert db row = .ok (n, db') →
      db.Extends db' ∧ ∀ db₂, db'.Extends db₂ → insert db₂ row = .ok (0, db₂))
    {rows : List α} {db : Db} {n : Nat} (h : insertEach insert db rows = .ok (n, db')) :
    db.Extends db' ∧ ∀ db₂, db'.Extends db₂ → insertEach insert db₂ rows = .ok (0, db₂) := by
  induction rows generalizing db n with
  | nil =>
    cases h
    exact ⟨.refl _, fun _ _ => rfl⟩
  | cons row rows ih =>
    obtain ⟨db₁, ⟨k, hrow⟩, m, hrows⟩ := insertEach_cons_eq_ok.1 ⟨n, h⟩
    obtain ⟨hext, hagain⟩ := hinsert _ _ _ _ hrow
    obtain ⟨hext', hagain'⟩ := ih hrows
    refine ⟨hext.trans hext', fun db₂ hlater => ?_⟩
    simp [insertEach, hagain db₂ (hext'.trans hlater), hagain' db₂ hlater, bind, Except.bind, pure, Except.pure]

/-- A checkpoint moves its own lane, and not back; one that is not ahead stays. -/
theorem advanceCheckpoint_kept {c : Checkpoint} {advanced : Bool} (h : advanceCheckpoint db c = .ok (advanced, db')) :
    db.Extends db' ∧ ∀ db₂, db'.Extends db₂ → advanceCheckpoint db₂ c = .ok (false, db₂) := by
  obtain ⟨⟨hfits, hnonneg, hdeployment, hchain⟩, ⟨replayCheckpoints, rfl⟩, hheight⟩ := advanceCheckpoint_ok h
  -- the checkpoints of the other lanes stay
  have hother : ∀ deploymentId chainKey, (deploymentId, chainKey) ≠ c.lane →
      checkpointHeight { db with replayCheckpoints } deploymentId chainKey = checkpointHeight db deploymentId chainKey := by
    intro deploymentId chainKey hlane
    unfold advanceCheckpoint at h
    simp only [bind_eq_ok, ensure_eq_ok] at h
    obtain ⟨_, -, _, -, _, -, _, -, _, -, h⟩ := h
    have hupsert : checkpointHeight { db with replayCheckpoints := db.replayCheckpoints.upsert c } deploymentId chainKey =
        checkpointHeight db deploymentId chainKey := by
      unfold checkpointHeight storedCheckpoint
      rw [Keyed.lookup_upsert, if_neg hlane]
    split at h
    · split at h
      · obtain ⟨-, hdb⟩ := Prod.mk.inj (Except.ok.inj h)
        rw [← hdb, hupsert]
      · obtain ⟨-, hdb⟩ := Prod.mk.inj (Except.ok.inj h)
        rw [← hdb]
    · obtain ⟨-, hdb⟩ := Prod.mk.inj (Except.ok.inj h)
      rw [← hdb, hupsert]
  have hnotBelow : ∀ n ∈ checkpointHeight { db with replayCheckpoints } c.deploymentId c.chainKey,
      c.lastBlockNumber ≤ n := by
    intro n hn
    rw [hheight, Option.mem_some_iff] at hn
    rw [← hn]
    cases checkpointHeight db c.deploymentId c.chainKey with
    | none => exact le_rfl
    | some m => exact le_max_right _ _
  refine ⟨⟨rfl, rfl, fun _ => id, fun _ => id, fun _ => id, fun deploymentId chainKey n hn => ?_⟩, fun db₂ hext => ?_⟩
  · by_cases hlane : (deploymentId, chainKey) = c.lane
    · obtain ⟨rfl, rfl⟩ := Prod.mk.inj hlane
      rw [Option.mem_def] at hn
      exact ⟨_, hheight, by rw [hn]; exact le_max_left _ _⟩
    · exact ⟨n, by rw [hother _ _ hlane]; exact hn, le_rfl⟩
  · -- the stored checkpoint of the lane is at least as high, so the upsert changes nothing
    obtain ⟨n, hn, hle⟩ := hext.checkpoints c.deploymentId c.chainKey _ hheight
    have hlower := (hnotBelow _ hheight).trans hle
    obtain ⟨stored, hstored, rfl⟩ := Option.map_eq_some_iff.1 hn
    have hhash : matchesHex "0x" 64 c.lastBlockHash = true := by
      unfold advanceCheckpoint at h
      simp only [bind_eq_ok, ensure_eq_ok] at h
      obtain ⟨_, -, _, hhash, -⟩ := h
      exact hhash
    have hdeployment' : db₂.deployments.contains c.deploymentId = true := by
      rw [hext.deployments]
      exact List.contains_iff_mem.2 hdeployment
    have hchain' : db₂.chains.contains c.chainKey = true := by
      rw [hext.chains]
      exact List.contains_iff_mem.2 hchain
    unfold advanceCheckpoint
    simp only [ensure, hfits, hhash, hnonneg, decide_true, hdeployment', hchain', hstored, bind, Except.bind, pure,
      Except.pure, if_true]
    rw [if_neg (not_lt.2 hlower)]

theorem advanceIfGiven_kept {c : Option Checkpoint} {advanced : Bool} (h : advanceIfGiven db c = .ok (advanced, db')) :
    db.Extends db' ∧ ∀ db₂, db'.Extends db₂ → advanceIfGiven db₂ c = .ok (false, db₂) := by
  cases c with
  | none =>
    cases h
    exact ⟨.refl db, fun _ _ => rfl⟩
  | some c => exact advanceCheckpoint_kept h

/-- What a committed batch stored is there for good, and the batch changes nothing a second time. -/
theorem ingestTransaction_kept {sha256 : String → String} {batch : IngestBatch} {outcome : IngestOutcome}
    (h : ingestTransaction sha256 batch db = .ok (outcome, db')) :
    db.Extends db' ∧ ∀ db₂, db'.Extends db₂ → ∃ again, ingestTransaction sha256 batch db₂ = .ok (again, db₂) := by
  unfold ingestTransaction at h
  simp only [bind_eq_ok, Prod.exists] at h
  obtain ⟨_, db₁, hblocks, _, db₂, hlogs, _, db₃, hobservations, advanced, db₄, hcheckpoint, h⟩ := h
  cases h
  obtain ⟨hext₁, hagain₁⟩ := insertEach_kept insertBlock (fun _ _ _ _ => insertBlock_kept) hblocks
  obtain ⟨hext₂, hagain₂⟩ := insertEach_kept insertLog (fun _ _ _ _ => insertLog_kept) hlogs
  obtain ⟨hext₃, hagain₃⟩ := insertEach_kept insertObservation (fun _ _ _ _ => insertObservation_kept) hobservations
  obtain ⟨hext₄, hagain₄⟩ := advanceIfGiven_kept hcheckpoint
  refine ⟨((hext₁.trans hext₂).trans hext₃).trans hext₄, fun later hlater => ?_⟩
  have hlater₃ := hext₄.trans hlater
  have hlater₂ := hext₃.trans hlater₃
  let again : IngestOutcome :=
    { blocksInserted := 0
      logsInserted := 0
      observationsInserted := 0
      checkpointAdvanced := false
      rangeDigest := canonicalLogDigest sha256 batch.logs }
  refine ⟨again, ?_⟩
  unfold ingestTransaction insertBlocks insertLogs insertObservations
  simp only [hagain₁ later (hext₂.trans hlater₂), hagain₂ later hlater₂, hagain₃ later hlater₃, hagain₄ later hlater,
    bind, Except.bind, pure, Except.pure]
  rfl

/-- One operation leaves what is stored. -/
theorem ledgerStep_extends (sha256 : String → String) (db : Db) (e : LedgerEvent) : db.Extends (ledgerStep sha256 db e) := by
  cases e with
  | ingested batch =>
    simp only [ledgerStep]
    cases h : ingestTransaction sha256 batch db with
    | error violation => exact .refl db
    | ok r => exact (ingestTransaction_kept h).1
  | recorded incident =>
    simp only [ledgerStep]
    cases h : recordIntegrityIncident incident db with
    | error violation => exact .refl db
    | ok r =>
      simp only [recordIntegrityIncident, bind_eq_ok] at h
      obtain ⟨_, -, _, -, h⟩ := h
      cases h
      exact ⟨rfl, rfl, fun _ => id, fun _ => id, fun _ => id, fun _ _ n hn => ⟨n, hn, le_rfl⟩⟩

theorem foldl_extends (sha256 : String → String) (db : Db) (history : List LedgerEvent) :
    db.Extends (history.foldl (ledgerStep sha256) db) := by
  induction history generalizing db with
  | nil => exact .refl db
  | cons e history ih => exact (ledgerStep_extends sha256 db e).trans (ih _)

end Extends

/-! ## The ledger over every history -/

section Run

variable (sha256 : String → String) (deployments chains : List String)

/-- The batch was ingested in the history. -/
def Ingested (history : List LedgerEvent) (batch : IngestBatch) : Prop :=
  ∃ past later, history = past ++ .ingested batch :: later ∧
    ∃ outcome db, ingestTransaction sha256 batch (ledgerAfter sha256 deployments chains past) = .ok (outcome, db)

/-- A batch that was ingested is ingested again at any time, and leaves the store as it is. -/
theorem ingestBatch_again {history : List LedgerEvent} {batch : IngestBatch}
    (h : Ingested sha256 deployments chains history batch) :
    (ingestBatch sha256 batch (ledgerAfter sha256 deployments chains history)).state =
      ledgerAfter sha256 deployments chains history := by
  obtain ⟨past, later, rfl, outcome, db, hingest⟩ := h
  obtain ⟨-, hagain⟩ := ingestTransaction_kept hingest
  have hafter : ledgerAfter sha256 deployments chains (past ++ .ingested batch :: later) =
      later.foldl (ledgerStep sha256) db := by
    rw [ledgerAfter_append, List.foldl_cons]
    simp only [ledgerStep, hingest, committed]
  rw [hafter]
  obtain ⟨again, hok⟩ := hagain _ (foldl_extends sha256 db later)
  have hmeets : (ingestBatch sha256 batch (later.foldl (ledgerStep sha256) db)).Meets (fun _ => True)
      (fun _ db' => db' = later.foldl (ledgerStep sha256) db) fun _ _ => False := by
    refine meets_ingestBatch (fun outcome db' hcommitted => ⟨trivial, ?_⟩) (fun _ _ _ => trivial) fun _ _ hviolated => ?_
    · rw [hok] at hcommitted
      cases hcommitted
      rfl
    · obtain ⟨violation, hviolated⟩ := hviolated
      rw [hok] at hviolated
      cases hviolated
  obtain ⟨_, -, hstate⟩ := hmeets.answers
  exact hstate

/-- Over every history of the ledger no checkpoint moves back, one block hash at most is accepted at a height, every
fact stays as it was stored, and a batch that was ingested changes nothing when it is ingested again. -/
theorem ledger_invariants (past later : List LedgerEvent) :
    let db := ledgerAfter sha256 deployments chains past
    let db' := ledgerAfter sha256 deployments chains (past ++ later)
    (∀ deploymentId chainKey, ∀ n ∈ checkpointHeight db deploymentId chainKey,
      ∃ m ∈ checkpointHeight db' deploymentId chainKey, n ≤ m) ∧
    (∀ a ∈ db'.chainBlocks.table.rows, ∀ b ∈ db'.chainBlocks.table.rows, a.observedClass = .accepted →
      b.observedClass = .accepted → a.chainKey = b.chainKey → a.blockNumber = b.blockNumber → a.blockHash = b.blockHash) ∧
    ((∀ b ∈ db.chainBlocks.table.rows, b ∈ db'.chainBlocks.table.rows) ∧
      (∀ l ∈ db.chainLogs.rows, l ∈ db'.chainLogs.rows) ∧
      ∀ o ∈ db.observations.rows, o ∈ db'.observations.rows) ∧
    ∀ batch, Ingested sha256 deployments chains (past ++ later) batch → (ingestBatch sha256 batch db').state = db' := by
  intro db db'
  have hext : db.Extends db' := by
    show db.Extends (ledgerAfter sha256 deployments chains (past ++ later))
    rw [ledgerAfter_append]
    exact foldl_extends sha256 db later
  refine ⟨hext.checkpoints, fun a ha b hb haccepted hbaccepted hchain hnumber => ?_,
    ⟨hext.blocks, hext.logs, hext.observations⟩, fun batch hbatch => ingestBatch_again sha256 deployments chains hbatch⟩
  have hcompetes : a.competes b = true := by
    simp [BlockFact.competes, haccepted, hbaccepted, hchain, hnumber]
  rw [db'.chainBlocks.oneAcceptedPerHeight a ha b hb hcompetes]

end Run

/-- A hash of one hexadecimal digit. -/
def sampleHash (digit : Char) : String := "0x" ++ String.ofList (List.replicate 64 digit)

/-- A block at a height of the chain `c`. -/
def sampleBlock (observedClass : ObservedClass) (blockNumber : Int) (digit : Char) : BlockFact where
  chainKey := "c"
  blockHash := sampleHash digit
  blockNumber
  parentHash := sampleHash '0'
  blockTimestamp := blockNumber
  observedClass
  observedAt := 0

/-- A batch of blocks of the deployment `d`, with a checkpoint at a height. -/
def sampleBatch (blocks : List BlockFact) (height : Int) : IngestBatch where
  deploymentId := "d"
  chainKey := "c"
  blocks
  logs := []
  observations := []
  checkpoint := some { deploymentId := "d", chainKey := "c", lastBlockNumber := height, lastBlockHash := sampleHash '0' }

theorem exists_ok {ε α β : Type} {x : Except ε (α × β)} (h : x.isOk = true) : ∃ a b, x = .ok (a, b) := by
  cases x with
  | error e => cases h
  | ok r => exact ⟨r.1, r.2, rfl⟩

/-- A batch that another agent has overtaken is ingested a second time. -/
theorem ledger_invariants_sample :
    let history : List LedgerEvent :=
      [.ingested (sampleBatch [sampleBlock .accepted 10 'a'] 10), .ingested (sampleBatch [sampleBlock .accepted 11 'b'] 11)]
    (ingestBatch id (sampleBatch [sampleBlock .accepted 10 'a'] 10) (ledgerAfter id ["d"] ["c"] history)).state =
      ledgerAfter id ["d"] ["c"] history := by
  intro history
  refine (ledger_invariants id ["d"] ["c"] history []).2.2.2 _ ⟨[], _, rfl, exists_ok ?_⟩
  decide +kernel

end IcttSentinel.Storage
