/-
The raw fact ledger, packages/storage-postgres/src/ledger.ts: appending blocks, logs and
observations, and the checkpoint that covers them, in one transaction. A row that is already there
is kept; a second accepted block at a height is an integrity conflict, which rolls the transaction
back and is recorded on its own. SHA-256 is a parameter.
-/
import IcttSentinel.Lib.Awaits
import IcttSentinel.Lib.Sorting
import IcttSentinel.Storage.Schema

namespace IcttSentinel.Storage

open IcttSentinel.Lib

structure IngestBatch where
  deploymentId : String
  chainKey : String
  blocks : List BlockFact
  logs : List LogFact
  observations : List ObservationFact
  checkpoint : Option Checkpoint
  deriving DecidableEq, Repr

structure IngestOutcome where
  blocksInserted : Nat
  logsInserted : Nat
  observationsInserted : Nat
  checkpointAdvanced : Bool
  rangeDigest : String
  deriving DecidableEq, Repr

def acceptedHeightIndex : String := "chain_blocks_one_accepted_per_height"

/-! ## Digests -/

section Digest

variable (sha256 : String → String)

/-- The line of one log in the digest. -/
def LogFact.line (l : LogFact) : String :=
  "|".intercalate
    [l.chainKey, l.blockHash, l.txHash, toString l.logIndex, toString l.blockNumber, toString l.txIndex, l.address,
      ",".intercalate l.topics, l.data] ++ "\n"

/-- The order logs are digested in: by block number, transaction index and log index. -/
def LogFact.position (l : LogFact) : Int ×ₗ Int ×ₗ Int := toLex (l.blockNumber, toLex (l.txIndex, l.logIndex))

def canonicalLogDigest (logs : List LogFact) : String :=
  sha256 (String.join ((sortOn LogFact.position logs).map LogFact.line))

end Digest

/-! ## Appending facts -/

/-- Store a block as the accepted one of its height, unless another is. -/
def ChainBlocks.insert (t : ChainBlocks) (b : BlockFact) : Except Violation ChainBlocks :=
  if h : ∃ a ∈ t.table.rows, a.competes b = true then .error (.uniqueViolation acceptedHeightIndex)
  else .ok
    { table := t.table.insertIfAbsent b
      oneAcceptedPerHeight := by
        have hcomm : ∀ a : BlockFact, b.competes a = true → a.competes b = true := by
          intro a ha
          simp only [BlockFact.competes, Bool.and_eq_true, decide_eq_true_eq] at ha ⊢
          exact ⟨⟨⟨ha.1.1.2, ha.1.1.1⟩, ha.1.2.symm⟩, ha.2.symm⟩
        intro a ha c hc hac
        rcases Keyed.mem_insertIfAbsent.1 ha with hat | ⟨hab, -⟩ <;>
          rcases Keyed.mem_insertIfAbsent.1 hc with hct | ⟨hcb, -⟩
        · exact t.oneAcceptedPerHeight a hat c hct hac
        · exact absurd ⟨a, hat, hcb ▸ hac⟩ h
        · exact absurd ⟨c, hct, hcomm c (hab ▸ hac)⟩ h
        · rw [hab, hcb] }

/-- `on conflict (chain_key, block_hash) do nothing`; the answer counts the rows stored. -/
def insertBlock (db : Db) (b : BlockFact) : Except Violation (Nat × Db) := do
  ensure (fitsBigint b.blockNumber && fitsBigint b.blockTimestamp) .numericValueOutOfRange
  ensure (matchesHex "0x" 64 b.blockHash) (.checkViolation "chain_blocks_hash_ck")
  ensure (matchesHex "0x" 64 b.parentHash) (.checkViolation "chain_blocks_parent_ck")
  ensure (decide (0 ≤ b.blockNumber)) (.checkViolation "chain_blocks_number_ck")
  if db.chainBlocks.table.has b.key then return (0, db)
  let chainBlocks ← db.chainBlocks.insert b
  ensure (db.chains.contains b.chainKey) (.foreignKeyViolation "chain_blocks_chain_key_fkey")
  return (1, { db with chainBlocks })

/-- `on conflict (chain_key, block_hash, tx_hash, log_index) do nothing`. -/
def insertLog (db : Db) (l : LogFact) : Except Violation (Nat × Db) := do
  ensure (fitsBigint l.blockNumber && fitsInteger l.logIndex && fitsInteger l.txIndex) .numericValueOutOfRange
  ensure (matchesHex "0x" 64 l.txHash) (.checkViolation "chain_logs_tx_hash_ck")
  ensure (matchesHex "0x" 40 l.address) (.checkViolation "chain_logs_address_ck")
  ensure (decide (0 ≤ l.logIndex)) (.checkViolation "chain_logs_log_index_ck")
  ensure (decide (0 ≤ l.txIndex)) (.checkViolation "chain_logs_tx_index_ck")
  ensure (decide (l.topics.length ≤ 4)) (.checkViolation "chain_logs_topics_ck")
  if db.chainLogs.has l.key then return (0, db)
  ensure (db.chainBlocks.table.has (l.chainKey, l.blockHash))
    (.foreignKeyViolation "chain_logs_chain_key_block_hash_fkey")
  return (1, { db with chainLogs := db.chainLogs.insertIfAbsent l })

/-- `on conflict (deployment_id, chain_key, block_hash, subject) do nothing`. -/
def insertObservation (db : Db) (o : ObservationFact) : Except Violation (Nat × Db) := do
  ensure (fitsBigint o.blockNumber) .numericValueOutOfRange
  ensure (decide (1 ≤ o.providerGroups.length)) (.checkViolation "observations_groups_ck")
  ensure (o.amount.all fun a => decide (0 ≤ a)) (.checkViolation "observations_amount_ck")
  ensure (matchesHex "" 64 o.payloadDigest) (.checkViolation "observations_digest_ck")
  ensure (decide (o.observedAt < o.expiresAt)) (.checkViolation "observations_ttl_ck")
  if db.observations.has o.identity then return (0, db)
  ensure (db.observations.rows.all fun x => decide (x.observationId ≠ o.observationId))
    (.uniqueViolation "observations_pkey")
  ensure (db.deployments.contains o.deploymentId) (.foreignKeyViolation "observations_deployment_id_fkey")
  ensure (db.chainBlocks.table.has (o.chainKey, o.blockHash))
    (.foreignKeyViolation "observations_chain_key_block_hash_fkey")
  return (1, { db with observations := db.observations.insertIfAbsent o })

/-- Insert row after row, counting the rows stored. -/
def insertEach {α : Type} (insert : Db → α → Except Violation (Nat × Db)) : Db → List α → Except Violation (Nat × Db)
  | db, [] => return (0, db)
  | db, row :: rows => do
    let (stored, db) ← insert db row
    let (more, db) ← insertEach insert db rows
    return (stored + more, db)

def insertBlocks : Db → List BlockFact → Except Violation (Nat × Db) := insertEach insertBlock
def insertLogs : Db → List LogFact → Except Violation (Nat × Db) := insertEach insertLog
def insertObservations : Db → List ObservationFact → Except Violation (Nat × Db) := insertEach insertObservation

/-! ## The checkpoint -/

/-- The stored checkpoint of a lane. -/
def storedCheckpoint (db : Db) (deploymentId chainKey : String) : Option Checkpoint :=
  db.replayCheckpoints.lookup (deploymentId, chainKey)

/-- The upsert of `ingestBatch`: a checkpoint replaces a lower one only. A stored lane was registered when it
was inserted and stays so, hence the references are checked on both paths. -/
def advanceCheckpoint (db : Db) (c : Checkpoint) : Except Violation (Bool × Db) := do
  ensure (fitsBigint c.lastBlockNumber) .numericValueOutOfRange
  ensure (matchesHex "0x" 64 c.lastBlockHash) (.checkViolation "replay_checkpoints_hash_ck")
  ensure (decide (0 ≤ c.lastBlockNumber)) (.checkViolation "replay_checkpoints_number_ck")
  ensure (db.deployments.contains c.deploymentId) (.foreignKeyViolation "replay_checkpoints_deployment_id_fkey")
  ensure (db.chains.contains c.chainKey) (.foreignKeyViolation "replay_checkpoints_chain_key_fkey")
  match storedCheckpoint db c.deploymentId c.chainKey with
  | some stored =>
    if stored.lastBlockNumber < c.lastBlockNumber then
      return (true, { db with replayCheckpoints := db.replayCheckpoints.upsert c })
    else return (false, db)
  | none => return (true, { db with replayCheckpoints := db.replayCheckpoints.upsert c })

/-- A batch without a checkpoint leaves the stored one. -/
def advanceIfGiven (db : Db) : Option Checkpoint → Except Violation (Bool × Db)
  | some c => advanceCheckpoint db c
  | none => .ok (false, db)

def readCheckpoint (deploymentId chainKey : String) :
    Awaits StoreCall Db StorageFailure (Option Checkpoint) :=
  .read .readCheckpoint fun db => storedCheckpoint db deploymentId chainKey

/-! ## A batch -/

section Ingest

variable (sha256 : String → String)

/-- What `db.sql.begin` wraps: all of the batch, or none of it. -/
def ingestTransaction (batch : IngestBatch) (db : Db) : Except Violation (IngestOutcome × Db) := do
  let (blocksInserted, db) ← insertBlocks db batch.blocks
  let (logsInserted, db) ← insertLogs db batch.logs
  let (observationsInserted, db) ← insertObservations db batch.observations
  let (checkpointAdvanced, db) ← advanceIfGiven db batch.checkpoint
  return ({ blocksInserted, logsInserted, observationsInserted, checkpointAdvanced,
            rangeDigest := canonicalLogDigest sha256 batch.logs }, db)

/-- `on conflict (incident_id) do nothing`. -/
def recordIntegrityIncident (incident : IntegrityIncident) (db : Db) : Except Violation (Unit × Db) := do
  ensure (incident.blockNumber.all fitsBigint) .numericValueOutOfRange
  ensure (db.chains.contains incident.chainKey) (.foreignKeyViolation "integrity_incidents_chain_key_fkey")
  return ((), { db with integrityIncidents := db.integrityIncidents.insertIfAbsent incident })

/-- The accepted block stored at a height. -/
def acceptedHashAt (db : Db) (chainKey : String) (blockNumber : Int) : Option String :=
  (db.chainBlocks.table.rows.find? fun b =>
    decide (b.chainKey = chainKey) && decide (b.blockNumber = blockNumber) &&
      decide (b.observedClass = .accepted)).map (·.blockHash)

def readAcceptedHash (chainKey : String) : Option Int → Awaits StoreCall Db StorageFailure (Option String)
  | none => pure none
  | some n => .read .readAcceptedHash fun db => acceptedHashAt db chainKey n

/-- `String(value)` of a value that may be null. -/
def textOrNull : Option String → String
  | none => "null"
  | some s => s

/-- What follows a violated accepted height: the incident, then the conflict is thrown. -/
def raiseConflict (batch : IngestBatch) : Awaits StoreCall Db StorageFailure IngestOutcome := do
  let offending := batch.blocks.find? fun b => decide (b.observedClass = .accepted)
  let chainKey := (offending.map (·.chainKey)).getD batch.chainKey
  let blockNumber := offending.map (·.blockNumber)
  let stored ← readAcceptedHash chainKey blockNumber
  let observedHash := offending.map (·.blockHash)
  let incident :=
    { incidentId := sha256 (chainKey ++ "|" ++ textOrNull (blockNumber.map toString) ++ "|" ++ textOrNull stored ++
        "|" ++ textOrNull observedHash)
      kind := "ACCEPTED_HASH_CONFLICT"
      chainKey
      blockNumber
      expectedHash := stored
      observedHash
      detail := .obj
        [("lane", .str (batch.deploymentId ++ ":" ++ batch.chainKey)),
         ("note", .str "accepted block hash changed; evidence preserved, no rollback, verdict is UNKNOWN")] }
  .await .recordIntegrityIncident fun db => (recordIntegrityIncident incident db).mapError .violation
  .throw (.acceptedHashConflict chainKey (blockNumber.getD 0) (stored.getD "unknown") (observedHash.getD "unknown"))

def ingestBatch (batch : IngestBatch) : Awaits StoreCall Db StorageFailure IngestOutcome := do
  let result ← .attempt (.await .ingestTransaction fun db => ingestTransaction sha256 batch db)
  match result with
  | .ok outcome => return outcome
  | .error violation =>
    if violation = .uniqueViolation acceptedHeightIndex then raiseConflict sha256 batch
    else .throw (.violation violation)

end Ingest

/-! ## What a batch changes -/

theorem insertBlock_ok {db db' : Db} {b : BlockFact} {n : Nat} (h : insertBlock db b = .ok (n, db')) :
    ∃ chainBlocks, db' = { db with chainBlocks } := by
  unfold insertBlock at h
  simp only [bind_eq_ok, ensure_eq_ok] at h
  obtain ⟨_, -, _, -, _, -, _, -, h⟩ := h
  split at h
  · cases h
    exact ⟨db.chainBlocks, rfl⟩
  · simp only [bind_eq_ok, ensure_eq_ok] at h
    obtain ⟨chainBlocks, -, _, -, h⟩ := h
    cases h
    exact ⟨chainBlocks, rfl⟩

theorem insertLog_ok {db db' : Db} {l : LogFact} {n : Nat} (h : insertLog db l = .ok (n, db')) :
    ∃ chainLogs, db' = { db with chainLogs } := by
  unfold insertLog at h
  simp only [bind_eq_ok, ensure_eq_ok] at h
  obtain ⟨_, -, _, -, _, -, _, -, _, -, _, -, h⟩ := h
  split at h
  · cases h
    exact ⟨db.chainLogs, rfl⟩
  · simp only [bind_eq_ok, ensure_eq_ok] at h
    obtain ⟨_, -, h⟩ := h
    cases h
    exact ⟨_, rfl⟩

theorem insertObservation_ok {db db' : Db} {o : ObservationFact} {n : Nat}
    (h : insertObservation db o = .ok (n, db')) : ∃ observations, db' = { db with observations } := by
  unfold insertObservation at h
  simp only [bind_eq_ok, ensure_eq_ok] at h
  obtain ⟨_, -, _, -, _, -, _, -, _, -, h⟩ := h
  split at h
  · cases h
    exact ⟨db.observations, rfl⟩
  · simp only [bind_eq_ok, ensure_eq_ok] at h
    obtain ⟨_, -, _, -, _, -, h⟩ := h
    cases h
    exact ⟨_, rfl⟩

/-- A relation that every single insert respects and that composes is respected by all of them. -/
theorem insertEach_rel {α : Type} {insert : Db → α → Except Violation (Nat × Db)} {R : Db → Db → Prop}
    (hrefl : ∀ db, R db db) (htrans : ∀ a b c, R a b → R b c → R a c)
    (hinsert : ∀ db row n db', insert db row = .ok (n, db') → R db db') :
    ∀ (rows : List α) (db : Db) (n : Nat) (db' : Db), insertEach insert db rows = .ok (n, db') → R db db' := by
  intro rows
  induction rows with
  | nil =>
    intro db n db' h
    cases h
    exact hrefl db
  | cons row rows ih =>
    intro db n db' h
    simp only [insertEach, bind_eq_ok, Prod.exists] at h
    obtain ⟨m, db₁, hrow, k, db₂, hrows, h⟩ := h
    cases h
    exact htrans _ _ _ (hinsert _ _ _ _ hrow) (ih _ _ _ hrows)

/-- Where every row can be inserted, all of them are: the invariant is kept, and what an insert does stays done. -/
theorem insertEach_succeeds {α : Type} (insert : Db → α → Except Violation (Nat × Db)) (I : Db → Prop)
    (Done : α → Db → Prop) {rows : List α}
    (hinsert : ∀ row ∈ rows, ∀ db, I db → ∃ n db', insert db row = .ok (n, db') ∧ I db' ∧ Done row db' ∧
      ∀ r, Done r db → Done r db') {db : Db} (h : I db) :
    ∃ n db', insertEach insert db rows = .ok (n, db') ∧ I db' ∧ (∀ row ∈ rows, Done row db') ∧
      ∀ r, Done r db → Done r db' := by
  induction rows generalizing db with
  | nil => exact ⟨0, db, rfl, h, by simp, fun _ hr => hr⟩
  | cons row rows ih =>
    obtain ⟨n, db₁, hrow, h₁, hdone, hkept⟩ := hinsert row (by simp) db h
    obtain ⟨m, db₂, hrows, h₂, hall, hkept₂⟩ := ih (fun r hr => hinsert r (by simp [hr])) h₁
    refine ⟨n + m, db₂, ?_, h₂, ?_, fun r hr => hkept₂ r (hkept r hr)⟩
    · simp [insertEach, hrow, hrows, bind, Except.bind, pure, Except.pure]
    · intro r hr
      rcases List.mem_cons.1 hr with rfl | hr
      · exact hkept₂ r hdone
      · exact hall r hr

theorem insertBlocks_ok {db db' : Db} {blocks : List BlockFact} {n : Nat}
    (h : insertBlocks db blocks = .ok (n, db')) : ∃ chainBlocks, db' = { db with chainBlocks } := by
  let R : Db → Db → Prop := fun a b => ∃ chainBlocks, b = { a with chainBlocks }
  have htrans : ∀ a b c, R a b → R b c → R a c := by
    rintro _ _ _ ⟨_, rfl⟩ ⟨chainBlocks, rfl⟩
    exact ⟨chainBlocks, rfl⟩
  exact insertEach_rel (fun a => ⟨a.chainBlocks, rfl⟩) htrans (fun _ _ _ _ => insertBlock_ok) _ _ _ _ h

theorem insertLogs_ok {db db' : Db} {logs : List LogFact} {n : Nat}
    (h : insertLogs db logs = .ok (n, db')) : ∃ chainLogs, db' = { db with chainLogs } := by
  let R : Db → Db → Prop := fun a b => ∃ chainLogs, b = { a with chainLogs }
  have htrans : ∀ a b c, R a b → R b c → R a c := by
    rintro _ _ _ ⟨_, rfl⟩ ⟨chainLogs, rfl⟩
    exact ⟨chainLogs, rfl⟩
  exact insertEach_rel (fun a => ⟨a.chainLogs, rfl⟩) htrans (fun _ _ _ _ => insertLog_ok) _ _ _ _ h

theorem insertObservations_ok {db db' : Db} {observations : List ObservationFact} {n : Nat}
    (h : insertObservations db observations = .ok (n, db')) : ∃ observations, db' = { db with observations } := by
  let R : Db → Db → Prop := fun a b => ∃ observations, b = { a with observations }
  have htrans : ∀ a b c, R a b → R b c → R a c := by
    rintro _ _ _ ⟨_, rfl⟩ ⟨observations, rfl⟩
    exact ⟨observations, rfl⟩
  exact insertEach_rel (fun a => ⟨a.observations, rfl⟩) htrans (fun _ _ _ _ => insertObservation_ok) _ _ _ _ h

/-- The height of a lane's checkpoint. -/
def checkpointHeight (db : Db) (deploymentId chainKey : String) : Option Int :=
  (storedCheckpoint db deploymentId chainKey).map (·.lastBlockNumber)

/-- An advanced checkpoint is a storable height of a registered lane, and never below the old one. -/
theorem advanceCheckpoint_ok {db db' : Db} {c : Checkpoint} {advanced : Bool}
    (h : advanceCheckpoint db c = .ok (advanced, db')) :
    (fitsBigint c.lastBlockNumber = true ∧ 0 ≤ c.lastBlockNumber ∧ c.deploymentId ∈ db.deployments ∧
      c.chainKey ∈ db.chains) ∧
    (∃ replayCheckpoints, db' = { db with replayCheckpoints }) ∧
    checkpointHeight db' c.deploymentId c.chainKey =
      some (((checkpointHeight db c.deploymentId c.chainKey).map (max · c.lastBlockNumber)).getD c.lastBlockNumber) := by
  unfold advanceCheckpoint at h
  simp only [bind_eq_ok, ensure_eq_ok, List.contains_iff_mem, decide_eq_true_eq] at h
  obtain ⟨_, hfits, _, -, _, hnonneg, _, hdeployment, _, hchain, h⟩ := h
  refine ⟨⟨hfits, hnonneg, hdeployment, hchain⟩, ?_⟩
  have hupsert : checkpointHeight { db with replayCheckpoints := db.replayCheckpoints.upsert c } c.deploymentId
      c.chainKey = some c.lastBlockNumber := by
    simp [checkpointHeight, storedCheckpoint, Keyed.lookup_upsert, Checkpoint.lane]
  cases hstored : storedCheckpoint db c.deploymentId c.chainKey with
  | none =>
    rw [hstored] at h
    cases h
    exact ⟨⟨_, rfl⟩, by rw [hupsert, checkpointHeight, hstored]; rfl⟩
  | some stored =>
    rw [hstored] at h
    dsimp only at h
    split at h
    · rename_i hlt
      cases h
      refine ⟨⟨_, rfl⟩, ?_⟩
      rw [hupsert, checkpointHeight, hstored]
      simp only [Option.map_some, Option.getD_some, Option.some_inj]
      omega
    · rename_i hle
      cases h
      refine ⟨⟨_, rfl⟩, ?_⟩
      rw [checkpointHeight, hstored]
      simp only [Option.map_some, Option.getD_some, Option.some_inj]
      omega

section Ingest

variable {sha256 : String → String} {batch : IngestBatch}

/-- A committed batch only adds facts and moves its checkpoint. -/
theorem ingestTransaction_ok {db db' : Db} {outcome : IngestOutcome}
    (h : ingestTransaction sha256 batch db = .ok (outcome, db')) :
    ∃ chainBlocks chainLogs observations,
      advanceIfGiven { db with chainBlocks, chainLogs, observations } batch.checkpoint =
        .ok (outcome.checkpointAdvanced, db') := by
  unfold ingestTransaction at h
  simp only [bind_eq_ok, Prod.exists] at h
  obtain ⟨_, db₁, hblocks, _, db₂, hlogs, _, db₃, hobservations, advanced, db₄, hcheckpoint, h⟩ := h
  cases h
  obtain ⟨chainBlocks, rfl⟩ := insertBlocks_ok hblocks
  obtain ⟨chainLogs, rfl⟩ := insertLogs_ok hlogs
  obtain ⟨observations, rfl⟩ := insertObservations_ok hobservations
  exact ⟨chainBlocks, chainLogs, observations, hcheckpoint⟩

theorem recordIntegrityIncident_ok {db db' : Db} {incident : IntegrityIncident} {u : Unit}
    (h : (recordIntegrityIncident incident db).mapError StorageFailure.violation = .ok (u, db')) :
    ∃ integrityIncidents, db' = { db with integrityIncidents } := by
  cases hr : recordIntegrityIncident incident db with
  | error e =>
    rw [hr] at h
    cases h
  | ok r =>
    rw [hr] at h
    cases h
    simp only [recordIntegrityIncident, bind_eq_ok] at hr
    obtain ⟨_, -, _, -, hr⟩ := hr
    cases hr
    exact ⟨_, rfl⟩

/-- What holds of a committed batch, and of every way to refuse one, holds of `ingestBatch`: a refused
batch leaves an integrity incident at most. -/
theorem meets_ingestBatch {db : Db} {C : Awaited StoreCall Db → Prop} {Q : IngestOutcome → Db → Prop}
    {E : StorageFailure → Db → Prop}
    (hcommitted : ∀ outcome db', ingestTransaction sha256 batch db = .ok (outcome, db') →
      C { op := .ingestTransaction, ok := true, after := db' } ∧ Q outcome db')
    (hrefused : ∀ x : Awaited StoreCall Db, (x.op = .ingestTransaction → x.ok = false) →
      (∃ integrityIncidents, x.after = { db with integrityIncidents }) → C x)
    (hfailed : ∀ e integrityIncidents, (∃ violation, ingestTransaction sha256 batch db = .error violation) →
      E e { db with integrityIncidents }) :
    (ingestBatch sha256 batch db).Meets C Q E := by
  have hread : ∀ chainKey blockNumber,
      (readAcceptedHash chainKey blockNumber db).Meets C (fun _ s => s = db) E := by
    intro chainKey blockNumber
    cases blockNumber with
    | none => exact Awaits.meets_pure rfl
    | some n => exact Awaits.meets_read (hrefused _ (by simp) ⟨db.integrityIncidents, rfl⟩) rfl
  have hrecord : ∀ incident, (∃ violation, ingestTransaction sha256 batch db = .error violation) →
      (Awaits.await StoreCall.recordIntegrityIncident (fun db =>
        (recordIntegrityIncident incident db).mapError .violation) db).Meets C
          (fun _ s => ∃ integrityIncidents, s = { db with integrityIncidents }) E := by
    intro incident hviolated
    refine Awaits.meets_await (fun u s hs => ?_) fun e he => ?_
    · obtain ⟨integrityIncidents, rfl⟩ := recordIntegrityIncident_ok hs
      exact ⟨hrefused _ (by simp) ⟨_, rfl⟩, _, rfl⟩
    · exact ⟨hrefused _ (by simp) ⟨db.integrityIncidents, rfl⟩, hfailed _ db.integrityIncidents hviolated⟩
  -- a refused transaction rolls back to the store it began with
  let R : Except Violation IngestOutcome → Db → Prop
    | .ok outcome, db' => Q outcome db'
    | .error violation, db' => db' = db ∧ ingestTransaction sha256 batch db = .error violation
  have hresult : ((Awaits.attempt (Awaits.await StoreCall.ingestTransaction fun db =>
      ingestTransaction sha256 batch db) : Awaits StoreCall Db StorageFailure _) db).Meets C R E :=
    Awaits.meets_attempt (Awaits.meets_await hcommitted fun e he =>
      ⟨hrefused _ (fun _ => rfl) ⟨db.integrityIncidents, rfl⟩, rfl, he⟩)
  unfold ingestBatch
  refine Awaits.meets_bind hresult fun r db' hr => ?_
  cases r with
  | ok outcome => exact Awaits.meets_pure hr
  | error violation =>
    obtain ⟨rfl, hviolation⟩ : db' = db ∧ ingestTransaction sha256 batch db = .error violation := hr
    dsimp only
    split
    · unfold raiseConflict
      refine Awaits.meets_bind (hread _ _) fun stored s hs => ?_
      subst hs
      refine Awaits.meets_bind (hrecord _ ⟨violation, hviolation⟩) fun _ s hs => ?_
      obtain ⟨integrityIncidents, rfl⟩ := hs
      exact Awaits.meets_throw (hfailed _ _ ⟨violation, hviolation⟩)
    · exact Awaits.meets_throw (hfailed _ db'.integrityIncidents ⟨violation, hviolation⟩)

end Ingest

/-! ## What can be stored -/

/-- The block passes the checks of its columns. -/
def BlockFact.storable (b : BlockFact) : Bool :=
  (fitsBigint b.blockNumber && fitsBigint b.blockTimestamp) && matchesHex "0x" 64 b.blockHash &&
    matchesHex "0x" 64 b.parentHash && decide (0 ≤ b.blockNumber)

/-- The log passes the checks of its columns. -/
def LogFact.storable (l : LogFact) : Bool :=
  (fitsBigint l.blockNumber && fitsInteger l.logIndex && fitsInteger l.txIndex) && matchesHex "0x" 64 l.txHash &&
    matchesHex "0x" 40 l.address && decide (0 ≤ l.logIndex) && decide (0 ≤ l.txIndex) && decide (l.topics.length ≤ 4)

/-- The accepted blocks of the chain are the blocks of one view of it. -/
def FollowsView (chainKey : String) (view : Int → String) (db : Db) : Prop :=
  ∀ b ∈ db.chainBlocks.table.rows, b.chainKey = chainKey → b.observedClass = .accepted → b.blockHash = view b.blockNumber

/-- The store knows the lane, and its blocks of the chain follow the view. -/
structure Receives (deploymentId chainKey : String) (view : Int → String) (db : Db) : Prop where
  deployment : deploymentId ∈ db.deployments
  chain : chainKey ∈ db.chains
  follows : FollowsView chainKey view db

section Store

variable {deploymentId chainKey : String} {view : Int → String} {db : Db}

/-- A block of the view can be stored, and is there afterwards with all the others. -/
theorem insertBlock_succeeds (h : Receives deploymentId chainKey view db) {b : BlockFact} (hb : b.storable = true)
    (hchain : b.chainKey = chainKey) (hview : b.blockHash = view b.blockNumber) :
    ∃ n db', insertBlock db b = .ok (n, db') ∧ Receives deploymentId chainKey view db' ∧
      db'.chainBlocks.table.has b.key = true ∧
      ∀ k, db.chainBlocks.table.has k = true → db'.chainBlocks.table.has k = true := by
  simp only [BlockFact.storable, Bool.and_eq_true] at hb
  obtain ⟨⟨⟨⟨hnumber, htime⟩, hhash⟩, hparent⟩, hnonneg⟩ := hb
  cases hstored : db.chainBlocks.table.has b.key with
  | true =>
    refine ⟨0, db, ?_, h, hstored, fun _ hk => hk⟩
    simp [insertBlock, ensure, hnumber, htime, hhash, hparent, hnonneg, hstored, bind, Except.bind, pure, Except.pure]
  | false =>
    -- a competing block would be the same block of the view
    have hfree : ¬ ∃ a ∈ db.chainBlocks.table.rows, a.competes b = true := by
      rintro ⟨a, ha, hcompetes⟩
      simp only [BlockFact.competes, Bool.and_eq_true, decide_eq_true_eq] at hcompetes
      obtain ⟨⟨⟨hclass, -⟩, hsameChain⟩, hheight⟩ := hcompetes
      have hhash := h.follows a ha (hsameChain.trans hchain) hclass
      rw [hheight, ← hview] at hhash
      exact Keyed.has_eq_false.1 hstored a ha (Prod.ext hsameChain hhash)
    obtain ⟨chainBlocks, hinsert, htable⟩ : ∃ t, db.chainBlocks.insert b = .ok t ∧
        t.table = db.chainBlocks.table.insertIfAbsent b := by
      unfold ChainBlocks.insert
      rw [dif_neg hfree]
      exact ⟨_, rfl, rfl⟩
    have hrows : chainBlocks.table.rows = db.chainBlocks.table.rows ++ [b] := by
      rw [htable, Keyed.rows_insertIfAbsent, hstored]
      rfl
    refine ⟨1, { db with chainBlocks }, ?_, ⟨h.deployment, h.chain, fun a ha hac hclass => ?_⟩, ?_, fun k hk => ?_⟩
    · have hregistered : b.chainKey ∈ db.chains := hchain ▸ h.chain
      simp [insertBlock, ensure, hnumber, htime, hhash, hparent, hnonneg, hstored, hinsert, hregistered, bind,
        Except.bind, pure, Except.pure]
    · change a ∈ chainBlocks.table.rows at ha
      rw [hrows] at ha
      rcases List.mem_append.1 ha with ha | ha
      · exact h.follows a ha hac hclass
      · rw [List.mem_singleton.1 ha]
        exact hview
    · exact Keyed.has_iff.2 ⟨b, by rw [hrows]; simp, rfl⟩
    · obtain ⟨a, ha, hak⟩ := Keyed.has_iff.1 hk
      exact Keyed.has_iff.2 ⟨a, by rw [hrows]; exact List.mem_append_left _ ha, hak⟩

/-- A log whose block is stored can be stored. -/
theorem insertLog_succeeds {l : LogFact} (hl : l.storable = true)
    (hblock : db.chainBlocks.table.has (l.chainKey, l.blockHash) = true) :
    ∃ n db', insertLog db l = .ok (n, db') ∧ ∃ chainLogs, db' = { db with chainLogs } := by
  simp only [LogFact.storable, Bool.and_eq_true] at hl
  obtain ⟨⟨⟨⟨⟨⟨⟨hnumber, hindex⟩, htx⟩, hhash⟩, haddress⟩, hlogIndex⟩, htxIndex⟩, htopics⟩ := hl
  unfold insertLog
  simp only [hnumber, hindex, htx, hhash, haddress, hlogIndex, htxIndex, htopics, hblock, ensure, bind, Except.bind, pure,
    Except.pure, Bool.and_true, if_true]
  cases db.chainLogs.has l.key with
  | true => exact ⟨0, db, rfl, db.chainLogs, rfl⟩
  | false => exact ⟨1, _, rfl, _, rfl⟩

theorem advanceCheckpoint_succeeds {c : Checkpoint} (hfits : fitsBigint c.lastBlockNumber = true)
    (hhash : matchesHex "0x" 64 c.lastBlockHash = true) (hnonneg : 0 ≤ c.lastBlockNumber)
    (hdeployment : c.deploymentId ∈ db.deployments) (hchain : c.chainKey ∈ db.chains) :
    ∃ advanced db', advanceCheckpoint db c = .ok (advanced, db') ∧ ∃ replayCheckpoints, db' = { db with replayCheckpoints } := by
  unfold advanceCheckpoint
  simp only [hfits, hhash, hnonneg, decide_true, List.contains_iff_mem.2 hdeployment, List.contains_iff_mem.2 hchain,
    ensure, bind, Except.bind, pure, Except.pure, if_true]
  cases storedCheckpoint db c.deploymentId c.chainKey with
  | none => exact ⟨true, _, rfl, _, rfl⟩
  | some stored =>
    dsimp only
    split
    · exact ⟨true, _, rfl, _, rfl⟩
    · exact ⟨false, db, rfl, db.replayCheckpoints, rfl⟩

/-- A batch of blocks of the view, with logs of these blocks, and a checkpoint of the lane is committed. -/
theorem ingestTransaction_succeeds (sha256 : String → String) {blocks : List BlockFact} {logs : List LogFact}
    {lastBlockNumber : Int} {lastBlockHash : String} (h : Receives deploymentId chainKey view db)
    (hblocks : ∀ b ∈ blocks, b.storable = true ∧ b.chainKey = chainKey ∧ b.blockHash = view b.blockNumber)
    (hlogs : ∀ l ∈ logs, l.storable = true ∧ ∃ b ∈ blocks, b.key = (l.chainKey, l.blockHash))
    (hfits : fitsBigint lastBlockNumber = true) (hhash : matchesHex "0x" 64 lastBlockHash = true)
    (hnonneg : 0 ≤ lastBlockNumber) :
    ∃ outcome db', ingestTransaction sha256
        { deploymentId, chainKey, blocks, logs, observations := [],
          checkpoint := some { deploymentId, chainKey, lastBlockNumber, lastBlockHash } } db = .ok (outcome, db') ∧
      Receives deploymentId chainKey view db' := by
  obtain ⟨n, db₁, hinsertBlocks, h₁, hall, -⟩ := insertEach_succeeds insertBlock
    (Receives deploymentId chainKey view) (fun b db => db.chainBlocks.table.has b.key = true) (fun b hb db hdb => by
      obtain ⟨hstorable, hchain, hview⟩ := hblocks b hb
      obtain ⟨n, db', hinsert, hdb', hhas, hkept⟩ := insertBlock_succeeds hdb hstorable hchain hview
      exact ⟨n, db', hinsert, hdb', hhas, fun r hr => hkept r.key hr⟩) h
  obtain ⟨m, db₂, hinsertLogs, ⟨h₂, -⟩, -, -⟩ := insertEach_succeeds insertLog
    (fun db => Receives deploymentId chainKey view db ∧ ∀ b ∈ blocks, db.chainBlocks.table.has b.key = true)
    (fun _ _ => True) (fun l hl db ⟨hdb, hhas⟩ => by
      obtain ⟨hstorable, b, hb, hkey⟩ := hlogs l hl
      obtain ⟨n, db', hinsert, chainLogs, rfl⟩ := insertLog_succeeds hstorable (hkey ▸ hhas b hb)
      exact ⟨n, _, hinsert, ⟨⟨hdb.deployment, hdb.chain, hdb.follows⟩, hhas⟩, trivial, fun _ _ => trivial⟩) ⟨h₁, hall⟩
  obtain ⟨advanced, db₃, hadvance, replayCheckpoints, rfl⟩ := advanceCheckpoint_succeeds
    (c := { deploymentId, chainKey, lastBlockNumber, lastBlockHash }) hfits hhash hnonneg h₂.deployment h₂.chain
  let outcome : IngestOutcome :=
    { blocksInserted := n
      logsInserted := m
      observationsInserted := 0
      checkpointAdvanced := advanced
      rangeDigest := canonicalLogDigest sha256 logs }
  refine ⟨outcome, { db₂ with replayCheckpoints }, ?_, ⟨h₂.deployment, h₂.chain, h₂.follows⟩⟩
  simp only [ingestTransaction, insertBlocks, insertLogs, insertObservations, hinsertBlocks, hinsertLogs, insertEach,
    advanceIfGiven, hadvance, bind, Except.bind, pure, Except.pure]
  rfl

end Store

end IcttSentinel.Storage
