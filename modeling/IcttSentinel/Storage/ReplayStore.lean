/-
Storage of the replay layer, packages/storage-postgres/src/replay-store.ts: the status of every
range, the incidents of the ranges that could not be trusted, and the completeness projection of a
lane (a deployment's chain).
-/
import IcttSentinel.Storage.Ledger

namespace IcttSentinel.Storage

open IcttSentinel.Lib

/-! ## Statements -/

/-- `on conflict (incident_id) do nothing`. -/
def recordDataQualityIncident (incident : DataQualityIncident) (db : Db) : Except Violation (Unit × Db) := do
  ensure (fitsBigint incident.fromBlock && fitsBigint incident.toBlock) .numericValueOutOfRange
  ensure (decide (incident.fromBlock ≤ incident.toBlock)) (.checkViolation "data_quality_incidents_bounds_ck")
  if db.dataQualityIncidents.has incident.incidentId then return ((), db)
  ensure (db.deployments.contains incident.deploymentId)
    (.foreignKeyViolation "data_quality_incidents_deployment_id_fkey")
  ensure (db.chains.contains incident.chainKey) (.foreignKeyViolation "data_quality_incidents_chain_key_fkey")
  return ((), { db with dataQualityIncidents := db.dataQualityIncidents.insertIfAbsent incident })

/-- `on conflict (range_id) do update`: a stored range keeps its lane and bounds. -/
def upsertRangeStatus (row : RangeStatusRow) (db : Db) : Except Violation (Unit × Db) := do
  ensure (fitsBigint row.fromBlock && fitsBigint row.toBlock) .numericValueOutOfRange
  ensure (decide (row.fromBlock ≤ row.toBlock)) (.checkViolation "replay_ranges_bounds_ck")
  match db.replayRanges.lookup row.rangeId with
  | some stored =>
    let updated :=
      { stored with status := row.status, reasonCode := row.reasonCode, providerGroup := row.providerGroup }
    return ((), { db with replayRanges := db.replayRanges.upsert updated })
  | none => do
    ensure (db.deployments.contains row.deploymentId) (.foreignKeyViolation "replay_ranges_deployment_id_fkey")
    ensure (db.chains.contains row.chainKey) (.foreignKeyViolation "replay_ranges_chain_key_fkey")
    return ((), { db with replayRanges := db.replayRanges.upsert row })

/-- The ranges of a lane recorded as complete. -/
def completeRanges (db : Db) (deploymentId chainKey : String) : List BlockRange :=
  (db.replayRanges.rows.filter fun r =>
    decide (r.deploymentId = deploymentId) && decide (r.chainKey = chainKey) &&
      decide (r.status = .complete)).map fun r => { fromBlock := r.fromBlock, toBlock := r.toBlock }

/-- `order by from_block` names the selected column, which is the decimal text of the height. -/
def readCommittedRanges (deploymentId chainKey : String) : Awaits StoreCall Db StorageFailure (List BlockRange) :=
  .read .readCommittedRanges fun db =>
    sortOn (fun r => codeUnits (toString r.fromBlock)) (completeRanges db deploymentId chainKey)

/-- The projection admits `OK` for complete windows only. -/
def upsertCompleteness (row : CompletenessRow) (db : Db) : Except Violation (Unit × Db) := do
  ensure (fitsBigint row.windowFrom && fitsBigint row.windowTo && fitsInteger row.gapCount) .numericValueOutOfRange
  ensure (decide (row.verdict = "OK" ↔ row.status = .complete))
    (.checkViolation "projection_replay_only_complete_is_ok")
  ensure (decide (0 ≤ row.gapCount)) (.checkViolation "projection_replay_gaps_ck")
  ensure (decide (row.windowFrom ≤ row.windowTo)) (.checkViolation "projection_replay_window_ck")
  ensure (db.deployments.contains row.deploymentId)
    (.foreignKeyViolation "projection_replay_completeness_deployment_id_fkey")
  ensure (db.chains.contains row.chainKey) (.foreignKeyViolation "projection_replay_completeness_chain_key_fkey")
  return ((), { db with replayCompleteness := db.replayCompleteness.upsert row })

def storedCompleteness (db : Db) (deploymentId chainKey : String) : Option CompletenessRow :=
  db.replayCompleteness.lookup (deploymentId, chainKey)

def readCompleteness (deploymentId chainKey : String) : Awaits StoreCall Db StorageFailure (Option CompletenessRow) :=
  .read .readCompleteness fun db => storedCompleteness db deploymentId chainKey

/-- Await a statement of this module. -/
def awaitStatement (op : StoreCall) (statement : Db → Except Violation (Unit × Db)) :
    Awaits StoreCall Db StorageFailure Unit :=
  .mapError .violation (.await op statement)

/-! ## What a statement changes -/

theorem recordDataQualityIncident_ok {incident : DataQualityIncident} {db db' : Db} {u : Unit}
    (h : recordDataQualityIncident incident db = .ok (u, db')) :
    ∃ dataQualityIncidents, db' = { db with dataQualityIncidents } := by
  unfold recordDataQualityIncident at h
  simp only [bind_eq_ok, ensure_eq_ok] at h
  obtain ⟨_, -, _, -, h⟩ := h
  split at h
  · cases h
    exact ⟨db.dataQualityIncidents, rfl⟩
  · simp only [bind_eq_ok, ensure_eq_ok] at h
    obtain ⟨_, -, _, -, h⟩ := h
    cases h
    exact ⟨_, rfl⟩

/-- The row an upsert leaves under its id. -/
def mergedRow (db : Db) (row : RangeStatusRow) : RangeStatusRow :=
  match db.replayRanges.lookup row.rangeId with
  | some stored =>
    { stored with status := row.status, reasonCode := row.reasonCode, providerGroup := row.providerGroup }
  | none => row

theorem upsertRangeStatus_ok {row : RangeStatusRow} {db db' : Db} {u : Unit}
    (h : upsertRangeStatus row db = .ok (u, db')) :
    db' = { db with replayRanges := db.replayRanges.upsert (mergedRow db row) } := by
  unfold upsertRangeStatus at h
  simp only [bind_eq_ok, ensure_eq_ok] at h
  obtain ⟨_, -, _, -, h⟩ := h
  unfold mergedRow
  cases hstored : db.replayRanges.lookup row.rangeId with
  | some stored =>
    rw [hstored] at h
    cases h
    rfl
  | none =>
    rw [hstored] at h
    simp only [bind_eq_ok, ensure_eq_ok] at h
    obtain ⟨_, -, _, -, h⟩ := h
    cases h
    rfl

/-- A range of a registered lane whose bounds fit their columns can always be recorded. -/
theorem upsertRangeStatus_succeeds {row : RangeStatusRow} {db : Db}
    (hfits : fitsBigint row.fromBlock = true ∧ fitsBigint row.toBlock = true) (hbounds : row.fromBlock ≤ row.toBlock)
    (hdeployment : row.deploymentId ∈ db.deployments) (hchain : row.chainKey ∈ db.chains) :
    upsertRangeStatus row db = .ok ((), { db with replayRanges := db.replayRanges.upsert (mergedRow db row) }) := by
  unfold upsertRangeStatus mergedRow
  cases db.replayRanges.lookup row.rangeId <;>
    simp [ensure, hfits, hbounds, hdeployment, hchain, bind, Except.bind, pure, Except.pure]

theorem upsertCompleteness_ok {row : CompletenessRow} {db db' : Db} {u : Unit}
    (h : upsertCompleteness row db = .ok (u, db')) :
    db' = { db with replayCompleteness := db.replayCompleteness.upsert row } := by
  unfold upsertCompleteness at h
  simp only [bind_eq_ok, ensure_eq_ok] at h
  obtain ⟨_, -, _, -, _, -, _, -, _, -, _, -, h⟩ := h
  cases h
  rfl

/-- A projection of a registered lane whose numbers fit and whose verdict matches its status can always be stored. -/
theorem upsertCompleteness_succeeds {row : CompletenessRow} {db : Db}
    (hfits : fitsBigint row.windowFrom = true ∧ fitsBigint row.windowTo = true ∧ fitsInteger row.gapCount = true)
    (hverdict : row.verdict = "OK" ↔ row.status = .complete) (hgaps : 0 ≤ row.gapCount)
    (hwindow : row.windowFrom ≤ row.windowTo) (hdeployment : row.deploymentId ∈ db.deployments)
    (hchain : row.chainKey ∈ db.chains) :
    upsertCompleteness row db = .ok ((), { db with replayCompleteness := db.replayCompleteness.upsert row }) := by
  simp [upsertCompleteness, ensure, hfits, hverdict, hgaps, hwindow, hdeployment, hchain, bind, Except.bind, pure,
    Except.pure]

theorem storedCompleteness_upsert (db : Db) (row : CompletenessRow) :
    storedCompleteness { db with replayCompleteness := db.replayCompleteness.upsert row } row.deploymentId
      row.chainKey = some row := by
  simp [storedCompleteness, Keyed.lookup_upsert, CompletenessRow.lane]

/-- The two spellings of a range as a member of the recorded ones. -/
theorem mem_completeRanges {db : Db} {deploymentId chainKey : String} {r : BlockRange} :
    r ∈ completeRanges db deploymentId chainKey ↔ ∃ row ∈ db.replayRanges.rows, row.deploymentId = deploymentId ∧
      row.chainKey = chainKey ∧ row.status = .complete ∧ row.fromBlock = r.fromBlock ∧ row.toBlock = r.toBlock := by
  unfold completeRanges
  simp only [List.mem_map, List.mem_filter, Bool.and_eq_true, decide_eq_true_eq]
  constructor
  · rintro ⟨row, ⟨hrow, ⟨hd, hc⟩, hs⟩, rfl⟩
    exact ⟨row, hrow, hd, hc, hs, rfl, rfl⟩
  · rintro ⟨row, hrow, hd, hc, hs, hf, ht⟩
    exact ⟨row, ⟨hrow, ⟨hd, hc⟩, hs⟩, by cases r; simp_all⟩

end IcttSentinel.Storage
