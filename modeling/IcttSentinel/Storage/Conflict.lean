/-
Conflicting history, packages/storage-postgres/src/ledger.ts: "the previously stored evidence is left exactly as it
was", and "a typed integrity incident is recorded". Where a batch runs into the one-accepted-block index it is rolled
back, but the incident names the first accepted block of the batch, whichever block it was that conflicted; and a block
whose hash is stored already, as a candidate for instance, runs into no index at all. The exact condition, for every
store and every batch.
-/
import IcttSentinel.Storage.History

namespace IcttSentinel.Storage

open IcttSentinel.Lib

/-! ## Which error a batch ends in -/

/-- A batch of rows is refused by its first row that is. -/
theorem insertEach_eq_error {α : Type} {insert : Db → α → Except Violation (Nat × Db)} {db : Db} {rows : List α}
    {violation : Violation} : insertEach insert db rows = .error violation ↔
      ∃ before row after db', rows = before ++ row :: after ∧ (∃ n, insertEach insert db before = .ok (n, db')) ∧
        insert db' row = .error violation := by
  induction rows generalizing db with
  | nil =>
    constructor
    · intro h
      cases h
    · rintro ⟨before, row, after, -, h, -⟩
      exact absurd h (by simp)
  | cons first rows ih =>
    cases hfirst : insert db first with
    | error e =>
      have hstep : insertEach insert db (first :: rows) = .error e := by
        simp [insertEach, hfirst, bind, Except.bind]
      rw [hstep, Except.error.injEq]
      constructor
      · rintro rfl
        exact ⟨[], first, rows, db, rfl, ⟨0, rfl⟩, hfirst⟩
      · rintro ⟨before, row, after, db', hrows, hbefore, hrow⟩
        cases before with
        | nil =>
          obtain ⟨n, hbefore⟩ := hbefore
          cases hbefore
          obtain ⟨rfl, -⟩ := List.cons.inj hrows
          rw [hfirst] at hrow
          exact Except.error.inj hrow
        | cons b before =>
          obtain ⟨rfl, -⟩ := List.cons.inj hrows
          -- the first row fails, so it cannot be among the rows before the failing one
          obtain ⟨db₁, ⟨n, hok⟩, -⟩ := insertEach_cons_eq_ok.1 hbefore
          rw [hfirst] at hok
          cases hok
    | ok r =>
      obtain ⟨n, db₁⟩ := r
      have hstep : insertEach insert db (first :: rows) = .error violation ↔
          insertEach insert db₁ rows = .error violation := by
        cases hrest : insertEach insert db₁ rows <;>
          simp [insertEach, hfirst, hrest, bind, Except.bind, pure, Except.pure]
      rw [hstep, ih]
      constructor
      · rintro ⟨before, row, after, db', rfl, hbefore, hrow⟩
        exact ⟨first :: before, row, after, db', rfl, insertEach_cons_eq_ok.2 ⟨db₁, ⟨n, hfirst⟩, hbefore⟩, hrow⟩
      · rintro ⟨before, row, after, db', hrows, hbefore, hrow⟩
        cases before with
        | nil =>
          obtain ⟨m, hbefore⟩ := hbefore
          cases hbefore
          obtain ⟨rfl, -⟩ := List.cons.inj hrows
          rw [hfirst] at hrow
          cases hrow
        | cons b before =>
          obtain ⟨rfl, rfl⟩ := List.cons.inj hrows
          obtain ⟨db₂, ⟨m, hok⟩, hrest⟩ := insertEach_cons_eq_ok.1 hbefore
          rw [hfirst] at hok
          cases hok
          exact ⟨before, row, after, db', rfl, hrest, hrow⟩

theorem ensure_eq_error {holds : Bool} {violation v : Violation} :
    ensure holds violation = .error v ↔ holds = false ∧ violation = v := by
  cases holds <;> simp [ensure]

theorem bind_eq_error {ε α β : Type} {x : Except ε α} {f : α → Except ε β} {e : ε} :
    x >>= f = .error e ↔ x = .error e ∨ ∃ a, x = .ok a ∧ f a = .error e := by
  cases x <;> simp [bind, Except.bind]

/-- The violation of the one-accepted-block index. -/
def heightViolation : Violation := .uniqueViolation acceptedHeightIndex

theorem chainBlocks_insert_eq_error {t : ChainBlocks} {b : BlockFact} {violation : Violation} :
    t.insert b = .error violation ↔ (∃ a ∈ t.table.rows, a.competes b = true) ∧ violation = heightViolation := by
  unfold ChainBlocks.insert heightViolation
  split
  · rename_i hcompetes
    rw [Except.error.injEq]
    exact ⟨fun h => ⟨hcompetes, h.symm⟩, fun h => h.2.symm⟩
  · rename_i hfree
    exact iff_of_false (fun h => by cases h) fun h => hfree h.1

theorem insertBlock_heightViolation {db : Db} {b : BlockFact} : insertBlock db b = .error heightViolation ↔
    b.formed = true ∧ db.chainBlocks.table.has b.key = false ∧ ∃ a ∈ db.chainBlocks.table.rows, a.competes b = true := by
  unfold insertBlock BlockFact.formed
  simp only [bind_eq_error, ensure_eq_error, ensure_eq_ok, heightViolation, reduceCtorEq, and_false, false_or,
    exists_const, Bool.and_eq_true, and_assoc]
  iterate 5 refine and_congr_right fun _ => ?_
  cases db.chainBlocks.table.has b.key with
  | true => simp [pure, Except.pure]
  | false =>
    simp only [Bool.false_eq_true, if_false, true_and, bind_eq_error, chainBlocks_insert_eq_error, ensure_eq_error,
      heightViolation, reduceCtorEq, and_false, and_true, pure, Except.pure, exists_const, or_false, exists_false]

theorem insertLog_ne_heightViolation {db : Db} {l : LogFact} : insertLog db l ≠ .error heightViolation := by
  intro h
  unfold insertLog at h
  simp only [bind_eq_error, ensure_eq_error, ensure_eq_ok, heightViolation, reduceCtorEq, and_false, false_or,
    exists_const] at h
  obtain ⟨-, -, -, -, -, -, h⟩ := h
  split at h
  · cases h
  · simp [bind_eq_error, ensure_eq_error, pure, Except.pure] at h

theorem insertObservation_ne_heightViolation {db : Db} {o : ObservationFact} :
    insertObservation db o ≠ .error heightViolation := by
  intro h
  unfold insertObservation at h
  simp only [bind_eq_error, ensure_eq_error, ensure_eq_ok, heightViolation, reduceCtorEq, and_false, false_or,
    exists_const] at h
  obtain ⟨-, -, -, -, -, h⟩ := h
  split at h
  · cases h
  · simp [bind_eq_error, ensure_eq_error, pure, Except.pure, acceptedHeightIndex] at h

theorem advanceIfGiven_ne_heightViolation {db : Db} {c : Option Checkpoint} :
    advanceIfGiven db c ≠ .error heightViolation := by
  cases c with
  | none => exact fun h => by cases h
  | some c =>
    intro h
    unfold advanceIfGiven advanceCheckpoint at h
    simp only [bind_eq_error, ensure_eq_error, ensure_eq_ok, heightViolation, reduceCtorEq, and_false, false_or,
      exists_const] at h
    obtain ⟨-, -, -, -, -, h⟩ := h
    split at h
    · split at h <;> cases h
    · cases h

/-- Rows that never violate the index are never refused for it. -/
theorem insertEach_ne_heightViolation {α : Type} {insert : Db → α → Except Violation (Nat × Db)}
    (hinsert : ∀ db row, insert db row ≠ .error heightViolation) (db : Db) (rows : List α) :
    insertEach insert db rows ≠ .error heightViolation := by
  intro h
  obtain ⟨before, row, after, db', -, -, hrow⟩ := insertEach_eq_error.1 h
  exact hinsert db' row hrow

/-- Some new block of the batch competes with a block that is accepted by then, and every block before it can be
stored. -/
def HeightRefused (db : Db) (blocks : List BlockFact) : Prop :=
  ∃ before b after, blocks = before ++ b :: after ∧
    (∀ x ∈ before, x.formed = true ∧ (db.chainBlocks.table.has x.key = true ∨ x.chainKey ∈ db.chains)) ∧
    OneAccepted (db.chainBlocks.table.insertAll before) ∧ b.formed = true ∧
    (db.chainBlocks.table.insertAll before).has b.key = false ∧
    ∃ a ∈ (db.chainBlocks.table.insertAll before).rows, a.competes b = true

theorem ingestTransaction_heightViolation (sha256 : String → String) {batch : IngestBatch} {db : Db} :
    ingestTransaction sha256 batch db = .error heightViolation ↔ HeightRefused db batch.blocks := by
  have hblocks : ingestTransaction sha256 batch db = .error heightViolation ↔
      insertBlocks db batch.blocks = .error heightViolation := by
    unfold ingestTransaction
    simp only [bind_eq_error, Prod.exists]
    constructor
    · rintro (h | ⟨_, _, -, h | ⟨_, _, -, h | ⟨_, _, -, h | ⟨_, _, -, h⟩⟩⟩⟩)
      · exact h
      · exact absurd h (insertEach_ne_heightViolation (fun _ _ => insertLog_ne_heightViolation) _ _)
      · exact absurd h (insertEach_ne_heightViolation (fun _ _ => insertObservation_ne_heightViolation) _ _)
      · exact absurd h advanceIfGiven_ne_heightViolation
      · cases h
    · exact Or.inl
  rw [hblocks]
  unfold insertBlocks HeightRefused
  rw [insertEach_eq_error]
  constructor
  · rintro ⟨before, b, after, db', hsplit, hbefore, hrow⟩
    obtain ⟨hall, hone, rfl⟩ := insertBlocks_eq_ok.1 hbefore
    obtain ⟨hformed, hnew, hcompetes⟩ := insertBlock_heightViolation.1 hrow
    exact ⟨before, b, after, hsplit, hall, hone, hformed, hnew, hcompetes⟩
  · rintro ⟨before, b, after, hsplit, hall, hone, hformed, hnew, hcompetes⟩
    exact ⟨before, b, after, _, hsplit, insertBlocks_eq_ok.2 ⟨hall, hone, rfl⟩,
      insertBlock_heightViolation.2 ⟨hformed, hnew, hcompetes⟩⟩

/-! ## The incident -/

/-- The incident of a block observed where another is stored. -/
def conflictIncident (sha256 : String → String) (batch : IngestBatch) (offending : BlockFact) (stored : Option String) :
    IntegrityIncident where
  incidentId := sha256 (offending.chainKey ++ "|" ++ textOrNull (some (toString offending.blockNumber)) ++ "|" ++
    textOrNull stored ++ "|" ++ textOrNull (some offending.blockHash))
  kind := "ACCEPTED_HASH_CONFLICT"
  chainKey := offending.chainKey
  blockNumber := some offending.blockNumber
  expectedHash := stored
  observedHash := some offending.blockHash
  detail := .obj
    [("lane", .str (batch.deploymentId ++ ":" ++ batch.chainKey)),
     ("note", .str "accepted block hash changed; evidence preserved, no rollback, verdict is UNKNOWN")]

section Incident

variable {sha256 : String → String} {batch : IngestBatch} {db : Db}

/-- The first accepted block of a batch: the one its conflict is blamed on. -/
def offendingBlock (blocks : List BlockFact) : Option BlockFact :=
  blocks.find? fun b => decide (b.observedClass = .accepted)

/-- A refused height leaves the incident of the first accepted block, and nothing else. -/
theorem ingestBatch_of_heightViolation (h : ingestTransaction sha256 batch db = .error heightViolation)
    {offending : BlockFact} (hoffending : offendingBlock batch.blocks = some offending)
    (hfits : fitsBigint offending.blockNumber = true) (hchain : offending.chainKey ∈ db.chains) :
    let stored := acceptedHashAt db offending.chainKey offending.blockNumber
    let incident := conflictIncident sha256 batch offending stored
    (ingestBatch sha256 batch db).result = .error (.acceptedHashConflict offending.chainKey offending.blockNumber
        (stored.getD "unknown") offending.blockHash) ∧
      (ingestBatch sha256 batch db).state =
        { db with integrityIncidents := db.integrityIncidents.insertIfAbsent incident } := by
  intro stored incident
  let recorded : Db := { db with integrityIncidents := db.integrityIncidents.insertIfAbsent incident }
  let conflict : StorageFailure :=
    .acceptedHashConflict offending.chainKey offending.blockNumber (stored.getD "unknown") offending.blockHash
  suffices hmeets : (ingestBatch sha256 batch db).Meets (fun _ => True) (fun _ _ => False)
      fun e s => e = conflict ∧ s = recorded by
    obtain ⟨e, hresult, rfl, hstate⟩ := hmeets.fails
    exact ⟨hresult, hstate⟩
  have hrecord : recordIntegrityIncident incident db = .ok ((), recorded) := by
    simp [recordIntegrityIncident, incident, recorded, conflictIncident, ensure, hfits, hchain, bind, Except.bind, pure,
      Except.pure]
  let S : Except Violation IngestOutcome → Db → Prop := fun r db' => r = .error heightViolation ∧ db' = db
  -- the transaction rolls back, so the handler starts from the store before it
  have htransaction : ((Awaits.attempt (Awaits.await StoreCall.ingestTransaction fun db =>
      ingestTransaction sha256 batch db) : Awaits StoreCall Db StorageFailure _) db).Meets (fun _ => True) S
        fun e s => e = conflict ∧ s = recorded := by
    refine Awaits.meets_attempt (Awaits.meets_await (fun outcome db' hok => ?_) fun violation hviolation => ?_)
    · rw [h] at hok
      cases hok
    · rw [h] at hviolation
      obtain rfl := Except.error.inj hviolation
      exact ⟨trivial, rfl, rfl⟩
  unfold ingestBatch
  refine Awaits.meets_bind htransaction fun r db' hr => ?_
  cases r with
  | ok outcome => cases hr.1
  | error violation =>
    obtain ⟨rfl, rfl⟩ : violation = heightViolation ∧ db' = db := ⟨Except.error.inj hr.1, hr.2⟩
    dsimp only
    split
    · unfold raiseConflict
      unfold offendingBlock at hoffending
      rw [hoffending]
      -- the handler reads the stored hash, records the incident and throws the conflict
      refine Awaits.meets_bind (Q := fun read s => read = stored ∧ s = db') (Awaits.meets_read trivial ⟨rfl, rfl⟩)
        fun read s hread => ?_
      obtain ⟨rfl, rfl⟩ := hread
      refine Awaits.meets_bind (Q := fun _ s => s = recorded) (Awaits.meets_await (fun u s' hs => ?_) fun e he => ?_)
        fun _ s hs => Awaits.meets_throw ⟨rfl, hs⟩
      · change (recordIntegrityIncident incident s).mapError StorageFailure.violation = .ok (u, s') at hs
        rw [hrecord] at hs
        cases hs
        exact ⟨trivial, rfl⟩
      · change (recordIntegrityIncident incident s).mapError StorageFailure.violation = .error e at he
        rw [hrecord] at he
        cases he
    · rename_i hne
      exact absurd rfl hne

/-- Only a refused height is thrown as a conflict, and as one of the first accepted block. -/
theorem heightViolation_of_conflict {offending : BlockFact} (hoffending : offendingBlock batch.blocks = some offending)
    {chainKey storedHash observedHash : String} {blockNumber : Int}
    (h : (ingestBatch sha256 batch db).result =
      .error (.acceptedHashConflict chainKey blockNumber storedHash observedHash)) :
    ingestTransaction sha256 batch db = .error heightViolation ∧ chainKey = offending.chainKey ∧
      blockNumber = offending.blockNumber ∧ observedHash = offending.blockHash := by
  -- a conflict is thrown in one place only; every other failure is the violation itself
  let E : StorageFailure → Db → Prop := fun e _ => (∃ violation, e = .violation violation) ∨
    (ingestTransaction sha256 batch db = .error heightViolation ∧
      ∃ stored, e = .acceptedHashConflict offending.chainKey offending.blockNumber stored offending.blockHash)
  suffices hmeets : (ingestBatch sha256 batch db).Meets (fun _ => True) (fun _ _ => True) E by
    rcases hmeets.error _ h with ⟨violation, hviolation⟩ | ⟨hviolation, stored, hconflict⟩
    · cases hviolation
    · obtain ⟨rfl, rfl, -, rfl⟩ := StorageFailure.acceptedHashConflict.inj hconflict
      exact ⟨hviolation, rfl, rfl, rfl⟩
  let S : Except Violation IngestOutcome → Db → Prop
    | .ok _, _ => True
    | .error violation, _ => ingestTransaction sha256 batch db = .error violation
  have htransaction : ((Awaits.attempt (Awaits.await StoreCall.ingestTransaction fun db =>
      ingestTransaction sha256 batch db) : Awaits StoreCall Db StorageFailure _) db).Meets (fun _ => True) S E :=
    Awaits.meets_attempt (Awaits.meets_await (fun _ _ _ => ⟨trivial, trivial⟩) fun _ hviolation => ⟨trivial, hviolation⟩)
  unfold ingestBatch
  refine Awaits.meets_bind htransaction fun r db' hr => ?_
  cases r with
  | ok outcome => exact Awaits.meets_pure trivial
  | error violation =>
    dsimp only
    split
    · rename_i hheight
      subst hheight
      unfold raiseConflict
      unfold offendingBlock at hoffending
      rw [hoffending]
      refine Awaits.meets_bind (Q := fun _ _ => True) (Awaits.meets_read trivial trivial) fun read s _ => ?_
      refine Awaits.meets_bind (Q := fun _ _ => True) (Awaits.meets_await (fun _ _ _ => ⟨trivial, trivial⟩) fun e he => ?_)
        fun _ s _ => Awaits.meets_throw (Or.inr ⟨hr, _, rfl⟩)
      refine ⟨trivial, Or.inl ?_⟩
      change Except.mapError StorageFailure.violation _ = .error e at he
      revert he
      cases recordIntegrityIncident _ s with
      | error v => exact fun he => ⟨v, (Except.error.inj he).symm⟩
      | ok r => exact fun he => by cases he
    · exact Awaits.meets_throw (Or.inl ⟨violation, rfl⟩)

end Incident

/-! ## When the refusal is exact -/

section Exact

variable (sha256 : String → String) (batch : IngestBatch) (db : Db)

/-- The block is accepted by the batch at a height where the other is stored as accepted, with another hash. -/
def BlockFact.contradicts (a b : BlockFact) : Prop := a.competes b = true ∧ a.blockHash ≠ b.blockHash

/-- The batch is refused as a whole, and the incident names the height, the stored hash and the observed hash of a
block of the batch that conflicts with a stored one. -/
def RefusedExactly : Prop :=
  ∃ a ∈ db.chainBlocks.table.rows, ∃ b ∈ batch.blocks, a.contradicts b ∧
    (ingestBatch sha256 batch db).result =
      .error (.acceptedHashConflict b.chainKey b.blockNumber a.blockHash b.blockHash) ∧
    ∃ incident : IntegrityIncident, incident.kind = "ACCEPTED_HASH_CONFLICT" ∧ incident.chainKey = b.chainKey ∧
      incident.blockNumber = some b.blockNumber ∧ incident.expectedHash = some a.blockHash ∧
      incident.observedHash = some b.blockHash ∧
      (ingestBatch sha256 batch db).state =
        { db with integrityIncidents := db.integrityIncidents.insertIfAbsent incident }

variable {sha256 batch db}

/-- The stored block of a height, as it is read back. -/
theorem acceptedHashAt_eq {a b : BlockFact} (ha : a ∈ db.chainBlocks.table.rows) (h : a.competes b = true) :
    acceptedHashAt db b.chainKey b.blockNumber = some a.blockHash := by
  have hab := h
  simp only [BlockFact.competes, Bool.and_eq_true, decide_eq_true_eq] at h
  obtain ⟨⟨⟨haccepted, hb⟩, hchain⟩, hnumber⟩ := h
  unfold acceptedHashAt
  cases hfind : db.chainBlocks.table.rows.find? fun x =>
      decide (x.chainKey = b.chainKey) && decide (x.blockNumber = b.blockNumber) && decide (x.observedClass = .accepted) with
  | none =>
    have hnot := List.find?_eq_none.1 hfind a ha
    simp [hchain, hnumber, haccepted] at hnot
  | some x =>
    have hx := List.find?_some hfind
    simp only [Bool.and_eq_true, decide_eq_true_eq] at hx
    obtain ⟨⟨hxchain, hxnumber⟩, hxaccepted⟩ := hx
    have hcompetes : x.competes a = true := by
      simp [BlockFact.competes, hxaccepted, haccepted, hxchain, hxnumber, hchain, hnumber]
    rw [db.chainBlocks.oneAcceptedPerHeight x (List.mem_of_find?_eq_some hfind) a ha hcompetes]
    rfl

/-- Up to the block that is refused, the first accepted block of the batch is well formed. -/
theorem HeightRefused.offending_formed (h : HeightRefused db batch.blocks) {o : BlockFact}
    (ho : offendingBlock batch.blocks = some o) : o.formed = true := by
  obtain ⟨before, b, after, hsplit, hbefore, -, hformed, -, a, -, hcompetes⟩ := h
  have hb : b.observedClass = .accepted := by
    simp only [BlockFact.competes, Bool.and_eq_true, decide_eq_true_eq] at hcompetes
    exact hcompetes.1.1.2
  unfold offendingBlock at ho
  rw [hsplit, List.find?_append] at ho
  cases hfirst : before.find? fun x => decide (x.observedClass = .accepted) with
  | some x =>
    rw [hfirst] at ho
    obtain rfl : x = o := Option.some.inj ho
    exact (hbefore _ (List.mem_of_find?_eq_some hfirst)).1
  | none =>
    rw [hfirst, List.find?_cons_of_pos (by simpa using hb)] at ho
    obtain rfl : b = o := Option.some.inj ho
    exact hformed

/-- Every block is on a registered chain: the foreign key of `chain_blocks`. -/
def Db.ChainsRegistered (db : Db) : Prop := ∀ b ∈ db.chainBlocks.table.rows, b.chainKey ∈ db.chains

theorem ledgerStep_chainsRegistered (e : LedgerEvent) (h : db.ChainsRegistered) :
    (ledgerStep sha256 db e).ChainsRegistered := by
  cases e with
  | ingested batch =>
    simp only [ledgerStep]
    cases hingest : ingestTransaction sha256 batch db with
    | error violation => exact h
    | ok r =>
      unfold ingestTransaction at hingest
      simp only [bind_eq_ok, Prod.exists] at hingest
      obtain ⟨n, db₁, hblocks, _, db₂, hlogs, _, db₃, hobservations, advanced, db₄, hcheckpoint, hend⟩ := hingest
      cases hend
      obtain ⟨hall, hone, rfl⟩ := insertBlocks_eq_ok.1 ⟨n, hblocks⟩
      obtain ⟨chainLogs, rfl⟩ := insertLogs_ok hlogs
      obtain ⟨observations, rfl⟩ := insertObservations_ok hobservations
      obtain ⟨replayCheckpoints, rfl⟩ : ∃ replayCheckpoints, db₄ = { { { db.withBlocks _ hone with chainLogs } with
          observations } with replayCheckpoints } := by
        cases hgiven : batch.checkpoint with
        | none =>
          rw [hgiven] at hcheckpoint
          cases hcheckpoint
          exact ⟨_, rfl⟩
        | some c =>
          rw [hgiven] at hcheckpoint
          exact (advanceCheckpoint_ok hcheckpoint).2.1
      intro b hb
      rcases Keyed.mem_insertAll.1 hb with hb | ⟨hfirst, hnew⟩
      · exact h b hb
      · -- a block that is stored for the first time was checked against the registered chains
        refine (hall b hfirst.mem).2.resolve_left ?_
        rw [hnew]
        exact Bool.false_ne_true
  | recorded incident =>
    simp only [ledgerStep]
    cases hrecord : recordIntegrityIncident incident db with
    | error violation => exact h
    | ok r =>
      simp only [recordIntegrityIncident, bind_eq_ok] at hrecord
      obtain ⟨_, -, _, -, hrecord⟩ := hrecord
      cases hrecord
      exact h

theorem ledgerAfter_chainsRegistered (sha256 : String → String) (deployments chains : List String)
    (history : List LedgerEvent) : (ledgerAfter sha256 deployments chains history).ChainsRegistered := by
  induction history using List.reverseRecOn with
  | nil => exact fun b hb => absurd hb List.not_mem_nil
  | append_singleton history e ih =>
    rw [ledgerAfter_append]
    exact ledgerStep_chainsRegistered e ih

/-- An exact refusal ran into the accepted height, and blames a block that conflicts. -/
theorem RefusedExactly.blames (h : RefusedExactly sha256 batch db) {o : BlockFact}
    (ho : offendingBlock batch.blocks = some o) :
    HeightRefused db batch.blocks ∧ ∃ a ∈ db.chainBlocks.table.rows, a.contradicts o := by
  have haccepted : o.observedClass = .accepted := by simpa using List.find?_some ho
  obtain ⟨a, ha, b, hb, ⟨hcompetes, hhash⟩, hresult, -⟩ := h
  obtain ⟨hviolation, hchain, hnumber, hobserved⟩ := heightViolation_of_conflict ho hresult
  refine ⟨(ingestTransaction_heightViolation sha256).1 hviolation, a, ha, ?_, hobserved ▸ hhash⟩
  simp only [BlockFact.competes, Bool.and_eq_true, decide_eq_true_eq] at hcompetes ⊢
  exact ⟨⟨⟨hcompetes.1.1.1, haccepted⟩, hcompetes.1.2.trans hchain⟩, hcompetes.2.trans hnumber⟩

/-- A batch that runs into the accepted height is refused exactly when its first accepted block is one that
conflicts. -/
theorem HeightRefused.exactly (h : HeightRefused db batch.blocks) (hchains : db.ChainsRegistered) {o : BlockFact}
    (ho : offendingBlock batch.blocks = some o) {a : BlockFact} (ha : a ∈ db.chainBlocks.table.rows)
    (hconflict : a.contradicts o) : RefusedExactly sha256 batch db := by
  obtain ⟨hcompetes, hhash⟩ := hconflict
  have hformed := h.offending_formed ho
  simp only [BlockFact.formed, Bool.and_eq_true] at hformed
  have hchain : o.chainKey ∈ db.chains := by
    have hsame := hcompetes
    simp only [BlockFact.competes, Bool.and_eq_true, decide_eq_true_eq] at hsame
    rw [← hsame.1.2]
    exact hchains a ha
  obtain ⟨hresult, hstate⟩ := ingestBatch_of_heightViolation ((ingestTransaction_heightViolation sha256).2 h) ho
    hformed.1.1.1.1 hchain
  rw [acceptedHashAt_eq ha hcompetes] at hresult hstate
  exact ⟨a, ha, o, List.mem_of_find?_eq_some ho, ⟨hcompetes, hhash⟩, hresult, _, rfl, rfl, rfl, rfl, rfl, hstate⟩

variable (sha256 batch db) in
/-- A conflicting batch is refused exactly, for every store, where it runs into the accepted height at all and its
first accepted block is one that conflicts. -/
theorem refused_exactly_iff (hchains : db.ChainsRegistered)
    (hconflict : ∃ a ∈ db.chainBlocks.table.rows, ∃ b ∈ batch.blocks, a.contradicts b) :
    RefusedExactly sha256 batch db ↔ HeightRefused db batch.blocks ∧
      ∃ o ∈ offendingBlock batch.blocks, ∃ a ∈ db.chainBlocks.table.rows, a.contradicts o := by
  obtain ⟨o, ho⟩ : ∃ o, offendingBlock batch.blocks = some o := by
    obtain ⟨a, -, b, hb, hcompetes, -⟩ := hconflict
    simp only [BlockFact.competes, Bool.and_eq_true, decide_eq_true_eq] at hcompetes
    rw [← Option.isSome_iff_exists, offendingBlock, List.find?_isSome]
    exact ⟨b, hb, by simpa using hcompetes.1.1.2⟩
  constructor
  · intro h
    obtain ⟨hrefused, hblamed⟩ := h.blames ho
    exact ⟨hrefused, o, ho, hblamed⟩
  · rintro ⟨hrefused, o', ho', a, ha, hblamed⟩
    exact hrefused.exactly hchains ho' ha hblamed

end Exact

/-! ## Two batches -/

/-- The chain `c` with a block accepted at height 10. -/
def sampleLedger : Db := ledgerAfter id ["d"] ["c"] [.ingested (sampleBatch [sampleBlock .accepted 10 'a'] 10)]

theorem sampleLedger_rows : sampleLedger.chainBlocks.table.rows = [sampleBlock .accepted 10 'a'] := by
  decide +kernel

theorem sampleBlock_contradicts : (sampleBlock .accepted 10 'a').contradicts (sampleBlock .accepted 10 'c') := by
  constructor <;> decide +kernel

/-- A batch that leads with the conflicting block is refused exactly. -/
theorem refused_exactly_sample :
    RefusedExactly id (sampleBatch [sampleBlock .accepted 10 'c', sampleBlock .accepted 11 'b'] 11) sampleLedger := by
  have hstored : sampleBlock .accepted 10 'a' ∈ sampleLedger.chainBlocks.table.rows := by
    rw [sampleLedger_rows]
    exact List.mem_singleton_self _
  refine (refused_exactly_iff id _ _ (ledgerAfter_chainsRegistered _ _ _ _)
    ⟨_, hstored, _, List.mem_cons_self, sampleBlock_contradicts⟩).2
    ⟨⟨[], _, _, rfl, ?_, ?_, ?_, ?_, ?_⟩, _, rfl, _, hstored, sampleBlock_contradicts⟩
  · exact fun x hx => absurd hx List.not_mem_nil
  · exact sampleLedger.chainBlocks.oneAcceptedPerHeight
  · decide +kernel
  · decide +kernel
  · exact ⟨_, hstored, sampleBlock_contradicts.1⟩

/-- Where a new height precedes the conflicting one, the incident names the new height and no stored hash. -/
theorem conflict_blames_first_block :
    let batch := sampleBatch [sampleBlock .accepted 11 'b', sampleBlock .accepted 10 'c'] 11
    (∃ a ∈ sampleLedger.chainBlocks.table.rows, ∃ b ∈ batch.blocks, a.contradicts b) ∧
      (ingestBatch id batch sampleLedger).state.integrityIncidents.rows.map
        (fun i => (i.blockNumber, i.expectedHash, i.observedHash)) = [(some 11, none, some (sampleHash 'b'))] ∧
      ¬ RefusedExactly id batch sampleLedger := by
  intro batch
  refine ⟨⟨sampleBlock .accepted 10 'a', ?_, sampleBlock .accepted 10 'c', by simp [batch, sampleBatch],
    sampleBlock_contradicts⟩, ?_, fun h => ?_⟩
  · rw [sampleLedger_rows]
    exact List.mem_singleton_self _
  · decide +kernel
  · obtain ⟨-, a, ha, hcompetes, -⟩ := h.blames (o := sampleBlock .accepted 11 'b') rfl
    rw [sampleLedger_rows, List.mem_singleton] at ha
    subst ha
    exact absurd hcompetes (by decide)

end IcttSentinel.Storage
