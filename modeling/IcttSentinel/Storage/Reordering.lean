/-
Batches of the same facts. A batch is stored, or refused, whatever order its blocks and logs come in and
whatever time they were observed at, as long as it reports each block hash and each log one way; and the
tables hold the same facts afterwards.
-/
import IcttSentinel.Storage.Ledger

namespace IcttSentinel.Storage

open IcttSentinel.Lib

/-- A block without the time it was observed at. -/
def BlockFact.untimed (b : BlockFact) : BlockFact := { b with observedAt := 0 }

/-- A log without the time it was observed at. -/
def LogFact.untimed (l : LogFact) : LogFact := { l with observedAt := 0 }

/-- The tables of two stores hold the same facts, observed at any time and in any order. -/
structure Db.Alike (db db' : Db) : Prop where
  blocks : (db.chainBlocks.table.rows.map BlockFact.untimed).Perm (db'.chainBlocks.table.rows.map BlockFact.untimed)
  logs : (db.chainLogs.rows.map LogFact.untimed).Perm (db'.chainLogs.rows.map LogFact.untimed)
  rest : { db' with chainBlocks := db.chainBlocks, chainLogs := db.chainLogs } = db

/-! ## Storing blocks -/

/-- A block that passes the checks of its columns. -/
def BlockFact.formed (b : BlockFact) : Bool :=
  fitsBigint b.blockNumber && fitsBigint b.blockTimestamp && matchesHex "0x" 64 b.blockHash &&
    matchesHex "0x" 64 b.parentHash && decide (0 ≤ b.blockNumber)

/-- At most one accepted block for each height. -/
def OneAccepted (t : Keyed BlockFact.key) : Prop :=
  ∀ a ∈ t.rows, ∀ b ∈ t.rows, a.competes b = true → a = b

/-- A store with other blocks. -/
def Db.withBlocks (db : Db) (t : Keyed BlockFact.key) (h : OneAccepted t) : Db := { db with chainBlocks := ⟨t, h⟩ }

theorem withBlocks_self {db : Db} {t : Keyed BlockFact.key} (ht : t = db.chainBlocks.table) (h : OneAccepted t) :
    db.withBlocks t h = db := by
  subst ht
  rfl

theorem insertIfAbsent_of_has {t : Keyed BlockFact.key} {b : BlockFact} (h : t.has b.key = true) : t.insertIfAbsent b = t := by
  apply Keyed.ext
  rw [Keyed.rows_insertIfAbsent, if_pos h]

/-- A new block is accepted for its height exactly when the table with it has one accepted block for each. -/
theorem chainBlocks_insert_eq_ok {t t' : ChainBlocks} {b : BlockFact} (hnew : t.table.has b.key = false) :
    t.insert b = .ok t' ↔ OneAccepted (t.table.insertIfAbsent b) ∧ t'.table = t.table.insertIfAbsent b := by
  unfold ChainBlocks.insert
  split
  · rename_i hcompetes
    obtain ⟨a, ha, hab⟩ := hcompetes
    refine iff_of_false (fun h => by cases h) fun h => ?_
    -- the competing block would be the new one
    obtain rfl := h.1 a (Keyed.mem_insertIfAbsent.2 (Or.inl ha)) b (Keyed.mem_insertIfAbsent.2 (Or.inr ⟨rfl, hnew⟩)) hab
    exact Keyed.has_eq_false.1 hnew a ha rfl
  · rw [Except.ok.injEq]
    constructor
    · intro ht
      rw [← ht]
      refine ⟨?_, rfl⟩
      have hone := t'.oneAcceptedPerHeight
      rw [← ht] at hone
      exact hone
    · rintro ⟨-, htable⟩
      cases t'
      cases htable
      rfl

theorem insertBlock_eq_ok {db db' : Db} {b : BlockFact} : (∃ n, insertBlock db b = .ok (n, db')) ↔
    b.formed = true ∧ (db.chainBlocks.table.has b.key = true ∨ b.chainKey ∈ db.chains) ∧
      ∃ h : OneAccepted (db.chainBlocks.table.insertIfAbsent b), db' = db.withBlocks _ h := by
  unfold insertBlock BlockFact.formed
  simp only [bind_eq_ok, ensure_eq_ok, Bool.and_eq_true, exists_and_left, exists_const, and_assoc]
  iterate 5 refine and_congr_right fun _ => ?_
  cases hhas : db.chainBlocks.table.has b.key with
  | true =>
    have hsame := insertIfAbsent_of_has hhas
    have hone : OneAccepted (db.chainBlocks.table.insertIfAbsent b) := by
      rw [hsame]
      exact db.chainBlocks.oneAcceptedPerHeight
    constructor
    · rintro ⟨n, h⟩
      cases h
      exact ⟨Or.inl rfl, hone, (withBlocks_self hsame hone).symm⟩
    · rintro ⟨-, -, rfl⟩
      rw [withBlocks_self hsame]
      exact ⟨0, rfl⟩
  | false =>
    simp only [Bool.false_eq_true, if_false, bind_eq_ok, ensure_eq_ok, false_or, List.contains_iff_mem]
    constructor
    · rintro ⟨n, chainBlocks, hinsert, _, hchain, h⟩
      obtain ⟨hone, htable⟩ := (chainBlocks_insert_eq_ok hhas).1 hinsert
      cases h
      refine ⟨hchain, hone, ?_⟩
      cases chainBlocks
      cases htable
      rfl
    · rintro ⟨hchain, hone, rfl⟩
      exact ⟨1, ⟨_, hone⟩, (chainBlocks_insert_eq_ok hhas).2 ⟨hone, rfl⟩, (), hchain, rfl⟩

theorem has_insertIfAbsent {ρ κ : Type} [DecidableEq κ] {key : ρ → κ} {t : Keyed key} {r : ρ} {k : κ} :
    (t.insertIfAbsent r).has k = true ↔ t.has k = true ∨ key r = k := by
  rw [Keyed.has_iff, Keyed.has_iff]
  simp only [Keyed.mem_insertIfAbsent]
  constructor
  · rintro ⟨x, hx | ⟨rfl, -⟩, hk⟩
    · exact Or.inl ⟨x, hx, hk⟩
    · exact Or.inr hk
  · rintro (⟨x, hx, hk⟩ | hk)
    · exact ⟨x, Or.inl hx, hk⟩
    · cases hhas : t.has (key r) with
      | true =>
        obtain ⟨x, hx, hxr⟩ := Keyed.has_iff.1 hhas
        exact ⟨x, Or.inl hx, hxr.trans hk⟩
      | false => exact ⟨r, Or.inr ⟨rfl, rfl⟩, hk⟩

theorem insertEach_cons_eq_ok {α : Type} {insert : Db → α → Except Violation (Nat × Db)} {row : α} {rows : List α}
    {db db' : Db} : (∃ n, insertEach insert db (row :: rows) = .ok (n, db')) ↔
      ∃ db₁, (∃ n, insert db row = .ok (n, db₁)) ∧ ∃ n, insertEach insert db₁ rows = .ok (n, db') := by
  simp only [insertEach, bind_eq_ok, Prod.exists]
  constructor
  · rintro ⟨_, n, db₁, hrow, m, db₂, hrows, h⟩
    cases h
    exact ⟨db₁, ⟨n, hrow⟩, m, hrows⟩
  · rintro ⟨db₁, ⟨n, hrow⟩, m, hrows⟩
    exact ⟨n + m, n, db₁, hrow, m, db', hrows, rfl⟩

/-- Blocks are stored exactly when each is well formed, on a registered chain, and the table with all of them
has one accepted block for each height. -/
theorem insertBlocks_eq_ok {db db' : Db} {blocks : List BlockFact} : (∃ n, insertBlocks db blocks = .ok (n, db')) ↔
    (∀ b ∈ blocks, b.formed = true ∧ (db.chainBlocks.table.has b.key = true ∨ b.chainKey ∈ db.chains)) ∧
      ∃ h : OneAccepted (db.chainBlocks.table.insertAll blocks), db' = db.withBlocks _ h := by
  induction blocks generalizing db with
  | nil =>
    constructor
    · rintro ⟨n, h⟩
      cases h
      exact ⟨fun b hb => absurd hb List.not_mem_nil, ChainBlocks.oneAcceptedPerHeight _, rfl⟩
    · rintro ⟨-, h, rfl⟩
      exact ⟨0, rfl⟩
  | cons b blocks ih =>
    unfold insertBlocks at ih ⊢
    rw [insertEach_cons_eq_ok, List.forall_mem_cons]
    -- the first block brings its own key, whose chain is registered
    have hkeys : ∀ c : BlockFact, (b.formed = true ∧ (db.chainBlocks.table.has b.key = true ∨ b.chainKey ∈ db.chains)) →
        (((db.chainBlocks.table.insertIfAbsent b).has c.key = true ∨ c.chainKey ∈ db.chains) ↔
          (db.chainBlocks.table.has c.key = true ∨ c.chainKey ∈ db.chains)) := by
      rintro c ⟨-, hb⟩
      rw [has_insertIfAbsent]
      constructor
      · rintro ((hc | hc) | hc)
        · exact Or.inl hc
        · have hchain : b.chainKey = c.chainKey := congrArg Prod.fst hc
          rw [← hc, ← hchain]
          exact hb
        · exact Or.inr hc
      · exact Or.imp_left Or.inl
    constructor
    · rintro ⟨db₁, hrow, hrows⟩
      obtain ⟨hformed, hchain, hone, rfl⟩ := insertBlock_eq_ok.1 hrow
      obtain ⟨hall, hone', rfl⟩ := ih.1 hrows
      refine ⟨⟨⟨hformed, hchain⟩, fun c hc => ⟨(hall c hc).1, ?_⟩⟩, hone', rfl⟩
      exact (hkeys c ⟨hformed, hchain⟩).1 (hall c hc).2
    · rintro ⟨⟨hb, hall⟩, hone, rfl⟩
      have hstored : ∀ a ∈ (db.chainBlocks.table.insertIfAbsent b).rows,
          a ∈ (db.chainBlocks.table.insertAll (b :: blocks)).rows := by
        intro a ha
        rw [Keyed.insertAll_cons]
        exact Keyed.mem_insertAll.2 (Or.inl ha)
      have hsub : OneAccepted (db.chainBlocks.table.insertIfAbsent b) := fun a ha c hc =>
        hone a (hstored a ha) c (hstored c hc)
      refine ⟨db.withBlocks _ hsub, insertBlock_eq_ok.2 ⟨hb.1, hb.2, hsub, rfl⟩, ?_⟩
      exact ih.2 ⟨fun c hc => ⟨(hall c hc).1, (hkeys c hb).2 (hall c hc).2⟩, hone, rfl⟩

/-! ## Storing logs -/

/-- A log that passes the checks of its columns. -/
def LogFact.formed (l : LogFact) : Bool :=
  (fitsBigint l.blockNumber && fitsInteger l.logIndex && fitsInteger l.txIndex) && matchesHex "0x" 64 l.txHash &&
    matchesHex "0x" 40 l.address && decide (0 ≤ l.logIndex) && decide (0 ≤ l.txIndex) && decide (l.topics.length ≤ 4)

/-- A store with other logs. -/
def Db.withLogs (db : Db) (t : Keyed LogFact.key) : Db := { db with chainLogs := t }

theorem insertLog_eq_ok {db db' : Db} {l : LogFact} : (∃ n, insertLog db l = .ok (n, db')) ↔
    l.formed = true ∧ (db.chainLogs.has l.key = true ∨ db.chainBlocks.table.has (l.chainKey, l.blockHash) = true) ∧
      db' = db.withLogs (db.chainLogs.insertIfAbsent l) := by
  unfold insertLog LogFact.formed
  simp only [bind_eq_ok, ensure_eq_ok, Bool.and_eq_true, exists_and_left, exists_const, and_assoc]
  iterate 8 refine and_congr_right fun _ => ?_
  cases hhas : db.chainLogs.has l.key with
  | true =>
    have hsame : db.chainLogs.insertIfAbsent l = db.chainLogs := by
      apply Keyed.ext
      rw [Keyed.rows_insertIfAbsent, if_pos hhas]
    rw [hsame]
    constructor
    · rintro ⟨n, h⟩
      cases h
      exact ⟨Or.inl rfl, rfl⟩
    · rintro ⟨-, rfl⟩
      exact ⟨0, rfl⟩
  | false =>
    simp only [Bool.false_eq_true, if_false, bind_eq_ok, ensure_eq_ok, false_or]
    constructor
    · rintro ⟨n, _, hblock, h⟩
      cases h
      exact ⟨hblock, rfl⟩
    · rintro ⟨hblock, rfl⟩
      exact ⟨1, (), hblock, rfl⟩

/-- Logs are stored exactly when each is well formed and has its block. -/
theorem insertLogs_eq_ok {db db' : Db} {logs : List LogFact} : (∃ n, insertLogs db logs = .ok (n, db')) ↔
    (∀ l ∈ logs, l.formed = true ∧
      (db.chainLogs.has l.key = true ∨ db.chainBlocks.table.has (l.chainKey, l.blockHash) = true)) ∧
      db' = db.withLogs (db.chainLogs.insertAll logs) := by
  induction logs generalizing db with
  | nil =>
    constructor
    · rintro ⟨n, h⟩
      cases h
      exact ⟨fun l hl => absurd hl List.not_mem_nil, rfl⟩
    · rintro ⟨-, rfl⟩
      exact ⟨0, rfl⟩
  | cons l logs ih =>
    unfold insertLogs at ih ⊢
    rw [insertEach_cons_eq_ok, List.forall_mem_cons]
    -- a log that was just inserted admits another only at its own key, whose block it has already shown
    have hkeys : ∀ c : LogFact, (l.formed = true ∧
        (db.chainLogs.has l.key = true ∨ db.chainBlocks.table.has (l.chainKey, l.blockHash) = true)) →
        (((db.chainLogs.insertIfAbsent l).has c.key = true ∨ db.chainBlocks.table.has (c.chainKey, c.blockHash) = true) ↔
          (db.chainLogs.has c.key = true ∨ db.chainBlocks.table.has (c.chainKey, c.blockHash) = true)) := by
      rintro c ⟨-, hl⟩
      rw [has_insertIfAbsent]
      constructor
      · rintro ((hc | hc) | hc)
        · exact Or.inl hc
        · have hblock : (l.chainKey, l.blockHash) = (c.chainKey, c.blockHash) := by
            simp only [LogFact.key, Prod.mk.injEq] at hc ⊢
            exact ⟨hc.1, hc.2.1⟩
          rw [← hc, ← hblock]
          exact hl
        · exact Or.inr hc
      · exact Or.imp_left Or.inl
    constructor
    · rintro ⟨db₁, hrow, hrows⟩
      obtain ⟨hformed, hblock, rfl⟩ := insertLog_eq_ok.1 hrow
      obtain ⟨hall, rfl⟩ := ih.1 hrows
      refine ⟨⟨⟨hformed, hblock⟩, fun c hc => ⟨(hall c hc).1, ?_⟩⟩, rfl⟩
      exact (hkeys c ⟨hformed, hblock⟩).1 (hall c hc).2
    · rintro ⟨⟨hl, hall⟩, rfl⟩
      refine ⟨_, insertLog_eq_ok.2 ⟨hl.1, hl.2, rfl⟩, ?_⟩
      exact ih.2 ⟨fun c hc => ⟨(hall c hc).1, (hkeys c hl).2 (hall c hc).2⟩, rfl⟩

/-! ## A whole batch -/

/-- A checkpoint moves whatever facts are stored. -/
theorem advanceIfGiven_with {db db' : Db} {t : Keyed BlockFact.key} {h : OneAccepted t} {u : Keyed LogFact.key}
    {c : Option Checkpoint} {advanced : Bool} :
    advanceIfGiven ((db.withBlocks t h).withLogs u) c = .ok (advanced, db') ↔
      ∃ d, advanceIfGiven db c = .ok (advanced, d) ∧ db' = (d.withBlocks t h).withLogs u := by
  cases c with
  | none =>
    constructor
    · intro hadvance
      cases hadvance
      exact ⟨db, rfl, rfl⟩
    · rintro ⟨d, hadvance, rfl⟩
      cases hadvance
      rfl
  | some c =>
    unfold advanceIfGiven advanceCheckpoint
    have hstored : storedCheckpoint ((db.withBlocks t h).withLogs u) c.deploymentId c.chainKey =
        storedCheckpoint db c.deploymentId c.chainKey := rfl
    simp only [bind_eq_ok, ensure_eq_ok, hstored]
    cases storedCheckpoint db c.deploymentId c.chainKey with
    | none =>
      constructor
      · rintro ⟨_, h₁, _, h₂, _, h₃, _, h₄, _, h₅, hadvance⟩
        cases hadvance
        exact ⟨_, ⟨(), h₁, (), h₂, (), h₃, (), h₄, (), h₅, rfl⟩, rfl⟩
      · rintro ⟨d, ⟨_, h₁, _, h₂, _, h₃, _, h₄, _, h₅, hadvance⟩, rfl⟩
        cases hadvance
        exact ⟨(), h₁, (), h₂, (), h₃, (), h₄, (), h₅, rfl⟩
    | some stored =>
      by_cases hlower : stored.lastBlockNumber < c.lastBlockNumber
      · simp only [if_pos hlower]
        constructor
        · rintro ⟨_, h₁, _, h₂, _, h₃, _, h₄, _, h₅, hadvance⟩
          cases hadvance
          exact ⟨_, ⟨(), h₁, (), h₂, (), h₃, (), h₄, (), h₅, rfl⟩, rfl⟩
        · rintro ⟨d, ⟨_, h₁, _, h₂, _, h₃, _, h₄, _, h₅, hadvance⟩, rfl⟩
          cases hadvance
          exact ⟨(), h₁, (), h₂, (), h₃, (), h₄, (), h₅, rfl⟩
      · simp only [if_neg hlower]
        constructor
        · rintro ⟨_, h₁, _, h₂, _, h₃, _, h₄, _, h₅, hadvance⟩
          cases hadvance
          exact ⟨_, ⟨(), h₁, (), h₂, (), h₃, (), h₄, (), h₅, rfl⟩, rfl⟩
        · rintro ⟨d, ⟨_, h₁, _, h₂, _, h₃, _, h₄, _, h₅, hadvance⟩, rfl⟩
          cases hadvance
          exact ⟨(), h₁, (), h₂, (), h₃, (), h₄, (), h₅, rfl⟩

theorem ingestTransaction_eq_ok (sha256 : String → String) {batch : IngestBatch} (hobservations : batch.observations = [])
    {db db' : Db} : (∃ outcome, ingestTransaction sha256 batch db = .ok (outcome, db')) ↔
      ∃ d advanced, advanceIfGiven db batch.checkpoint = .ok (advanced, d) ∧
        (∀ b ∈ batch.blocks, b.formed = true ∧ (db.chainBlocks.table.has b.key = true ∨ b.chainKey ∈ db.chains)) ∧
        (∀ l ∈ batch.logs, l.formed = true ∧ (db.chainLogs.has l.key = true ∨
          (db.chainBlocks.table.insertAll batch.blocks).has (l.chainKey, l.blockHash) = true)) ∧
        ∃ h : OneAccepted (db.chainBlocks.table.insertAll batch.blocks),
          db' = (d.withBlocks _ h).withLogs (db.chainLogs.insertAll batch.logs) := by
  unfold ingestTransaction
  simp only [bind_eq_ok, Prod.exists, hobservations]
  constructor
  · rintro ⟨outcome, n, db₁, hblocks, m, db₂, hlogs, k, db₃, hnone, advanced, db₄, hadvance, h⟩
    cases hnone
    cases h
    obtain ⟨hformed, hone, rfl⟩ := insertBlocks_eq_ok.1 ⟨n, hblocks⟩
    obtain ⟨hbacked, rfl⟩ := insertLogs_eq_ok.1 ⟨m, hlogs⟩
    obtain ⟨d, hmoved, rfl⟩ := advanceIfGiven_with.1 hadvance
    exact ⟨d, advanced, hmoved, hformed, hbacked, hone, rfl⟩
  · rintro ⟨d, advanced, hadvance, hformed, hlogs, hone, rfl⟩
    obtain ⟨n, hblocks⟩ := insertBlocks_eq_ok.2 ⟨hformed, hone, rfl⟩
    obtain ⟨m, hlogs⟩ : ∃ m, insertLogs (db.withBlocks _ hone) batch.logs = .ok (m, _) := insertLogs_eq_ok.2 ⟨hlogs, rfl⟩
    exact ⟨_, n, _, hblocks, m, _, hlogs, 0, _, rfl, advanced, _, advanceIfGiven_with.2 ⟨d, hadvance, rfl⟩, rfl⟩

/-! ## Batches of the same facts -/

/-- Two batches of the same facts, observed at any time and in any order, where what is reported first for a
block hash or a log is the same. -/
structure IngestBatch.SameFacts (batch batch' : IngestBatch) : Prop where
  blocks : (batch.blocks.map BlockFact.untimed).Perm (batch'.blocks.map BlockFact.untimed)
  logs : (batch.logs.map LogFact.untimed).Perm (batch'.logs.map LogFact.untimed)
  firstBlocks : Keyed.SameFirst BlockFact.key BlockFact.untimed batch.blocks batch'.blocks
  firstLogs : Keyed.SameFirst LogFact.key LogFact.untimed batch.logs batch'.logs
  noObservations : batch.observations = [] ∧ batch'.observations = []
  checkpoint : batch'.checkpoint = batch.checkpoint

section SameFacts

variable {sha256 : String → String} {batch batch' : IngestBatch} {db : Db}

theorem BlockFact.of_untimed {a b : BlockFact} (h : a.untimed = b.untimed) :
    a.key = b.key ∧ a.formed = b.formed ∧ a.chainKey = b.chainKey := by
  have hkey : a.untimed.key = b.untimed.key := congrArg BlockFact.key h
  have hformed : a.untimed.formed = b.untimed.formed := congrArg BlockFact.formed h
  have hchain : a.untimed.chainKey = b.untimed.chainKey := congrArg BlockFact.chainKey h
  exact ⟨hkey, hformed, hchain⟩

theorem LogFact.of_untimed {a b : LogFact} (h : a.untimed = b.untimed) :
    a.key = b.key ∧ a.formed = b.formed ∧ (a.chainKey, a.blockHash) = (b.chainKey, b.blockHash) := by
  have hkey : a.untimed.key = b.untimed.key := congrArg LogFact.key h
  have hformed : a.untimed.formed = b.untimed.formed := congrArg LogFact.formed h
  have hblock : (a.untimed.chainKey, a.untimed.blockHash) = (b.untimed.chainKey, b.untimed.blockHash) := by
    rw [h]
  exact ⟨hkey, hformed, hblock⟩

theorem exists_untimed {α β : Type} {f : α → β} {l l' : List α} (h : (l.map f).Perm (l'.map f)) {a : α} (ha : a ∈ l') :
    ∃ b ∈ l, f b = f a :=
  List.mem_map.1 (h.mem_iff.2 (List.mem_map_of_mem ha))

theorem IngestBatch.SameFacts.symm (h : batch.SameFacts batch') : batch'.SameFacts batch where
  blocks := h.blocks.symm
  logs := h.logs.symm
  firstBlocks := h.firstBlocks.symm
  firstLogs := h.firstLogs.symm
  noObservations := ⟨h.noObservations.2, h.noObservations.1⟩
  checkpoint := h.checkpoint.symm

/-- They leave the same tables. -/
theorem IngestBatch.SameFacts.tables (h : batch.SameFacts batch') (db : Db) :
    ((db.chainBlocks.table.insertAll batch.blocks).rows.map BlockFact.untimed).Perm
        ((db.chainBlocks.table.insertAll batch'.blocks).rows.map BlockFact.untimed) ∧
      ((db.chainLogs.insertAll batch.logs).rows.map LogFact.untimed).Perm
        ((db.chainLogs.insertAll batch'.logs).rows.map LogFact.untimed) :=
  ⟨Keyed.map_insertAll_perm BlockFact.key (fun _ => rfl) h.firstBlocks _,
    Keyed.map_insertAll_perm LogFact.key (fun _ => rfl) h.firstLogs _⟩

/-- Where one of them is stored, so is the other. -/
theorem IngestBatch.SameFacts.ingest (h : batch.SameFacts batch') {outcome : IngestOutcome} {db₁ : Db}
    (hingest : ingestTransaction sha256 batch db = .ok (outcome, db₁)) :
    ∃ outcome' db₂, ingestTransaction sha256 batch' db = .ok (outcome', db₂) ∧ db₁.Alike db₂ := by
  obtain ⟨d, advanced, hadvance, hblocks, hlogs, hone, rfl⟩ :=
    (ingestTransaction_eq_ok sha256 h.noObservations.1).1 ⟨outcome, hingest⟩
  obtain ⟨hsameBlocks, hsameLogs⟩ := h.tables db
  have hblocks' : ∀ b ∈ batch'.blocks, b.formed = true ∧
      (db.chainBlocks.table.has b.key = true ∨ b.chainKey ∈ db.chains) := by
    intro b hb
    obtain ⟨b₀, hb₀, hbb⟩ := exists_untimed h.blocks hb
    obtain ⟨hkey, hformed, hchain⟩ := BlockFact.of_untimed hbb
    rw [← hformed, ← hkey, ← hchain]
    exact hblocks b₀ hb₀
  -- the two tables differ in observation times only, which no check reads
  have hhas : ∀ k, (db.chainBlocks.table.insertAll batch.blocks).has k = true ↔
      (db.chainBlocks.table.insertAll batch'.blocks).has k = true := by
    intro k
    have hkeys := (hsameBlocks.map BlockFact.key).mem_iff (a := k)
    rw [List.map_map, List.map_map, List.mem_map, List.mem_map] at hkeys
    rw [Keyed.has_iff, Keyed.has_iff]
    exact hkeys
  have hlogs' : ∀ l ∈ batch'.logs, l.formed = true ∧ (db.chainLogs.has l.key = true ∨
      (db.chainBlocks.table.insertAll batch'.blocks).has (l.chainKey, l.blockHash) = true) := by
    intro l hl
    obtain ⟨l₀, hl₀, hll⟩ := exists_untimed h.logs hl
    obtain ⟨hkey, hformed, hblock⟩ := LogFact.of_untimed hll
    rw [← hformed, ← hkey, ← hblock, ← hhas]
    exact hlogs l₀ hl₀
  have hone' : OneAccepted (db.chainBlocks.table.insertAll batch'.blocks) := by
    intro a ha b hb hab
    obtain ⟨a₀, ha₀, haa⟩ := exists_untimed hsameBlocks ha
    obtain ⟨b₀, hb₀, hbb⟩ := exists_untimed hsameBlocks hb
    -- blocks compete by their chain, height and class
    have hcompetes : a₀.competes b₀ = a.untimed.competes b.untimed := by
      rw [← haa, ← hbb]
      rfl
    obtain rfl := hone a₀ ha₀ b₀ hb₀ (hcompetes.trans hab)
    apply Keyed.eq_of_key _ ha hb
    exact (BlockFact.of_untimed haa).1.symm.trans (BlockFact.of_untimed hbb).1
  have hadvance' := hadvance
  rw [← h.checkpoint] at hadvance'
  obtain ⟨outcome', hingest'⟩ := (ingestTransaction_eq_ok sha256 h.noObservations.2).2
    ⟨d, advanced, hadvance', hblocks', hlogs', hone', rfl⟩
  exact ⟨outcome', _, hingest', hsameBlocks, hsameLogs, rfl⟩

end SameFacts

end IcttSentinel.Storage
