/-
What an ingest that returns has stored. `ingestBatch` of packages/storage-postgres/src/ledger.ts inserts with `on
conflict do nothing`: a fact whose identity is stored already leaves the stored row as it is, whatever the fact says.
-/
import IcttSentinel.Storage.History

namespace IcttSentinel.Storage

open IcttSentinel.Lib

/-! ## The accepted-only projection -/

/-- The rows that `aggregate` of packages/storage-postgres/src/projection.ts sums and counts for a deployment: the
observations whose block is stored as accepted. -/
def acceptedObservations (db : Db) (deploymentId : String) : List ObservationFact :=
  db.observations.rows.filter fun o => decide (o.deploymentId = deploymentId) &&
    db.chainBlocks.table.rows.any fun b =>
      decide (b.key = (o.chainKey, o.blockHash)) && decide (b.observedClass = .accepted)

/-! ## Content -/

/-- The stored block has the content of the given one, and counts as accepted if that one does. -/
def BlockFact.Holds (stored given : BlockFact) : Prop :=
  stored.untimed = { given.untimed with observedClass := stored.observedClass } ∧
    (given.observedClass = .accepted → stored.observedClass = .accepted)

def LogFact.Holds (stored given : LogFact) : Prop := stored.untimed = given.untimed

/-- An observation without its id and the time it was made at. -/
def ObservationFact.content (o : ObservationFact) : ObservationFact := { o with observationId := "", observedAt := 0 }

def ObservationFact.Holds (stored given : ObservationFact) : Prop := stored.content = given.content

theorem BlockFact.Holds.key {stored given : BlockFact} (h : stored.Holds given) : stored.key = given.key := by
  have hkeys := congrArg BlockFact.key h.1
  exact hkeys

theorem LogFact.Holds.key {stored given : LogFact} (h : stored.Holds given) : stored.key = given.key := by
  have hkeys : stored.untimed.key = given.untimed.key := congrArg LogFact.key (show stored.untimed = given.untimed from h)
  exact hkeys

theorem ObservationFact.Holds.identity {stored given : ObservationFact} (h : stored.Holds given) :
    stored.identity = given.identity := by
  have hkeys : stored.content.identity = given.content.identity :=
    congrArg ObservationFact.identity (show stored.content = given.content from h)
  exact hkeys

/-! ## What is promised of a batch, and when -/

/-- The text that is digested of logs. -/
def logText (logs : List LogFact) : String := String.join ((sortOn LogFact.position logs).map LogFact.line)

/-- The stored logs that have the identity of a given one. -/
def storedLogs (db : Db) (logs : List LogFact) : List LogFact :=
  db.chainLogs.rows.filter fun r => logs.any fun l => decide (l.key = r.key)

/-- The batch is stored: every fact with the content given, every accepted block as accepted, so that from then on no
other hash is accepted at its height and its observations are projected; and the digest is that of the stored logs, in
whatever order they are read. -/
structure IngestStored (sha256 : String → String) (batch : IngestBatch) (outcome : IngestOutcome) (db : Db) : Prop where
  blocks : ∀ b ∈ batch.blocks, ∃ stored ∈ db.chainBlocks.table.rows, stored.Holds b
  logs : ∀ l ∈ batch.logs, ∃ stored ∈ db.chainLogs.rows, stored.Holds l
  observations : ∀ o ∈ batch.observations, ∃ stored ∈ db.observations.rows, stored.Holds o
  accepted : ∀ b ∈ batch.blocks, b.observedClass = .accepted → ∀ later : List LedgerEvent,
    let db' := later.foldl (ledgerStep sha256) db
    (∀ a ∈ db'.chainBlocks.table.rows, a.observedClass = .accepted → a.chainKey = b.chainKey →
      a.blockNumber = b.blockNumber → a.blockHash = b.blockHash) ∧
    ∀ o ∈ db'.observations.rows, (o.chainKey, o.blockHash) = b.key → o ∈ acceptedObservations db' o.deploymentId
  digest : ∀ rows : List LogFact, rows.Perm (storedLogs db batch.logs) →
    outcome.rangeDigest = canonicalLogDigest sha256 rows

/-- A fact of the batch says something else than the stored row of its identity. -/
def Contradicted (db : Db) (batch : IngestBatch) : Prop :=
  (∃ b ∈ batch.blocks, ∃ stored ∈ db.chainBlocks.table.rows, stored.key = b.key ∧ ¬stored.Holds b) ∨
    (∃ l ∈ batch.logs, ∃ stored ∈ db.chainLogs.rows, stored.key = l.key ∧ ¬stored.Holds l) ∨
    ∃ o ∈ batch.observations, ∃ stored ∈ db.observations.rows, stored.identity = o.identity ∧ ¬stored.Holds o

/-- The batch agrees with the ledger and with itself: under the identity of each of its facts the same content is
stored, or else comes first in the batch. It lists no log twice, and its logs at one position read alike in either
order. -/
structure Consistent (db : Db) (batch : IngestBatch) : Prop where
  blocks : ∀ b ∈ batch.blocks,
    ∀ first ∈ (db.chainBlocks.table.lookup b.key).or (batch.blocks.find? (·.key = b.key)), first.Holds b
  logs : ∀ l ∈ batch.logs, ∀ first ∈ (db.chainLogs.lookup l.key).or (batch.logs.find? (·.key = l.key)), first.Holds l
  observations : ∀ o ∈ batch.observations,
    ∀ first ∈ (db.observations.lookup o.identity).or (batch.observations.find? (·.identity = o.identity)), first.Holds o
  distinct : (batch.logs.map LogFact.key).Nodup
  ties : ∀ a ∈ batch.logs, ∀ b ∈ batch.logs, a.position = b.position → a.line ++ b.line = b.line ++ a.line

/-! ## The tables after a batch -/

theorem insertObservation_rows {db db' : Db} {o : ObservationFact} {n : Nat}
    (h : insertObservation db o = .ok (n, db')) : db' = { db with observations := db.observations.insertIfAbsent o } := by
  unfold insertObservation at h
  simp only [bind_eq_ok, ensure_eq_ok] at h
  obtain ⟨_, -, _, -, _, -, _, -, _, -, h⟩ := h
  split at h
  · rename_i hhas
    cases h
    have hsame : db.observations.insertIfAbsent o = db.observations := by
      apply Keyed.ext
      rw [Keyed.rows_insertIfAbsent, if_pos hhas]
    rw [hsame]
  · simp only [bind_eq_ok, ensure_eq_ok] at h
    obtain ⟨_, -, _, -, _, -, h⟩ := h
    cases h
    rfl

theorem insertObservations_rows {db db' : Db} {observations : List ObservationFact} {n : Nat}
    (h : insertObservations db observations = .ok (n, db')) :
    db' = { db with observations := db.observations.insertAll observations } := by
  induction observations generalizing db n with
  | nil =>
    cases h
    rfl
  | cons o observations ih =>
    obtain ⟨db₁, ⟨m, hfirst⟩, k, hrest⟩ := insertEach_cons_eq_ok.1 ⟨n, h⟩
    rw [ih hrest, insertObservation_rows hfirst]
    rfl

theorem advanceIfGiven_rest {db db' : Db} {c : Option Checkpoint} {advanced : Bool}
    (h : advanceIfGiven db c = .ok (advanced, db')) : ∃ replayCheckpoints, db' = { db with replayCheckpoints } := by
  cases c with
  | none =>
    cases h
    exact ⟨db.replayCheckpoints, rfl⟩
  | some c => exact (advanceCheckpoint_ok h).2.1

section Ingest

variable {sha256 : String → String} {batch : IngestBatch} {db db' : Db} {outcome : IngestOutcome}

/-- What a committed batch leaves: in each table what was there and, under every new identity, the first of the batch. -/
theorem ingestTransaction_tables (h : ingestTransaction sha256 batch db = .ok (outcome, db')) :
    db'.chainBlocks.table = db.chainBlocks.table.insertAll batch.blocks ∧
      db'.chainLogs = db.chainLogs.insertAll batch.logs ∧
      db'.observations = db.observations.insertAll batch.observations ∧
      outcome.rangeDigest = sha256 (logText batch.logs) := by
  unfold ingestTransaction at h
  simp only [bind_eq_ok, Prod.exists] at h
  obtain ⟨n, db₁, hblocks, m, db₂, hlogs, _, db₃, hobservations, advanced, db₄, hcheckpoint, h⟩ := h
  obtain ⟨rfl, rfl⟩ := Prod.mk.inj (Except.ok.inj h)
  obtain ⟨-, hone, rfl⟩ := insertBlocks_eq_ok.1 ⟨n, hblocks⟩
  obtain ⟨-, rfl⟩ := insertLogs_eq_ok.1 ⟨m, hlogs⟩
  obtain rfl := insertObservations_rows hobservations
  obtain ⟨replayCheckpoints, rfl⟩ := advanceIfGiven_rest hcheckpoint
  exact ⟨rfl, rfl, rfl, rfl⟩

/-- A batch that returns has committed. -/
theorem ingestBatch_returns (h : (ingestBatch sha256 batch db).result = .ok outcome) :
    ingestTransaction sha256 batch db = .ok (outcome, (ingestBatch sha256 batch db).state) := by
  have hmeets : (ingestBatch sha256 batch db).Meets (fun _ => True)
      (fun outcome db' => ingestTransaction sha256 batch db = .ok (outcome, db')) fun _ _ => True :=
    meets_ingestBatch (fun _ _ h => ⟨trivial, h⟩) (fun _ _ _ => trivial) fun _ _ _ => trivial
  exact hmeets.ok outcome h

end Ingest

/-! ## The digest -/

section Digest

variable {db : Db} {logs : List LogFact}

theorem toList_logText (logs : List LogFact) :
    (logText logs).toList = (sortOn LogFact.position logs).flatMap fun l => l.line.toList := by
  unfold logText
  rw [String.toList_join, List.flatMap_map]

theorem logText_inj {logs logs' : List LogFact} : logText logs = logText logs' ↔
    (sortOn LogFact.position logs).flatMap (fun l => l.line.toList) =
      (sortOn LogFact.position logs').flatMap fun l => l.line.toList := by
  rw [← toList_logText, ← toList_logText, String.toList_inj]

/-- The time a log was observed at is not digested. -/
theorem logText_untimed (logs : List LogFact) : logText (logs.map LogFact.untimed) = logText logs := by
  unfold logText
  rw [sortOn_map (f := LogFact.position) (g := LogFact.untimed) (fun _ => rfl), List.map_map]
  rfl

/-- The text is the same in every order exactly if logs at one position read alike in either order. -/
theorem logText_perm_iff : (∀ rows : List LogFact, rows.Perm logs → logText rows = logText logs) ↔
    ∀ a ∈ logs, ∀ b ∈ logs, a.position = b.position → a.line ++ b.line = b.line ++ a.line := by
  simp only [logText_inj]
  rw [flatMap_sortOn_perm_iff]
  simp only [← String.toList_append, String.toList_inj]

theorem line_ne_nil (l : LogFact) : l.line.toList ≠ [] := by
  simp [LogFact.line]

/-- The text of a list that repeats a log is longer than the text of its logs. -/
theorem nodup_of_logText {once : List LogFact} (honce : once.Nodup) (hsub : ∀ l ∈ once, l ∈ logs)
    (h : logText logs = logText once) : logs.Nodup := by
  let written (l : LogFact) : List Char := l.line.toList
  have hlength : ∀ m : List LogFact, (logText m).toList.length = (m.flatMap written).length := by
    intro m
    rw [toList_logText]
    exact ((sortOn_perm _ m).flatMap_right _).length_eq
  obtain ⟨part, hsome, hsublist⟩ := honce.subperm hsub
  obtain ⟨rest, hrest⟩ := hsublist.exists_perm_append
  replace hrest : logs.Perm (once ++ rest) := hrest.trans (hsome.append_right rest)
  have hsum := (hlength logs).symm.trans ((congrArg (fun t => t.toList.length) h).trans (hlength once))
  rw [(hrest.flatMap_right written).length_eq, List.flatMap_append, List.length_append] at hsum
  have hnone : rest.flatMap written = [] := List.length_eq_zero_iff.1 (by omega)
  have hempty : rest = [] := by
    cases rest with
    | nil => rfl
    | cons l rest => exact absurd (List.flatMap_eq_nil_iff.1 hnone l List.mem_cons_self) (line_ne_nil l)
  rw [hempty, List.append_nil] at hrest
  exact hrest.nodup_iff.2 honce

theorem LogFact.Holds.reads {stored given : LogFact} (h : stored.Holds given) :
    stored.position = given.position ∧ stored.line = given.line := by
  have hposition := congrArg LogFact.position (show stored.untimed = given.untimed from h)
  have hline := congrArg LogFact.line (show stored.untimed = given.untimed from h)
  exact ⟨hposition, hline⟩

/-- Logs that read the same in turn have the same ties. -/
theorem ties_of_holds {logs logs' : List LogFact} (h : ∀ l ∈ logs, ∃ l' ∈ logs', l'.Holds l)
    (hties : ∀ a ∈ logs', ∀ b ∈ logs', a.position = b.position → a.line ++ b.line = b.line ++ a.line) :
    ∀ a ∈ logs, ∀ b ∈ logs, a.position = b.position → a.line ++ b.line = b.line ++ a.line := by
  intro a ha b hb hab
  obtain ⟨a', ha', haa⟩ := h a ha
  obtain ⟨b', hb', hbb⟩ := h b hb
  rw [← haa.reads.2, ← hbb.reads.2]
  exact hties a' ha' b' hb' (by rw [haa.reads.1, hbb.reads.1, hab])

/-- The stored logs of a stored batch are, observation times aside, its logs without repetition. -/
theorem storedLogs_untimed (h : ∀ l ∈ logs, ∃ stored ∈ db.chainLogs.rows, stored.Holds l) :
    ((storedLogs db logs).map LogFact.untimed).Nodup ∧
      (∀ l ∈ logs, ∃ stored ∈ storedLogs db logs, stored.Holds l) ∧ ∀ x ∈ storedLogs db logs, ∃ l ∈ logs, l.Holds x := by
  refine ⟨?_, fun l hl => ?_, fun x hx => ?_⟩
  · have hkeys : ((storedLogs db logs).map LogFact.untimed).map LogFact.key = (storedLogs db logs).map LogFact.key := by
      rw [List.map_map]
      rfl
    refine List.Nodup.of_map LogFact.key ?_
    rw [hkeys]
    exact db.chainLogs.nodup.sublist (List.filter_sublist.map _)
  · obtain ⟨stored, hstored, hholds⟩ := h l hl
    refine ⟨stored, List.mem_filter.2 ⟨hstored, ?_⟩, hholds⟩
    exact List.any_eq_true.2 ⟨l, hl, decide_eq_true hholds.key.symm⟩
  · obtain ⟨hx, hany⟩ := List.mem_filter.1 hx
    obtain ⟨l, hl, hkey⟩ := List.any_eq_true.1 hany
    obtain ⟨stored, hstored, hholds⟩ := h l hl
    obtain rfl := db.chainLogs.eq_of_key hstored hx (hholds.key.trans (of_decide_eq_true hkey))
    exact ⟨l, hl, (show stored.untimed = l.untimed from hholds).symm⟩

/-- The text of a stored batch is that of the stored logs, however they are read, exactly if the batch lists no log
twice and its ties read alike. -/
theorem storedLogs_text_iff (h : ∀ l ∈ logs, ∃ stored ∈ db.chainLogs.rows, stored.Holds l) :
    (∀ rows : List LogFact, rows.Perm (storedLogs db logs) → logText rows = logText logs) ↔
      (logs.map LogFact.key).Nodup ∧
        ∀ a ∈ logs, ∀ b ∈ logs, a.position = b.position → a.line ++ b.line = b.line ++ a.line := by
  obtain ⟨honce, hfound, hgiven⟩ := storedLogs_untimed h
  have hmem : ∀ u, u ∈ (storedLogs db logs).map LogFact.untimed ↔ u ∈ logs.map LogFact.untimed := by
    intro u
    rw [List.mem_map, List.mem_map]
    constructor
    · rintro ⟨x, hx, rfl⟩
      exact hgiven x hx
    · rintro ⟨l, hl, rfl⟩
      exact hfound l hl
  have hkeys : (logs.map LogFact.untimed).map LogFact.key = logs.map LogFact.key := by
    rw [List.map_map]
    rfl
  constructor
  · intro hall
    have hself := hall _ (List.Perm.refl _)
    constructor
    · have hnodup : (logs.map LogFact.untimed).Nodup := by
        refine nodup_of_logText honce (fun u hu => (hmem u).1 hu) ?_
        rw [logText_untimed, logText_untimed, hself]
      rw [← hkeys]
      refine hnodup.map_on fun u hu v hv huv => ?_
      -- the logs of one key are stored in one row
      obtain ⟨x, hx, rfl⟩ := List.mem_map.1 ((hmem u).2 hu)
      obtain ⟨y, hy, rfl⟩ := List.mem_map.1 ((hmem v).2 hv)
      rw [db.chainLogs.eq_of_key (List.mem_filter.1 hx).1 (List.mem_filter.1 hy).1 huv]
    · refine ties_of_holds hfound (logText_perm_iff.1 fun rows hrows => ?_)
      rw [hall rows hrows, hself]
  · rintro ⟨hdistinct, hties⟩ rows hrows
    have hnodup : (logs.map LogFact.untimed).Nodup := by
      rw [← hkeys] at hdistinct
      exact hdistinct.of_map
    have hperm : ((storedLogs db logs).map LogFact.untimed).Perm (logs.map LogFact.untimed) :=
      (List.perm_ext_iff_of_nodup honce hnodup).2 hmem
    have huntimed : ∀ u ∈ logs.map LogFact.untimed, ∃ l ∈ logs, l.Holds u := by
      intro u hu
      obtain ⟨l, hl, rfl⟩ := List.mem_map.1 hu
      exact ⟨l, hl, rfl⟩
    calc logText rows = logText (storedLogs db logs) := logText_perm_iff.2 (ties_of_holds hgiven hties) rows hrows
      _ = logText ((storedLogs db logs).map LogFact.untimed) := (logText_untimed _).symm
      _ = logText (logs.map LogFact.untimed) := logText_perm_iff.2 (ties_of_holds huntimed hties) _ hperm
      _ = logText logs := logText_untimed logs

end Digest

/-! ## The batch as a whole -/

section Stored

variable {sha256 : String → String} {batch : IngestBatch} {db db' : Db} {outcome : IngestOutcome}

/-- A block that is stored as accepted stays the accepted one of its height, and its observations are projected. -/
theorem accepted_forever {b stored : BlockFact} (hstored : stored ∈ db.chainBlocks.table.rows) (hholds : stored.Holds b)
    (haccepted : b.observedClass = .accepted) (later : List LedgerEvent) :
    let db' := later.foldl (ledgerStep sha256) db
    (∀ a ∈ db'.chainBlocks.table.rows, a.observedClass = .accepted → a.chainKey = b.chainKey →
      a.blockNumber = b.blockNumber → a.blockHash = b.blockHash) ∧
    ∀ o ∈ db'.observations.rows, (o.chainKey, o.blockHash) = b.key → o ∈ acceptedObservations db' o.deploymentId := by
  intro db'
  have hlater : stored ∈ db'.chainBlocks.table.rows := (foldl_extends sha256 db later).blocks stored hstored
  have hclass := hholds.2 haccepted
  constructor
  · intro a ha haclass hchain hnumber
    have hsame : stored.blockNumber = b.blockNumber := by
      have hnumbers := congrArg BlockFact.blockNumber hholds.1
      exact hnumbers
    have hkey : stored.chainKey = b.chainKey ∧ stored.blockHash = b.blockHash := Prod.mk.inj hholds.key
    have hcompetes : a.competes stored = true := by
      simp [BlockFact.competes, haclass, hclass, hchain, hnumber, hsame, hkey.1]
    rw [db'.chainBlocks.oneAcceptedPerHeight a ha stored hlater hcompetes]
    exact hkey.2
  · intro o ho hblock
    refine List.mem_filter.2 ⟨ho, ?_⟩
    rw [Bool.and_eq_true, List.any_eq_true]
    refine ⟨decide_eq_true rfl, stored, hlater, ?_⟩
    simp [hholds.key, hblock, hclass]

/-- The facts of a committed batch are stored exactly if it agrees with what it finds. -/
theorem stored_facts_iff (h : ingestTransaction sha256 batch db = .ok (outcome, db')) :
    ((∀ b ∈ batch.blocks, ∃ stored ∈ db'.chainBlocks.table.rows, stored.Holds b) ↔
      ∀ b ∈ batch.blocks, ∀ first ∈ (db.chainBlocks.table.lookup b.key).or (batch.blocks.find? (·.key = b.key)),
        first.Holds b) ∧
    ((∀ l ∈ batch.logs, ∃ stored ∈ db'.chainLogs.rows, stored.Holds l) ↔
      ∀ l ∈ batch.logs, ∀ first ∈ (db.chainLogs.lookup l.key).or (batch.logs.find? (·.key = l.key)), first.Holds l) ∧
    ((∀ o ∈ batch.observations, ∃ stored ∈ db'.observations.rows, stored.Holds o) ↔
      ∀ o ∈ batch.observations,
        ∀ first ∈ (db.observations.lookup o.identity).or (batch.observations.find? (·.identity = o.identity)),
          first.Holds o) := by
  obtain ⟨hblocks, hlogs, hobservations, -⟩ := ingestTransaction_tables h
  rw [hblocks, hlogs, hobservations]
  refine ⟨forall₂_congr fun b hb => ?_, forall₂_congr fun l hl => ?_, forall₂_congr fun o ho => ?_⟩
  · exact Keyed.exists_mem_insertAll_iff (fun _ _ h => h.key) _ hb
  · exact Keyed.exists_mem_insertAll_iff (fun _ _ h => h.key) _ hl
  · exact Keyed.exists_mem_insertAll_iff (fun _ _ h => h.identity) _ ho

/-- A batch that agrees with the ledger contradicts no stored row. -/
theorem Consistent.not_contradicted (h : Consistent db batch) : ¬Contradicted db batch := by
  rintro (⟨b, hb, stored, hstored, hkey, hnot⟩ | ⟨l, hl, stored, hstored, hkey, hnot⟩ |
    ⟨o, ho, stored, hstored, hkey, hnot⟩)
  · exact hnot (h.blocks b hb stored (by simp [Keyed.lookup_eq_some.2 ⟨hstored, hkey⟩]))
  · exact hnot (h.logs l hl stored (by simp [Keyed.lookup_eq_some.2 ⟨hstored, hkey⟩]))
  · exact hnot (h.observations o ho stored (by simp [Keyed.lookup_eq_some.2 ⟨hstored, hkey⟩]))

/-- A batch that is ingested is stored, and contradicts nothing that was, if and only if it agrees with the ledger and
with itself. -/
theorem ingest_stored_iff (hreturns : (ingestBatch sha256 batch db).result = .ok outcome)
    (hsha : ∀ rows : List LogFact, rows.Perm (storedLogs (ingestBatch sha256 batch db).state batch.logs) →
      sha256 (logText batch.logs) = sha256 (logText rows) → logText batch.logs = logText rows) :
    (IngestStored sha256 batch outcome (ingestBatch sha256 batch db).state ∧ ¬Contradicted db batch) ↔
      Consistent db batch := by
  have hcommitted := ingestBatch_returns hreturns
  obtain ⟨-, -, -, hdigest⟩ := ingestTransaction_tables hcommitted
  obtain ⟨hblocks, hlogs, hobservations⟩ := stored_facts_iff hcommitted
  constructor
  · rintro ⟨h, -⟩
    have htext := (storedLogs_text_iff h.logs).1 fun rows hrows =>
      (hsha rows hrows (hdigest.symm.trans (h.digest rows hrows))).symm
    exact ⟨hblocks.1 h.blocks, hlogs.1 h.logs, hobservations.1 h.observations, htext.1, htext.2⟩
  · intro h
    refine ⟨⟨hblocks.2 h.blocks, hlogs.2 h.logs, hobservations.2 h.observations, ?_, fun rows hrows => ?_⟩,
      h.not_contradicted⟩
    · intro b hb haccepted later
      obtain ⟨stored, hstored, hholds⟩ := hblocks.2 h.blocks b hb
      exact accepted_forever hstored hholds haccepted later
    · rw [hdigest]
      exact congrArg sha256 ((storedLogs_text_iff (hlogs.2 h.logs)).2 ⟨h.distinct, h.ties⟩ rows hrows).symm

end Stored

/-! ### A candidate that is accepted later -/

def sampleCandidateSeen : Db := ledgerAfter id ["d"] ["c"] [.ingested (sampleBatch [sampleBlock .candidate 10 'a'] 9)]

/-- A block that was stored as a candidate is given as accepted: the batch returns, and the block stays a candidate. -/
theorem promoted_block_stays_candidate : ∃ outcome,
    (ingestBatch id (sampleBatch [sampleBlock .accepted 10 'a'] 10) sampleCandidateSeen).result = .ok outcome ∧
      ¬IngestStored id (sampleBatch [sampleBlock .accepted 10 'a'] 10) outcome
        (ingestBatch id (sampleBatch [sampleBlock .accepted 10 'a'] 10) sampleCandidateSeen).state := by
  have hrun : (ingestBatch id (sampleBatch [sampleBlock .accepted 10 'a'] 10) sampleCandidateSeen).result.isOk = true ∧
      ((ingestBatch id (sampleBatch [sampleBlock .accepted 10 'a'] 10)
        sampleCandidateSeen).state.chainBlocks.table.rows.all fun b => b.observedClass = .candidate) = true := by
    decide +kernel
  obtain ⟨hok, hrows⟩ := hrun
  cases hresult : (ingestBatch id (sampleBatch [sampleBlock .accepted 10 'a'] 10) sampleCandidateSeen).result with
  | error e =>
    rw [hresult] at hok
    cases hok
  | ok outcome =>
    refine ⟨outcome, rfl, fun h => ?_⟩
    obtain ⟨stored, hstored, -, hclass⟩ := h.blocks (sampleBlock .accepted 10 'a') (List.mem_singleton.2 rfl)
    have hcandidate := of_decide_eq_true (List.all_eq_true.1 hrows stored hstored)
    rw [hclass rfl] at hcandidate
    cases hcandidate

def ingestedLog (logIndex : Int) : LogFact where
  chainKey := "c"
  blockHash := sampleHash 'a'
  txHash := sampleHash 'f'
  logIndex
  blockNumber := 10
  txIndex := 0
  address := "0x" ++ String.ofList (List.replicate 40 'e')
  topics := []
  data := "0x"
  observedAt := 0

def ingestedObservation : ObservationFact where
  observationId := "o-1"
  deploymentId := "d"
  chainKey := "c"
  blockHash := sampleHash 'a'
  blockNumber := 10
  subject := "supply"
  amount := some 100
  finalityBasis := "accepted-quorum"
  providerGroups := ["alpha"]
  payloadDigest := String.ofList (List.replicate 64 'd')
  observedAt := 0
  expiresAt := 60

/-- The ledger after the block 10 and one of its logs. -/
def ingestedLedger : Db :=
  ledgerAfter id ["d"] ["c"] [.ingested { sampleBatch [sampleBlock .accepted 10 'a'] 10 with logs := [ingestedLog 0] }]

/-- The block once more, seen later, with the stored log, another one and an observation. -/
def ingestedBatch : IngestBatch :=
  { sampleBatch [{ sampleBlock .accepted 10 'a' with observedAt := 5 }] 10 with
    logs := [ingestedLog 1, ingestedLog 0]
    observations := [ingestedObservation] }

/-- What is stored is found again, and the rest is stored beside it. -/
theorem ingest_stored_iff_again : ∃ outcome,
    (ingestBatch id ingestedBatch ingestedLedger).result = .ok outcome ∧
      IngestStored id ingestedBatch outcome (ingestBatch id ingestedBatch ingestedLedger).state := by
  have hrun : (ingestBatch id ingestedBatch ingestedLedger).result.isOk = true ∧
      ingestedLedger.chainBlocks.table.rows = [sampleBlock .accepted 10 'a'] ∧
      ingestedLedger.chainLogs.rows = [ingestedLog 0] ∧ ingestedLedger.observations.rows = [] := by
    decide +kernel
  obtain ⟨hok, hblocks, hlogs, hobservations⟩ := hrun
  have hconsistent : Consistent ingestedLedger ingestedBatch := by
    refine ⟨?_, ?_, ?_, by decide +kernel, ?_⟩
    · unfold BlockFact.Holds Keyed.lookup
      rw [hblocks]
      decide +kernel
    · unfold LogFact.Holds Keyed.lookup
      rw [hlogs]
      decide +kernel
    · unfold ObservationFact.Holds Keyed.lookup
      rw [hobservations]
      decide +kernel
    · -- the logs are at two places
      intro a ha b hb hplace
      rcases List.mem_pair.1 ha with rfl | rfl <;> rcases List.mem_pair.1 hb with rfl | rfl
      · rfl
      · exact absurd hplace (by decide)
      · exact absurd hplace (by decide)
      · rfl
  cases hresult : (ingestBatch id ingestedBatch ingestedLedger).result with
  | error e =>
    rw [hresult] at hok
    cases hok
  | ok outcome =>
    refine ⟨outcome, rfl, ((ingest_stored_iff hresult fun rows _ h => ?_).2 hconsistent).1⟩
    rwa [id_eq, id_eq] at h

end IcttSentinel.Storage
