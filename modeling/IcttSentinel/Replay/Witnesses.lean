/-
Agreed witnesses and what they are stored as, packages/replay/src/engine.ts: the first witness of an agreed
range is ingested, and any other would do as well exactly when both report the fields no digest covers alike.
-/
import IcttSentinel.Replay.Facts

namespace IcttSentinel.Replay

open IcttSentinel.Lib IcttSentinel.Storage

/-! ## Equal facts -/

/-- Both transactions store the same facts, or neither stores any. -/
def SameLedger : Except Violation (IngestOutcome × Db) → Except Violation (IngestOutcome × Db) → Prop
  | .ok (_, db), .ok (_, db') => db.Alike db'
  | .error _, .error _ => True
  | _, _ => False

/-- Two witnesses carry the same facts, and it does not matter which of them is ingested. -/
structure EqualFacts (sha256 : String → String) (w w' : RangeResult) : Prop where
  blocks : (w.blocks.map BlockFact.untimed).Perm (w'.blocks.map BlockFact.untimed)
  logs : (w.logs.map LogFact.untimed).Perm (w'.logs.map LogFact.untimed)
  ledger : ∀ (config : ReplayConfig) (range : BlockRange) (db : Db),
    SameLedger (ingestTransaction sha256 (batchOf config range w) db) (ingestTransaction sha256 (batchOf config range w') db)

/-- What the digest covers of an accepted block. -/
def coveredOf (b : BlockFact) : String × Int × String := (b.chainKey, b.blockNumber, b.blockHash)

/-- What is stored of a block beside that and the time it was observed at. -/
def uncoveredOf (b : BlockFact) : String × Int := (b.parentHash, b.blockTimestamp)

/-- The accepted block of the two parts. -/
def ofParts (parts : (String × Int × String) × String × Int) : BlockFact where
  chainKey := parts.1.1
  blockNumber := parts.1.2.1
  blockHash := parts.1.2.2
  parentHash := parts.2.1
  blockTimestamp := parts.2.2
  observedClass := .accepted
  observedAt := 0

/-- The facts of the witness pass the checks of the columns. -/
structure Storable (w : RangeResult) : Prop where
  blocks : ∀ b ∈ w.blocks, b.formed = true
  logs : ∀ l ∈ w.logs, l.formed = true
  endBlockHash : matchesHex "0x" 64 w.endBlockHash = true

/-- Two witnesses report what the digest leaves out alike: the same parents and timestamps for each block, and, where
a block hash is reported in several ways, the same way first. -/
structure SameReports (w w' : RangeResult) : Prop where
  uncovered : ∀ covered, ((w.blocks.filter fun b => coveredOf b = covered).map uncoveredOf).Perm
    ((w'.blocks.filter fun b => coveredOf b = covered).map uncoveredOf)
  first : Storable w → ∀ a b, Keyed.IsFirst BlockFact.key w.blocks a → Keyed.IsFirst BlockFact.key w'.blocks b →
    a.key = b.key → a.untimed = b.untimed

/-- What one digest and their classification give about two witnesses. -/
structure OneDigest (w w' : RangeResult) : Prop where
  accepted : (∀ b ∈ w.blocks, b.observedClass = .accepted) ∧ ∀ b ∈ w'.blocks, b.observedClass = .accepted
  blocks : (w.blocks.map digestedOf).Perm (w'.blocks.map digestedOf)
  logs : (w.logs.map LogFact.untimed).Perm (w'.logs.map LogFact.untimed)
  endBlockHash : w.endBlockHash = w'.endBlockHash
  oneLog : Keyed.Determines LogFact.key w.logs ∧ Keyed.Determines LogFact.key w'.logs

theorem OneDigest.symm {w w' : RangeResult} (h : OneDigest w w') : OneDigest w' w :=
  ⟨⟨h.accepted.2, h.accepted.1⟩, h.blocks.symm, h.logs.symm, h.endBlockHash.symm, h.oneLog.2, h.oneLog.1⟩

/-- Agreed witnesses have one digest. -/
theorem oneDigest_of_agreed {sha256 : String → String} {observations : List RangeObservation}
    (hapart : DigestsApart sha256 observations) (hplain : ∀ o ∈ observations, o.PlainTexts) {results : List RangeResult}
    (hclassified : observations.map (classifyObservation sha256) = results.map .ok) {policy : AgreementPolicy}
    {digest : String} {witnesses : List RangeResult} (h : agree results policy = .agreed digest witnesses)
    {w w' : RangeResult} (hw : w ∈ witnesses) (hw' : w' ∈ witnesses) : OneDigest w w' := by
  obtain ⟨-, hdigest, -, hwitness, -⟩ := agree_agreed h
  have hobserved : ∀ x ∈ witnesses, ∃ o ∈ observations, classifyObservation sha256 o = .ok x := by
    intro x hx
    have hmem : RangeOutcome.ok x ∈ observations.map (classifyObservation sha256) := by
      rw [hclassified]
      exact List.mem_map_of_mem (hwitness x hx)
    exact List.mem_map.1 hmem
  obtain ⟨o, ho, hok⟩ := hobserved w hw
  obtain ⟨o', ho', hok'⟩ := hobserved w' hw'
  have hsame : w.digest = w'.digest := (hdigest w (hwitness w hw)).trans (hdigest w' (hwitness w' hw')).symm
  have hlogs := determines_of_not_hole (classifyObservation_noHole hok)
  have hlogs' := determines_of_not_hole (classifyObservation_noHole hok')
  obtain ⟨rfl, haccepted, -⟩ := classifyObservation_ok hok
  obtain ⟨rfl, haccepted', -⟩ := classifyObservation_ok hok'
  obtain ⟨hfacts, hblocks, hends⟩ := facts_of_digest hapart ho ho' (hplain o ho) (hplain o' ho') hsame
  exact ⟨⟨haccepted, haccepted'⟩, hblocks, hfacts, hends, hlogs, hlogs'⟩

section Witnesses

variable {w w' : RangeResult}

/-- Accepted blocks are the same up to order and time when the uncovered parts of each block are. -/
theorem untimed_perm_iff {l l' : List BlockFact} (hl : ∀ b ∈ l, b.observedClass = .accepted)
    (hl' : ∀ b ∈ l', b.observedClass = .accepted) :
    (l.map BlockFact.untimed).Perm (l'.map BlockFact.untimed) ↔
      ∀ covered, ((l.filter fun b => coveredOf b = covered).map uncoveredOf).Perm
        ((l'.filter fun b => coveredOf b = covered).map uncoveredOf) := by
  rw [← map_prod_perm_iff]
  constructor
  · intro h
    have hpairs := h.map fun b => (coveredOf b, uncoveredOf b)
    rw [List.map_map, List.map_map] at hpairs
    exact hpairs
  · intro h
    have hparts : ∀ m : List BlockFact, (∀ b ∈ m, b.observedClass = .accepted) →
        (m.map fun b => (coveredOf b, uncoveredOf b)).map ofParts = m.map BlockFact.untimed := by
      intro m hm
      rw [List.map_map]
      refine List.map_congr_left fun b hb => ?_
      show ofParts (coveredOf b, uncoveredOf b) = b.untimed
      unfold BlockFact.untimed
      rw [hm b hb]
      rfl
    rw [← hparts l hl, ← hparts l' hl']
    exact h.map ofParts

theorem OneDigest.blocks_perm_iff (h : OneDigest w w') :
    (w.blocks.map BlockFact.untimed).Perm (w'.blocks.map BlockFact.untimed) ↔
      ∀ covered, ((w.blocks.filter fun b => coveredOf b = covered).map uncoveredOf).Perm
        ((w'.blocks.filter fun b => coveredOf b = covered).map uncoveredOf) :=
  untimed_perm_iff h.accepted.1 h.accepted.2

/-! ## Ingesting either -/

theorem SameReports.symm (hone : OneDigest w w') (h : SameReports w w') : SameReports w' w where
  uncovered covered := (h.uncovered covered).symm
  first hstorable a b ha hb hab := by
    have hblocks := hone.blocks_perm_iff.2 h.uncovered
    -- the checks of the columns look at neither order nor time
    have hstorable' : Storable w := by
      refine ⟨fun b hb => ?_, fun l hl => ?_, hone.endBlockHash ▸ hstorable.endBlockHash⟩
      · obtain ⟨b', hb', hbb⟩ := exists_untimed hblocks.symm hb
        rw [← (BlockFact.of_untimed hbb).2.1]
        exact hstorable.blocks b' hb'
      · obtain ⟨l', hl', hll⟩ := exists_untimed hone.logs.symm hl
        rw [← (LogFact.of_untimed hll).2.1]
        exact hstorable.logs l' hl'
    exact (h.first hstorable' b a hb ha hab.symm).symm

/-- The batches of two witnesses that report the same hold the same facts. -/
theorem SameReports.sameFacts (hone : OneDigest w w') (h : SameReports w w') (hstorable : Storable w)
    (config : ReplayConfig) (range : BlockRange) : (batchOf config range w).SameFacts (batchOf config range w') := by
  have hblocks := hone.blocks_perm_iff.2 h.uncovered
  refine ⟨hblocks, hone.logs, fun y => ?_, fun y => ?_, ⟨rfl, rfl⟩, ?_⟩
  · constructor
    · rintro ⟨a, ha, rfl⟩
      obtain ⟨b, hb, hba⟩ := exists_untimed hblocks.symm ha.mem
      obtain ⟨b₀, hfirst, hkey⟩ : ∃ b₀, Keyed.IsFirst BlockFact.key w'.blocks b₀ ∧ b₀.key = b.key :=
        Keyed.exists_isFirst hb
      have hab : a.key = b₀.key := (hkey.trans (BlockFact.of_untimed hba).1).symm
      exact ⟨b₀, hfirst, (h.first hstorable a b₀ ha hfirst hab).symm⟩
    · rintro ⟨b, hb, rfl⟩
      obtain ⟨a, ha, hab⟩ := exists_untimed hblocks hb.mem
      obtain ⟨a₀, hfirst, hkey⟩ : ∃ a₀, Keyed.IsFirst BlockFact.key w.blocks a₀ ∧ a₀.key = a.key :=
        Keyed.exists_isFirst ha
      exact ⟨a₀, hfirst, h.first hstorable a₀ b hfirst hb (hkey.trans (BlockFact.of_untimed hab).1)⟩
  · have hsame : ∀ m : List LogFact, Keyed.Determines LogFact.key m →
        ∀ a ∈ m, ∀ b ∈ m, a.key = b.key → a.untimed = b.untimed := fun m hm a ha b hb hab => by
      rw [hm a ha b hb hab]
    show (∃ x, Keyed.IsFirst LogFact.key w.logs x ∧ x.untimed = y) ↔
      ∃ x, Keyed.IsFirst LogFact.key w'.logs x ∧ x.untimed = y
    rw [Keyed.exists_isFirst_iff (hsame _ hone.oneLog.1), Keyed.exists_isFirst_iff (hsame _ hone.oneLog.2)]
    exact hone.logs.mem_iff
  · show (batchOf config range w').checkpoint = (batchOf config range w).checkpoint
    unfold batchOf
    rw [hone.endBlockHash]

/-- What was ingested passed the checks of the columns. -/
theorem storable_of_ingest {sha256 : String → String} {config : ReplayConfig} {range : BlockRange} {db db' : Db}
    {outcome : IngestOutcome} (h : ingestTransaction sha256 (batchOf config range w) db = .ok (outcome, db')) :
    Storable w := by
  obtain ⟨d, advanced, hadvance, hblocks, hlogs, -⟩ := (ingestTransaction_eq_ok sha256 rfl).1 ⟨outcome, h⟩
  refine ⟨fun b hb => (hblocks b hb).1, fun l hl => (hlogs l hl).1, ?_⟩
  simp only [batchOf, advanceIfGiven, advanceCheckpoint, bind_eq_ok, ensure_eq_ok] at hadvance
  obtain ⟨-, -, -, hhash, -⟩ := hadvance
  exact hhash

theorem SameReports.ingest {sha256 : String → String} (hone : OneDigest w w') (h : SameReports w w')
    {config : ReplayConfig} {range : BlockRange} {db db' : Db} {outcome : IngestOutcome}
    (hingest : ingestTransaction sha256 (batchOf config range w) db = .ok (outcome, db')) :
    ∃ outcome' db'', ingestTransaction sha256 (batchOf config range w') db = .ok (outcome', db'') ∧ db'.Alike db'' :=
  (h.sameFacts hone (storable_of_ingest hingest) config range).ingest hingest

theorem SameReports.sameLedger {sha256 : String → String} (hone : OneDigest w w') (h : SameReports w w')
    (config : ReplayConfig) (range : BlockRange) (db : Db) :
    SameLedger (ingestTransaction sha256 (batchOf config range w) db)
      (ingestTransaction sha256 (batchOf config range w') db) := by
  cases hfirst : ingestTransaction sha256 (batchOf config range w) db with
  | ok stored =>
    obtain ⟨outcome', db'', hsecond, halike⟩ := h.ingest hone hfirst
    rw [hsecond]
    exact halike
  | error violation =>
    cases hsecond : ingestTransaction sha256 (batchOf config range w') db with
    | error violation' => trivial
    | ok stored =>
      -- what the second witness stores, the first one would store too
      obtain ⟨outcome, db', hstored, -⟩ := (h.symm hone).ingest hone.symm hsecond
      rw [hfirst] at hstored
      cases hstored

/-! ## The block reported first -/

/-- A stored candidate under a key. -/
def candidateOf (key : String × String) : BlockFact where
  chainKey := key.1
  blockHash := key.2
  blockNumber := 0
  parentHash := ""
  blockTimestamp := 0
  observedClass := .candidate
  observedAt := 0

/-- The keys of the blocks and logs of a witness, one key left out. -/
def otherKeys (w : RangeResult) (key : String × String) : List (String × String) :=
  (w.blocks.map BlockFact.key ++ w.logs.map fun l => (l.chainKey, l.blockHash)).filter (· ≠ key)

def otherBlocks (w : RangeResult) (key : String × String) : Keyed BlockFact.key :=
  (∅ : Keyed BlockFact.key).insertAll ((otherKeys w key).map candidateOf)

theorem mem_otherBlocks {key : String × String} {b : BlockFact} (hb : b ∈ (otherBlocks w key).rows) :
    b.observedClass = .candidate ∧ b.key ≠ key := by
  obtain ⟨k, hk, rfl⟩ := List.mem_map.1 (Keyed.mem_insertAll_empty.1 hb).mem
  refine ⟨rfl, ?_⟩
  show k ≠ key
  simpa using (List.mem_filter.1 hk).2

theorem has_otherBlocks {key k : String × String} : (otherBlocks w key).has k = true ↔ k ∈ otherKeys w key := by
  rw [Keyed.has_iff]
  constructor
  · rintro ⟨b, hb, rfl⟩
    obtain ⟨k, hk, rfl⟩ := List.mem_map.1 (Keyed.mem_insertAll_empty.1 hb).mem
    exact hk
  · intro hk
    obtain ⟨b, hfirst, hb⟩ : ∃ b, Keyed.IsFirst BlockFact.key ((otherKeys w key).map candidateOf) b ∧
      b.key = (candidateOf k).key := Keyed.exists_isFirst (List.mem_map_of_mem hk)
    exact ⟨b, Keyed.mem_insertAll_empty.2 hfirst, hb⟩

theorem oneAccepted_otherBlocks (w : RangeResult) (key : String × String) : OneAccepted (otherBlocks w key) := by
  intro a ha b hb hab
  simp only [BlockFact.competes, Bool.and_eq_true, decide_eq_true_eq] at hab
  rw [(mem_otherBlocks ha).1] at hab
  exact absurd hab.1.1.1 (by decide)

/-- A store that lacks the block of one key only. -/
def storeBut (w : RangeResult) (key : String × String) : Db :=
  { Db.registered [""] ("" :: w.blocks.map (·.chainKey)) with
    chainBlocks := ⟨otherBlocks w key, oneAccepted_otherBlocks w key⟩ }

def anyConfig : ReplayConfig where
  deploymentId := ""
  chainKey := ""
  startBlock := 0
  agreement := { requiredIndependentGroups := 0, archiveFallbackDeclared := false }
  retryBudget := 0
  freshnessTtlMs := 0
  maxHintsConsidered := 0
  startBlock_nonneg := le_refl 0
  freshnessTtlMs_nonneg := le_refl 0

/-- Into such a store the witness is ingested. -/
theorem ingest_storeBut (sha256 : String → String) (hstorable : Storable w) {b : BlockFact} (hb : b ∈ w.blocks) :
    ∃ outcome db', ingestTransaction sha256 (batchOf anyConfig { fromBlock := 0, toBlock := 0 } w) (storeBut w b.key) =
        .ok (outcome, db') ∧ db'.chainBlocks.table = (otherBlocks w b.key).insertAll w.blocks := by
  have hkeys : ∀ x ∈ w.blocks, x.key ≠ b.key → (otherBlocks w b.key).has x.key = true := fun x hx hne =>
    has_otherBlocks.2 (List.mem_filter.2 ⟨List.mem_append_left _ (List.mem_map_of_mem hx), by simpa using hne⟩)
  have hstored : ((otherBlocks w b.key).insertAll w.blocks).has b.key = true := by
    obtain ⟨x, hx, hxb⟩ : ∃ x, Keyed.IsFirst BlockFact.key w.blocks x ∧ x.key = b.key := Keyed.exists_isFirst hb
    refine Keyed.has_iff.2 ⟨x, Keyed.mem_insertAll.2 (Or.inr ⟨hx, ?_⟩), hxb⟩
    rw [Keyed.has_eq_false, hxb]
    exact fun y hy => (mem_otherBlocks hy).2
  -- every stored block is a candidate, so the one new block competes with none
  have hone : OneAccepted ((otherBlocks w b.key).insertAll w.blocks) := by
    have hnew : ∀ x ∈ ((otherBlocks w b.key).insertAll w.blocks).rows, x.observedClass = .accepted → x.key = b.key := by
      intro x hx hclass
      rcases Keyed.mem_insertAll.1 hx with hx | ⟨hx, hhas⟩
      · rw [(mem_otherBlocks hx).1] at hclass
        cases hclass
      · by_contra hne
        rw [hkeys x hx.mem hne] at hhas
        cases hhas
    intro x hx y hy hxy
    simp only [BlockFact.competes, Bool.and_eq_true, decide_eq_true_eq] at hxy
    exact Keyed.eq_of_key _ hx hy ((hnew x hx hxy.1.1.1).trans (hnew y hy hxy.1.1.2).symm)
  have hadvance : ∃ d, advanceIfGiven (storeBut w b.key)
      (batchOf anyConfig { fromBlock := 0, toBlock := 0 } w).checkpoint = .ok (true, d) := by
    unfold batchOf advanceIfGiven advanceCheckpoint
    simp only [bind_eq_ok, ensure_eq_ok]
    exact ⟨_, (), rfl, (), hstorable.endBlockHash, (), rfl, (), by simp [storeBut, Db.registered, anyConfig],
      (), by simp [storeBut, Db.registered, anyConfig], rfl⟩
  obtain ⟨d, hadvance⟩ := hadvance
  have hblocks : ∀ x ∈ w.blocks, x.formed = true ∧
      ((storeBut w b.key).chainBlocks.table.has x.key = true ∨ x.chainKey ∈ (storeBut w b.key).chains) := fun x hx =>
    ⟨hstorable.blocks x hx, Or.inr (List.mem_cons_of_mem _ (List.mem_map_of_mem hx))⟩
  -- the block of a log is stored beforehand, or is the block that is inserted
  have hlogs : ∀ l ∈ w.logs, l.formed = true ∧ ((storeBut w b.key).chainLogs.has l.key = true ∨
      ((storeBut w b.key).chainBlocks.table.insertAll w.blocks).has (l.chainKey, l.blockHash) = true) := by
    intro l hl
    refine ⟨hstorable.logs l hl, Or.inr ?_⟩
    by_cases hkey : (l.chainKey, l.blockHash) = b.key
    · rw [hkey]
      exact hstored
    · have hother : (l.chainKey, l.blockHash) ∈ otherKeys w b.key :=
        List.mem_filter.2 ⟨List.mem_append_right _ (List.mem_map.2 ⟨l, hl, rfl⟩), by simpa using hkey⟩
      obtain ⟨x, hx, hxl⟩ := Keyed.has_iff.1 (has_otherBlocks.2 hother)
      exact Keyed.has_iff.2 ⟨x, Keyed.mem_insertAll.2 (Or.inl hx), hxl⟩
  obtain ⟨outcome, hingest⟩ := (ingestTransaction_eq_ok sha256 rfl).2
    ⟨d, true, hadvance, hblocks, hlogs, hone, rfl⟩
  exact ⟨outcome, _, hingest, rfl⟩

/-- Where either may be ingested, both report the same block first. -/
theorem EqualFacts.first {sha256 : String → String} (h : EqualFacts sha256 w w') (hstorable : Storable w)
    {a b : BlockFact} (ha : Keyed.IsFirst BlockFact.key w.blocks a) (hb : Keyed.IsFirst BlockFact.key w'.blocks b)
    (hab : a.key = b.key) : a.untimed = b.untimed := by
  obtain ⟨outcome, db₁, hingest, htable⟩ := ingest_storeBut sha256 hstorable ha.mem
  have hledger := h.ledger anyConfig { fromBlock := 0, toBlock := 0 } (storeBut w a.key)
  rw [hingest] at hledger
  cases hsecond : ingestTransaction sha256 (batchOf anyConfig { fromBlock := 0, toBlock := 0 } w') (storeBut w a.key) with
  | error violation =>
    rw [hsecond] at hledger
    exact hledger.elim
  | ok stored =>
    obtain ⟨outcome', db₂⟩ := stored
    rw [hsecond] at hledger
    have halike : db₁.Alike db₂ := hledger
    obtain ⟨_, _, -, -, -, hone, rfl⟩ := (ingestTransaction_eq_ok sha256 rfl).1 ⟨outcome', hsecond⟩
    have hrow : a ∈ db₁.chainBlocks.table.rows := by
      rw [htable]
      refine Keyed.mem_insertAll.2 (Or.inr ⟨ha, Keyed.has_eq_false.2 fun x hx => (mem_otherBlocks hx).2⟩)
    obtain ⟨x, hx, hxa⟩ := exists_untimed halike.blocks.symm hrow
    have hkey : x.key = a.key := (BlockFact.of_untimed hxa).1
    have hinserted : x ∈ ((otherBlocks w a.key).insertAll w'.blocks).rows := hx
    rcases Keyed.mem_insertAll.1 hinserted with hx | ⟨hx, -⟩
    · exact absurd hkey (mem_otherBlocks hx).2
    · -- the second witness reports one block first
      have hfind := Keyed.isFirst_iff_find?.1 hx
      rw [hkey, hab, Keyed.isFirst_iff_find?.1 hb] at hfind
      rw [← hxa, Option.some.inj hfind]

theorem OneDigest.equalFacts_iff (hone : OneDigest w w') (sha256 : String → String) :
    EqualFacts sha256 w w' ↔ SameReports w w' :=
  ⟨fun h => ⟨hone.blocks_perm_iff.1 h.blocks, fun hstorable _ _ ha hb hab => h.first hstorable ha hb hab⟩,
    fun h => ⟨hone.blocks_perm_iff.2 h.uncovered, hone.logs, h.sameLedger hone⟩⟩

/-- Where the first witness reports each block hash once, this is about the blocks both report under one hash. -/
theorem OneDigest.sameReports_iff (hone : OneDigest w w') (hnodup : (w.blocks.map BlockFact.key).Nodup) :
    SameReports w w' ↔ ∀ b ∈ w.blocks, ∀ b' ∈ w'.blocks, b.key = b'.key →
      b.parentHash = b'.parentHash ∧ b.blockTimestamp = b'.blockTimestamp := by
  have hunique : ∀ a ∈ w.blocks, ∀ b ∈ w.blocks, a.key = b.key → a = b := fun a ha b hb hab =>
    List.inj_on_of_nodup_map hnodup ha hb hab
  constructor
  · intro h b hb b' hb' hkey
    obtain ⟨a, ha, hab⟩ := exists_untimed (hone.blocks_perm_iff.2 h.uncovered) hb'
    obtain rfl := hunique a ha b hb ((BlockFact.of_untimed hab).1.trans hkey.symm)
    have hparts : uncoveredOf a.untimed = uncoveredOf b'.untimed := congrArg uncoveredOf hab
    exact Prod.mk.inj hparts
  · intro h
    have huntimed : ∀ b ∈ w.blocks, ∀ b' ∈ w'.blocks, b.key = b'.key → b.untimed = b'.untimed := by
      intro b hb b' hb' hkey
      obtain ⟨hparent, htimestamp⟩ := h b hb b' hb' hkey
      -- the first witness reports a block that is digested like the other one, and it is this one
      obtain ⟨a, ha, hdigested⟩ := exists_untimed hone.blocks hb'
      simp only [digestedOf, Prod.mk.injEq] at hdigested
      obtain ⟨hchain, hnumber, hhash, hclass⟩ := hdigested
      have hab : a.key = b.key := by
        rw [hkey]
        exact Prod.ext hchain hhash
      obtain rfl := hunique a ha b hb hab
      unfold BlockFact.untimed
      rw [hchain, hnumber, hhash, hclass, hparent, htimestamp]
    refine ⟨hone.blocks_perm_iff.1 (map_perm_of_map_perm (fun b hb b' hb' hdigested => ?_) hone.blocks),
      fun _ a b ha hb hab => huntimed a ha.mem b hb.mem hab⟩
    simp only [digestedOf, Prod.mk.injEq] at hdigested
    exact huntimed b hb b' hb' (Prod.ext hdigested.1 hdigested.2.2.1)

end Witnesses

/-- Agreed witnesses carry equal facts exactly when they report the parents and timestamps of their blocks alike. -/
theorem agreed_equalFacts_iff {sha256 : String → String} {observations : List RangeObservation}
    (hapart : DigestsApart sha256 observations) (hplain : ∀ o ∈ observations, o.PlainTexts) {results : List RangeResult}
    (hclassified : observations.map (classifyObservation sha256) = results.map .ok) {policy : AgreementPolicy}
    {digest : String} {witnesses : List RangeResult} (h : agree results policy = .agreed digest witnesses)
    {w w' : RangeResult} (hw : w ∈ witnesses) (hw' : w' ∈ witnesses) :
    (EqualFacts sha256 w w' ↔ SameReports w w') ∧
      ((w.blocks.map BlockFact.key).Nodup → (SameReports w w' ↔ ∀ b ∈ w.blocks, ∀ b' ∈ w'.blocks, b.key = b'.key →
        b.parentHash = b'.parentHash ∧ b.blockTimestamp = b'.blockTimestamp)) := by
  have hone : OneDigest w w' := oneDigest_of_agreed hapart hplain hclassified h hw hw'
  exact ⟨hone.equalFacts_iff sha256, hone.sameReports_iff⟩

/-! ## A sample block -/

def sampleReportHash : String := "0x1a1a1a1a1a1a1a1a1a1a1a1a1a1a1a1a1a1a1a1a1a1a1a1a1a1a1a1a1a1a1a1a"
def sampleParent : String := "0x5e5e5e5e5e5e5e5e5e5e5e5e5e5e5e5e5e5e5e5e5e5e5e5e5e5e5e5e5e5e5e5e"
def sampleOtherParent : String := "0x6f6f6f6f6f6f6f6f6f6f6f6f6f6f6f6f6f6f6f6f6f6f6f6f6f6f6f6f6f6f6f6f"

/-- A group that reports one block with one log, at some time, under some parent. -/
def sampleReported (group : String) (observedAt : Int) (parentHash : String) : RangeObservation where
  providerGroup := group
  range := { fromBlock := 7, toBlock := 7 }
  startBlockHash := sampleReportHash
  endBlockHash := sampleReportHash
  logCount := 1
  logs :=
    [{ chainKey := "sample/home"
       blockHash := sampleReportHash
       txHash := "0x2b2b2b2b2b2b2b2b2b2b2b2b2b2b2b2b2b2b2b2b2b2b2b2b2b2b2b2b2b2b2b2b"
       logIndex := 0
       blockNumber := 7
       txIndex := 0
       address := "0x3c3c3c3c3c3c3c3c3c3c3c3c3c3c3c3c3c3c3c3c"
       topics := ["0x4d4d4d4d4d4d4d4d4d4d4d4d4d4d4d4d4d4d4d4d4d4d4d4d4d4d4d4d4d4d4d4d"]
       data := "0x05"
       observedAt }]
  blocks :=
    [{ chainKey := "sample/home"
       blockHash := sampleReportHash
       blockNumber := 7
       parentHash
       blockTimestamp := 1700000000
       observedClass := .accepted
       observedAt }]
  complete := true
  viaArchive := false

/-- The texts the report is digested by, with their SHA-256. -/
def sampleReportDigests : List (String × String) :=
  [(logText (sampleReported "alpha" 1 sampleParent).logs,
      "40ecce6767b994f9808241b4a28a8f4ba38c93175e92e64d2c7b60a18d7b2a9e"),
    (blockText (sampleReported "alpha" 1 sampleParent).blocks,
      "21961bb5be2a7e7f148422e3af30be8ff2df450d8cd365c25a91b45f83c8663d"),
    ("|".intercalate ["7", "7", sampleReportHash, sampleReportHash, "1",
        "40ecce6767b994f9808241b4a28a8f4ba38c93175e92e64d2c7b60a18d7b2a9e",
        "21961bb5be2a7e7f148422e3af30be8ff2df450d8cd365c25a91b45f83c8663d"],
      "544be4f340f32fddce1cee9037ae1282316c3f32725bfad919bb1cb6f5387a71")]

/-- SHA-256 on the texts of the report. -/
def sampleReportSha256 (text : String) : String :=
  ((sampleReportDigests.find? fun d => d.1 = text).map (·.2)).getD ""

/-- What a group's report is classified as. -/
def sampleWitness (group : String) (observedAt : Int) (parentHash : String) : RangeResult :=
  resultOf sampleReportSha256 (sampleReported group observedAt parentHash)

def samplePolicy : AgreementPolicy where
  requiredIndependentGroups := 2
  archiveFallbackDeclared := false

/-- The reports of the block by two groups, the second under some parent. -/
def sampleReports (parentHash : String) : List RangeObservation :=
  [sampleReported "alpha" 1 sampleParent, sampleReported "beta" 2 parentHash]

def sampleWitnesses (parentHash : String) : List RangeResult :=
  [sampleWitness "alpha" 1 sampleParent, sampleWitness "beta" 2 parentHash]

/-- No text the report is digested by looks at the group, the time or the parent. -/
theorem sampleReported_digested (group : String) (observedAt : Int) (parentHash : String) (sha256 : String → String) :
    digestedTexts sha256 [sampleReported group observedAt parentHash] =
      digestedTexts sha256 [sampleReported "alpha" 1 sampleParent] := rfl

theorem plain_samples : Plain sampleReportHash ∧
    Plain "0x2b2b2b2b2b2b2b2b2b2b2b2b2b2b2b2b2b2b2b2b2b2b2b2b2b2b2b2b2b2b2b2b" ∧
    Plain "0x3c3c3c3c3c3c3c3c3c3c3c3c3c3c3c3c3c3c3c3c" ∧ Plain "sample/home" := by
  refine ⟨?_, ?_, ?_, ?_⟩
  · rw [Plain, sampleReportHash, String.toList_ofList]
    decide +kernel
  all_goals
    rw [Plain, String.toList_ofList]
    decide +kernel

theorem sampleReported_plain (group : String) (observedAt : Int) (parentHash : String) :
    (sampleReported group observedAt parentHash).PlainTexts := by
  obtain ⟨hhash, htx, haddress, hchain⟩ := plain_samples
  have hdata : Plain "0x05" := by decide +kernel
  have htopic : Plain "0x4d4d4d4d4d4d4d4d4d4d4d4d4d4d4d4d4d4d4d4d4d4d4d4d4d4d4d4d4d4d4d4d" ∧
      ',' ∉ "0x4d4d4d4d4d4d4d4d4d4d4d4d4d4d4d4d4d4d4d4d4d4d4d4d4d4d4d4d4d4d4d4d".toList := by
    rw [Plain, String.toList_ofList]
    decide +kernel
  refine ⟨⟨hhash, hhash⟩, fun b hb => ?_, fun l hl => ?_, fun l hl topic ht => ?_⟩
  · obtain rfl := List.mem_singleton.1 hb
    exact ⟨hchain, hhash⟩
  · obtain rfl := List.mem_singleton.1 hl
    exact ⟨hchain, hhash, htx, haddress, hdata⟩
  · obtain rfl := List.mem_singleton.1 hl
    obtain rfl := List.mem_singleton.1 ht
    exact ⟨htopic.1, htopic.2, by decide +kernel⟩

theorem sampleReported_classified (group : String) (observedAt : Int) (parentHash : String) :
    classifyObservation sampleReportSha256 (sampleReported group observedAt parentHash) =
      .ok (sampleWitness group observedAt parentHash) := by
  have hhole : findLogIndexHole (sampleReported group observedAt parentHash).logs = false := rfl
  have hcited : ((sampleReported group observedAt parentHash).logs.any fun l =>
      !((sampleReported group observedAt parentHash).blocks.map (·.blockHash)).contains l.blockHash) = false := by
    simp [sampleReported]
  unfold classifyObservation
  rw [hhole, hcited]
  rfl

theorem sampleReports_digested (parentHash : String) (sha256 : String → String) :
    digestedTexts sha256 (sampleReports parentHash) = digestedTexts sha256 [sampleReported "alpha" 1 sampleParent] ++
      digestedTexts sha256 [sampleReported "alpha" 1 sampleParent] :=
  congrArg (digestedTexts sha256 [sampleReported "alpha" 1 sampleParent] ++ ·)
    (sampleReported_digested "beta" 2 parentHash sha256)

/-- The texts of the table are distinct, and its digests lower-case hexadecimal. -/
theorem sampleReportDigests_table : (sampleReportDigests.map (·.1)).Nodup ∧
    ∀ d ∈ sampleReportDigests, d.2.toList.all isLowerHex = true := by
  refine ⟨by decide +kernel, ?_⟩
  simp only [sampleReportDigests, List.forall_mem_cons, List.not_mem_nil, false_implies, implies_true, and_true]
  refine ⟨?_, ?_, ?_⟩
  all_goals
    rw [String.toList_ofList]
    decide +kernel

theorem sampleReportSha256_eq (d : String × String) (hd : d ∈ sampleReportDigests) : sampleReportSha256 d.1 = d.2 := by
  rw [sampleReportSha256, find?_of_nodup sampleReportDigests_table.1 hd]
  rfl

theorem sampleReported_inTable : ∀ t ∈ digestedTexts sampleReportSha256 [sampleReported "alpha" 1 sampleParent],
    ∃ d ∈ sampleReportDigests, d.1 = t := by
  have hlog : (logText (sampleReported "alpha" 1 sampleParent).logs, _) ∈ sampleReportDigests := List.mem_cons_self
  have hblock : (blockText (sampleReported "alpha" 1 sampleParent).blocks, _) ∈ sampleReportDigests :=
    List.mem_cons_of_mem _ List.mem_cons_self
  have htext : (observationText sampleReportSha256 (sampleReported "alpha" 1 sampleParent),
      "544be4f340f32fddce1cee9037ae1282316c3f32725bfad919bb1cb6f5387a71") ∈ sampleReportDigests := by
    unfold observationText
    rw [sampleReportSha256_eq _ hlog, sampleReportSha256_eq _ hblock]
    exact List.mem_cons_of_mem _ (List.mem_cons_of_mem _ List.mem_cons_self)
  intro t ht
  obtain ⟨x, hx, ht⟩ := List.mem_flatMap.1 ht
  obtain rfl := List.mem_singleton.1 hx
  simp only [List.mem_cons, List.not_mem_nil, or_false] at ht
  rcases ht with rfl | rfl | rfl
  · exact ⟨_, hlog, rfl⟩
  · exact ⟨_, hblock, rfl⟩
  · exact ⟨_, htext, rfl⟩

/-- The two agree, whichever parent the second one reports. -/
theorem sampleWitnesses_agree (parentHash : String) (h : parentHash ∈ [sampleParent, sampleOtherParent]) :
    DigestsApart sampleReportSha256 (sampleReports parentHash) ∧ (∀ o ∈ sampleReports parentHash, o.PlainTexts) ∧
      (sampleReports parentHash).map (classifyObservation sampleReportSha256) = (sampleWitnesses parentHash).map .ok ∧
      agree (sampleWitnesses parentHash) samplePolicy =
        .agreed (sampleWitness "alpha" 1 sampleParent).digest (sampleWitnesses parentHash) := by
  refine ⟨digestsApart_of_table sampleReportSha256_eq sampleReportDigests_table.2 (by decide +kernel) ?_, fun o ho => ?_, ?_, ?_⟩
  · rw [sampleReports_digested, List.forall_mem_append]
    exact ⟨sampleReported_inTable, sampleReported_inTable⟩
  · rcases List.mem_pair.1 ho with rfl | rfl
    · exact sampleReported_plain _ _ _
    · exact sampleReported_plain _ _ _
  · rw [sampleReports, List.map_cons, List.map_singleton, sampleReported_classified, sampleReported_classified]
    rfl
  · simp only [List.mem_cons, List.not_mem_nil, or_false] at h
    rcases h with rfl | rfl <;> decide +kernel

/-- Two groups that report a block under one parent, at two times, carry equal facts. -/
theorem agreed_equalFacts_sample :
    EqualFacts sampleReportSha256 (sampleWitness "alpha" 1 sampleParent) (sampleWitness "beta" 2 sampleParent) := by
  obtain ⟨hapart, hplain, hclassified, hagreed⟩ := sampleWitnesses_agree sampleParent (by simp)
  have hw : sampleWitness "alpha" 1 sampleParent ∈ sampleWitnesses sampleParent := List.mem_cons_self
  have hw' : sampleWitness "beta" 2 sampleParent ∈ sampleWitnesses sampleParent :=
    List.mem_cons_of_mem _ List.mem_cons_self
  obtain ⟨hiff, hdistinct⟩ := agreed_equalFacts_iff hapart hplain hclassified hagreed hw hw'
  exact hiff.2 ((hdistinct (by decide +kernel)).2 (by decide +kernel))

/-- Two groups that report it under different parents agree all the same. -/
theorem agreed_witnesses_differ : ∃ observations results digest witnesses w w',
    DigestsApart sampleReportSha256 observations ∧ (∀ o ∈ observations, o.PlainTexts) ∧
      observations.map (classifyObservation sampleReportSha256) = results.map .ok ∧
      agree results samplePolicy = .agreed digest witnesses ∧ w ∈ witnesses ∧ w' ∈ witnesses ∧
      ¬ (w.blocks.map BlockFact.untimed).Perm (w'.blocks.map BlockFact.untimed) ∧
      ¬ EqualFacts sampleReportSha256 w w' := by
  obtain ⟨hapart, hplain, hclassified, hagreed⟩ := sampleWitnesses_agree sampleOtherParent (by simp)
  have hdiffer : ¬ ((sampleWitness "alpha" 1 sampleParent).blocks.map BlockFact.untimed).Perm
      ((sampleWitness "beta" 2 sampleOtherParent).blocks.map BlockFact.untimed) := by
    decide +kernel
  exact ⟨_, _, _, _, sampleWitness "alpha" 1 sampleParent, sampleWitness "beta" 2 sampleOtherParent, hapart, hplain,
    hclassified, hagreed, List.mem_cons_self, List.mem_cons_of_mem _ List.mem_cons_self, hdiffer,
    fun h => hdiffer h.blocks⟩

end IcttSentinel.Replay
