/-
Whether a hole is left behind the checkpoint. The checkpoint is one height, and the next plan starts
past it; within a run it jumps to the end of every committed range, so a range that still waits below
a committed one is skipped for good when the run stops there. Plans are ascending, but hints reorder
them.

The loop's invariant (`PassCovers`) says where every height of the window is: covered by a recorded
range or waiting in the queue, never both. A run that serves its plan from the lowest range up keeps the
lane free of holes (`Kept`), wherever it stops.
-/
import IcttSentinel.Lib.Decimal
import IcttSentinel.Replay.Soundness

namespace IcttSentinel.Replay

open IcttSentinel.Domain IcttSentinel.Lib IcttSentinel.Storage

/-! ## The rows of a lane -/

section Lane

variable (sha256 : String → String) (config : ReplayConfig) (top : Int)

/-- The range lies between the manifest's start and a height. -/
def InBounds (r : BlockRange) : Prop :=
  config.startBlock ≤ r.fromBlock ∧ r.fromBlock ≤ r.toBlock ∧ r.toBlock ≤ top

/-- SHA-256 has no collision among the texts of the lane's ranges up to a height. -/
def CollisionFree : Prop :=
  ∀ r, InBounds config top r → ∀ r', InBounds config top r' →
    sha256 (rangeText config r) = sha256 (rangeText config r') → rangeText config r = rangeText config r'

/-- The row belongs to the lane, or sits under the id of one of its ranges. -/
def Concerns (row : RangeStatusRow) : Prop :=
  (row.deploymentId = config.deploymentId ∧ row.chainKey = config.chainKey) ∨
    ∃ r, InBounds config top r ∧ row.rangeId = rangeId sha256 config r

/-- The stored ranges of the lane are statuses of its ranges, and the complete ones end at the checkpoint at most. -/
structure Tidy (db : Db) : Prop where
  rows : ∀ row ∈ db.replayRanges.rows, Concerns sha256 config top row →
    ∃ r, InBounds config top r ∧ row = statusRow sha256 config r row.status row.reasonCode row.providerGroup
  behind : ∀ r ∈ laneRanges config db, ∃ n, laneCheckpoint config db = some n ∧ r.toBlock ≤ n

/-- The lane was never replayed into this store. -/
structure Fresh (db : Db) : Prop where
  checkpoint : laneCheckpoint config db = none
  rows : ∀ row ∈ db.replayRanges.rows, ¬ Concerns sha256 config top row

/-- Every height from the manifest's start to the checkpoint lies in a complete range. -/
def NoHole (db : Db) : Prop :=
  ∀ n, laneCheckpoint config db = some n → ∀ b, config.startBlock ≤ b → b ≤ n → Covered (laneRanges config db) b

/-- The lane's ranges and checkpoint are the same in both stores. -/
structure Unmoved (before after : Db) : Prop where
  checkpoint : laneCheckpoint config after = laneCheckpoint config before
  ranges : ∀ r, r ∈ laneRanges config after ↔ r ∈ laneRanges config before
  tidy : Tidy sha256 config top after

variable {sha256 config top}

theorem rangeText_injective {r r' : BlockRange} (h : rangeText config r = rangeText config r') : r = r' := by
  obtain ⟨hfrom, hto⟩ := joined_inj h
  exact BlockRange.ext hfrom hto

theorem CollisionFree.injective (hids : CollisionFree sha256 config top) {r r' : BlockRange}
    (hr : InBounds config top r) (hr' : InBounds config top r')
    (h : rangeId sha256 config r = rangeId sha256 config r') : r = r' :=
  rangeText_injective (hids r hr r' hr' h)

theorem InBounds.mono {head : Int} (hhead : head ≤ top) {r : BlockRange} (h : InBounds config head r) :
    InBounds config top r := ⟨h.1, h.2.1, h.2.2.trans hhead⟩

theorem Fresh.tidy {db : Db} (h : Fresh sha256 config top db) : Tidy sha256 config top db := by
  refine ⟨fun row hrow hlane => absurd hlane (h.rows row hrow), fun r hr => ?_⟩
  obtain ⟨row, hrow, hd, hc, -⟩ := mem_completeRanges.1 hr
  exact absurd (Or.inl ⟨hd, hc⟩) (h.rows row hrow)

theorem Fresh.noHole {db : Db} (h : Fresh sha256 config top db) : NoHole config db := by
  intro n hn
  rw [h.checkpoint] at hn
  cases hn

theorem Unmoved.refl {db : Db} (h : Tidy sha256 config top db) : Unmoved sha256 config top db db :=
  ⟨rfl, fun _ => Iff.rfl, h⟩

theorem Unmoved.trans {a b c : Db} (hab : Unmoved sha256 config top a b) (hbc : Unmoved sha256 config top b c) :
    Unmoved sha256 config top a c :=
  ⟨hbc.checkpoint.trans hab.checkpoint, fun r => (hbc.ranges r).trans (hab.ranges r), hbc.tidy⟩

theorem Unmoved.covered_iff {before after : Db} (h : Unmoved sha256 config top before after) {b : Int} :
    Covered (laneRanges config after) b ↔ Covered (laneRanges config before) b := by
  simp only [Covered, h.ranges]

theorem Unmoved.noHole_iff {before after : Db} (h : Unmoved sha256 config top before after) :
    NoHole config after ↔ NoHole config before := by
  simp only [NoHole, h.checkpoint, h.covered_iff]

/-! ## Recording a status -/

/-- Under the id of a lane's range, an upsert leaves that range's row. -/
theorem mergedRow_statusRow (hids : CollisionFree sha256 config top) {db : Db} (htidy : Tidy sha256 config top db)
    {r : BlockRange} (hr : InBounds config top r) (status : ReplayStatus) (reasonCode providerGroup : Option String) :
    mergedRow db (statusRow sha256 config r status reasonCode providerGroup) =
      statusRow sha256 config r status reasonCode providerGroup := by
  unfold mergedRow
  cases hstored : db.replayRanges.lookup (statusRow sha256 config r status reasonCode providerGroup).rangeId with
  | none => rfl
  | some stored =>
    obtain ⟨hmem, hid⟩ := Keyed.lookup_eq_some.1 hstored
    obtain ⟨r', hr', hrow⟩ := htidy.rows stored hmem (Or.inr ⟨r, hr, hid⟩)
    have hsame : r' = r := by
      refine hids.injective hr' hr ?_
      rw [hrow] at hid
      exact hid
    subst hsame
    dsimp only
    rw [hrow]
    rfl

/-- The complete ranges after a range's status was recorded: that range as its status says, the others as before. -/
theorem mem_laneRanges_upsert (hids : CollisionFree sha256 config top) {db : Db} (htidy : Tidy sha256 config top db)
    {r : BlockRange} (hr : InBounds config top r) (status : ReplayStatus) (reasonCode providerGroup : Option String)
    {x : BlockRange} :
    x ∈ laneRanges config { db with
        replayRanges := db.replayRanges.upsert (statusRow sha256 config r status reasonCode providerGroup) } ↔
      (status = .complete ∧ x = r) ∨ (x ∈ laneRanges config db ∧ x ≠ r) := by
  unfold laneRanges
  rw [mem_completeRanges, mem_completeRanges]
  simp only [Keyed.mem_upsert]
  constructor
  · rintro ⟨row, rfl | ⟨hrow, hid⟩, hd, hc, hs, hf, ht⟩
    · left
      exact ⟨hs, BlockRange.ext hf.symm ht.symm⟩
    · right
      refine ⟨⟨row, hrow, hd, hc, hs, hf, ht⟩, ?_⟩
      rintro rfl
      obtain ⟨r', -, hrow'⟩ := htidy.rows row hrow (Or.inl ⟨hd, hc⟩)
      refine hid ?_
      have hsame : r' = x := by
        rw [hrow'] at hf ht
        exact BlockRange.ext hf ht
      rw [hrow', hsame]
      rfl
  · rintro (⟨rfl, rfl⟩ | ⟨⟨row, hrow, hd, hc, hs, hf, ht⟩, hne⟩)
    · exact ⟨_, Or.inl rfl, rfl, rfl, rfl, rfl, rfl⟩
    · refine ⟨row, Or.inr ⟨hrow, fun hid => hne ?_⟩, hd, hc, hs, hf, ht⟩
      obtain ⟨r', hr', hrow'⟩ := htidy.rows row hrow (Or.inl ⟨hd, hc⟩)
      rw [hrow'] at hid hf ht
      have hsame : r' = r := hids.injective hr' hr hid
      rw [← hsame]
      exact (BlockRange.ext hf ht).symm

/-- Recording a status keeps the rows of the lane its own. -/
theorem rows_upsert {db : Db} (htidy : Tidy sha256 config top db) {r : BlockRange} (hr : InBounds config top r)
    (status : ReplayStatus) (reasonCode providerGroup : Option String) {row : RangeStatusRow}
    (hrow : row ∈ (db.replayRanges.upsert (statusRow sha256 config r status reasonCode providerGroup)).rows)
    (hlane : Concerns sha256 config top row) :
    ∃ r, InBounds config top r ∧ row = statusRow sha256 config r row.status row.reasonCode row.providerGroup := by
  rcases Keyed.mem_upsert.1 hrow with rfl | ⟨hrow, -⟩
  · exact ⟨r, hr, rfl⟩
  · exact htidy.rows row hrow hlane

end Lane

/-! ## The loop's invariant -/

/-- The ranges a pass has completed. -/
def completed (pass : Pass) : List BlockRange :=
  (pass.reports.filter fun r => decide (r.status = .complete)).map (·.range)

theorem completed_append (pass pass' : Pass) (report : RangeReport)
    (h : pass'.reports = pass.reports ++ [report]) :
    completed pass' = completed pass ++ (if report.status = .complete then [report.range] else []) := by
  unfold completed
  rw [h, List.filter_append, List.map_append]
  by_cases hs : report.status = .complete <;> simp [hs]

/-- The ranges have no height in common. -/
def Apart (a b : BlockRange) : Prop := a.toBlock < b.fromBlock ∨ b.toBlock < a.fromBlock

section Loop

variable (sha256 : String → String) (config : ReplayConfig) (top head : Int) (before : Option Int)

/-- Where every height of the window is while a run from the checkpoint `before` to the head goes on: covered by a
recorded range or waiting in the queue. -/
structure PassCovers (pass : Pass) (db : Db) : Prop where
  tidy : Tidy sha256 config top db
  bounds : ∀ r ∈ pass.queue, InBounds config head r
  apart : pass.queue.Pairwise Apart
  planned : ∀ b, config.startBlock ≤ b → b ≤ head → Covered (laneRanges config db) b ∨ Covered pass.queue b
  resumed : ∀ n, before = some n → (∀ r ∈ pass.queue, n < r.fromBlock) ∧
    ∀ b, config.startBlock ≤ b → b ≤ n → Covered (laneRanges config db) b
  waiting : ∀ r ∈ pass.queue, ∀ b, Within r b → ¬ Covered (laneRanges config db) b
  recorded : ∀ c ∈ completed pass, InBounds config head c ∧ ∃ n, laneCheckpoint config db = some n ∧ c.toBlock ≤ n
  checkpoint : laneCheckpoint config db = before ∨ ∃ c ∈ completed pass, laneCheckpoint config db = some c.toBlock

/-- Every completed range lies below every range that still waits. -/
def StoppedInOrder (pass : Pass) : Prop := ∀ r ∈ pass.queue, ∀ c ∈ completed pass, c.toBlock < r.fromBlock

variable {sha256 config top head before}

/-- Where nothing waits below a completed range, the checkpoint of the pass has no hole behind it. -/
theorem PassCovers.noHole {pass : Pass} {db : Db} (h : PassCovers sha256 config top head before pass db)
    (horder : StoppedInOrder pass) : NoHole config db := by
  intro n hn b hstart hb
  rcases h.checkpoint with hbefore | ⟨c, hc, hcheckpoint⟩
  · exact (h.resumed n (hbefore.symm.trans hn)).2 b hstart hb
  · obtain rfl : c.toBlock = n := Option.some.inj (hcheckpoint.symm.trans hn)
    have hhead : c.toBlock ≤ head := (h.recorded c hc).1.2.2
    rcases h.planned b hstart (by omega) with hcovered | ⟨r, hr, hfrom, -⟩
    · exact hcovered
    · -- the height would wait above the completed range it lies below
      have := horder r hr c hc
      omega

/-- A run starts with nothing completed and everything past the checkpoint waiting. -/
theorem PassCovers.initial {db : Db} (htidy : Tidy sha256 config top db) (hnoHole : NoHole config db)
    {planned queue : List BlockRange} (htiles : Tiles (resumeFrom config (laneCheckpoint config db)) head planned)
    (hperm : queue.Perm planned) (lastSuccessAt : Option Int) :
    PassCovers sha256 config top head (laneCheckpoint config db) (firstPass queue lastSuccessAt) db := by
  -- the run resumes behind its checkpoint, at the start of the lane at the earliest
  have hpast : ∀ n, laneCheckpoint config db = some n → n < resumeFrom config (laneCheckpoint config db) := by
    intro n hn
    rw [hn, resumeFrom]
    split <;> omega
  have hstart : config.startBlock ≤ resumeFrom config (laneCheckpoint config db) := by
    unfold resumeFrom
    split
    · exact le_rfl
    · split <;> omega
  have hbounds : ∀ r ∈ queue, resumeFrom config (laneCheckpoint config db) ≤ r.fromBlock ∧
      r.fromBlock ≤ r.toBlock ∧ r.toBlock ≤ head := fun r hr => htiles.bounds (hperm.mem_iff.1 hr)
  refine ⟨htidy, fun r hr => ?_, ?_, fun b hb hhead => ?_, fun n hn => ⟨fun r hr => ?_, hnoHole n hn⟩, ?_, ?_,
    Or.inl rfl⟩
  · obtain ⟨hfrom, hle, hto⟩ := hbounds r hr
    exact ⟨hstart.trans hfrom, hle, hto⟩
  -- the hints only permute the plan
  · have hpairs : planned.Pairwise Apart := htiles.ascending.imp fun hab => Or.inl hab
    exact (hperm.pairwise_iff fun hab => Or.symm hab).2 hpairs
  · by_cases hresumed : resumeFrom config (laneCheckpoint config db) ≤ b
    · right
      obtain ⟨r, hr, hrb⟩ := htiles.covered_iff.2 ⟨hresumed, hhead⟩
      exact ⟨r, hperm.mem_iff.2 hr, hrb⟩
    · left
      cases hcheckpoint : laneCheckpoint config db with
      | none =>
        rw [hcheckpoint, resumeFrom] at hresumed
        exact absurd hb hresumed
      | some n =>
        refine hnoHole n hcheckpoint b hb ?_
        rw [hcheckpoint, resumeFrom] at hresumed
        split at hresumed <;> omega
  · have := hpast n hn
    have := (hbounds r hr).1
    omega
  · rintro r hr b ⟨hfrom, -⟩ ⟨x, hx, -, hxto⟩
    obtain ⟨n, hn, hxn⟩ := htidy.behind x hx
    have := hpast n hn
    have := (hbounds r hr).1
    omega
  · simp [completed, firstPass]

/-- Halving the range in front leaves every height where it is. -/
theorem PassCovers.split {pass : Pass} {db : Db} {range lower upper : BlockRange} {rest : List BlockRange}
    (h : PassCovers sha256 config top head before pass db) (hqueue : pass.queue = range :: rest)
    (hsplit : splitRange range = some (lower, upper)) (clock : Nat) :
    PassCovers sha256 config top head before { pass with queue := lower :: upper :: rest, clock } db := by
  obtain ⟨hlowerFrom, hlowerLe, hmiddle, hupperLe, hupperTo⟩ := splitRange_eq_some hsplit
  obtain ⟨hstart, hle, hhead⟩ := h.bounds range (by simp [hqueue])
  have hrest : ∀ r ∈ rest, r ∈ pass.queue := fun r hr => by simp [hqueue, hr]
  have hrange : range ∈ pass.queue := by simp [hqueue]
  have happart := h.apart
  rw [hqueue, List.pairwise_cons] at happart
  -- the halves hold together exactly the heights of the range they replace
  have hhalves : ∀ b, Within range b ↔ Within lower b ∨ Within upper b := by
    intro b
    unfold Within
    omega
  refine ⟨h.tidy, ?_, ?_, fun b hb hbHead => ?_, fun n hn => ⟨?_, (h.resumed n hn).2⟩, ?_, h.recorded, h.checkpoint⟩
  · intro r hr
    rcases List.mem_cons.1 hr with rfl | hr
    · exact ⟨by omega, hlowerLe, by omega⟩
    · rcases List.mem_cons.1 hr with rfl | hr
      · exact ⟨by omega, hupperLe, by omega⟩
      · exact h.bounds r (hrest r hr)
  · refine List.Pairwise.cons (fun r hr => ?_) (List.Pairwise.cons (fun r hr => ?_) happart.2)
    · rcases List.mem_cons.1 hr with rfl | hr
      · exact Or.inl (by omega)
      · have := happart.1 r hr
        unfold Apart at this ⊢
        omega
    · have := happart.1 r hr
      unfold Apart at this ⊢
      omega
  · refine (h.planned b hb hbHead).imp_right ?_
    rintro ⟨r, hr, hrb⟩
    rw [hqueue] at hr
    rcases List.mem_cons.1 hr with rfl | hr
    · rcases (hhalves b).1 hrb with hb | hb
      · exact ⟨lower, by simp, hb⟩
      · exact ⟨upper, by simp, hb⟩
    · exact ⟨r, by simp [hr], hrb⟩
  · have hfront := (h.resumed n hn).1
    intro r hr
    rcases List.mem_cons.1 hr with rfl | hr
    · rw [hlowerFrom]
      exact hfront range hrange
    · rcases List.mem_cons.1 hr with rfl | hr
      · have := hfront range hrange
        omega
      · exact hfront r (hrest r hr)
  · intro r hr b hb
    rcases List.mem_cons.1 hr with rfl | hr
    · exact h.waiting range hrange b ((hhalves b).2 (Or.inl hb))
    · rcases List.mem_cons.1 hr with rfl | hr
      · exact h.waiting range hrange b ((hhalves b).2 (Or.inr hb))
      · exact h.waiting r (hrest r hr) b hb

/-! ## Committing a range -/

/-- What the transaction of a committed range leaves: the recorded ranges as they were, and a checkpoint at the
range's end at least. -/
structure Ingested (config : ReplayConfig) (range : BlockRange) (db db' : Db) : Prop where
  ranges : db'.replayRanges = db.replayRanges
  checkpoint : laneCheckpoint config db' =
    some (((laneCheckpoint config db).map (max · range.toBlock)).getD range.toBlock)
  fits : fitsBigint range.toBlock = true
  registered : config.deploymentId ∈ db'.deployments ∧ config.chainKey ∈ db'.chains

theorem ingested_of_ok {range : BlockRange} {witness : RangeResult} {db db' : Db} {outcome : IngestOutcome}
    (h : ingestTransaction sha256 (batchOf config range witness) db = .ok (outcome, db')) :
    Ingested config range db db' := by
  obtain ⟨chainBlocks, chainLogs, observations, hadvance⟩ := ingestTransaction_ok h
  obtain ⟨⟨hfits, -, hdeployment, hchain⟩, ⟨replayCheckpoints, rfl⟩, hcheckpoint⟩ := advanceCheckpoint_ok hadvance
  exact ⟨rfl, hcheckpoint, hfits, hdeployment, hchain⟩

/-- The height of the checkpoint after a commit. -/
theorem Ingested.height {range : BlockRange} {db db' : Db} (h : Ingested config range db db') :
    ∃ n, laneCheckpoint config db' = some n ∧ range.toBlock ≤ n ∧ (∀ m, laneCheckpoint config db = some m → m ≤ n) ∧
      (n = range.toBlock ∨ laneCheckpoint config db = some n) := by
  refine ⟨_, h.checkpoint, ?_⟩
  cases laneCheckpoint config db with
  | none => simp
  | some m =>
    simp only [Option.map_some, Option.getD_some, Option.some_inj, forall_eq']
    omega

theorem Ingested.laneRanges {range : BlockRange} {db db' : Db} (h : Ingested config range db db') :
    laneRanges config db' = laneRanges config db := by
  unfold Replay.laneRanges completeRanges
  rw [h.ranges]

theorem Ingested.tidy {range : BlockRange} {db db' : Db} (h : Ingested config range db db')
    (htidy : Tidy sha256 config top db) : Tidy sha256 config top db' := by
  refine ⟨fun row hrow => htidy.rows row (by rwa [← h.ranges]), fun r hr => ?_⟩
  rw [h.laneRanges] at hr
  obtain ⟨m, hm, hrm⟩ := htidy.behind r hr
  obtain ⟨n, hn, -, hmn, -⟩ := h.height
  exact ⟨n, hn, hrm.trans (hmn m hm)⟩

/-- After a commit the range's status can be recorded. -/
theorem Ingested.upsert_succeeds {range : BlockRange} {db db' : Db} (h : Ingested config range db db')
    (hrange : InBounds config head range) (status : ReplayStatus) (reasonCode providerGroup : Option String) :
    ∃ db'', upsertRangeStatus (statusRow sha256 config range status reasonCode providerGroup) db' = .ok ((), db'') := by
  have hstart := config.startBlock_nonneg
  obtain ⟨hfrom, hle, -⟩ := hrange
  have hto := fitsBigint_iff.1 h.fits
  have hfits : fitsBigint range.fromBlock = true := fitsBigint_iff.2 ⟨by omega, by omega⟩
  exact ⟨_, upsertRangeStatus_succeeds ⟨hfits, h.fits⟩ hle h.registered.1 h.registered.2⟩

/-- A committed range whose status is recorded leaves the queue and covers its heights. -/
theorem PassCovers.commit (hids : CollisionFree sha256 config top) (hhead : head ≤ top) {pass pass' : Pass}
    {db db' db'' : Db} {range : BlockRange} {report : RangeReport} {providerGroup : Option String}
    (h : PassCovers sha256 config top head before pass db) (hqueue : pass.queue = range :: pass'.queue)
    (hreports : pass'.reports = pass.reports ++ [report]) (hrange : report.range = range)
    (hstatus : report.status = .complete) (hingested : Ingested config range db db')
    (hupsert : upsertRangeStatus (statusRow sha256 config range .complete none providerGroup) db' = .ok ((), db'')) :
    PassCovers sha256 config top head before pass' db'' := by
  have hfront : range ∈ pass.queue := by simp [hqueue]
  have hrest : ∀ r ∈ pass'.queue, r ∈ pass.queue := fun r hr => by simp [hqueue, hr]
  have hbounds := h.bounds range hfront
  have htidy := hingested.tidy h.tidy
  have hcompleted : ∀ c, c ∈ completed pass' ↔ c ∈ completed pass ∨ c = range := by
    intro c
    rw [completed_append pass pass' report hreports, if_pos hstatus, hrange, List.mem_append, List.mem_singleton]
  have happart := h.apart
  rw [hqueue, List.pairwise_cons] at happart
  have hdb'' := upsertRangeStatus_ok hupsert
  rw [mergedRow_statusRow hids htidy (hbounds.mono hhead)] at hdb''
  -- the commit adds this range to the lane and nothing else
  have hranges : ∀ x, x ∈ laneRanges config db'' ↔ x ∈ laneRanges config db ∨ x = range := by
    intro x
    rw [hdb'', mem_laneRanges_upsert hids htidy (hbounds.mono hhead), hingested.laneRanges]
    by_cases hx : x = range <;> simp [hx]
  have hgrows : ∀ b, Covered (laneRanges config db) b → Covered (laneRanges config db'') b := by
    rintro b ⟨x, hx, hxb⟩
    exact ⟨x, (hranges x).2 (Or.inl hx), hxb⟩
  obtain ⟨n, hn, hrangeN, holdN, hheight⟩ := hingested.height
  have hcheckpoint : laneCheckpoint config db'' = some n := by
    rw [hdb'']
    exact hn
  refine ⟨⟨fun row hrow => ?_, fun r hr => ⟨n, hcheckpoint, ?_⟩⟩, fun r hr => h.bounds r (hrest r hr), happart.2,
    fun b hb hbHead => ?_, fun m hm => ⟨fun r hr => (h.resumed m hm).1 r (hrest r hr), fun b hb hbm =>
      hgrows b ((h.resumed m hm).2 b hb hbm)⟩, fun r hr b hb => ?_, fun c hc => ?_, ?_⟩
  · rw [hdb''] at hrow
    exact rows_upsert htidy (hbounds.mono hhead) _ _ _ hrow
  · rcases (hranges r).1 hr with hr | rfl
    · obtain ⟨m, hm, hrm⟩ := h.tidy.behind r hr
      exact hrm.trans (holdN m hm)
    · exact hrangeN
  · rcases h.planned b hb hbHead with hcovered | ⟨r, hr, hrb⟩
    · exact Or.inl (hgrows b hcovered)
    · rw [hqueue] at hr
      rcases List.mem_cons.1 hr with rfl | hr
      · exact Or.inl ⟨r, (hranges r).2 (Or.inr rfl), hrb⟩
      · exact Or.inr ⟨r, hr, hrb⟩
  · rintro ⟨x, hx, hxb⟩
    rcases (hranges x).1 hx with hx | rfl
    · exact h.waiting r (hrest r hr) b hb ⟨x, hx, hxb⟩
    · have := happart.1 r hr
      unfold Apart at this
      unfold Within at hb hxb
      omega
  · rcases (hcompleted c).1 hc with hc | rfl
    · obtain ⟨hin, m, hm, hcm⟩ := h.recorded c hc
      exact ⟨hin, n, hcheckpoint, hcm.trans (holdN m hm)⟩
    · exact ⟨hbounds, n, hcheckpoint, hrangeN⟩
  · right
    -- the checkpoint moved to the end of this range, or an earlier commit had already passed it
    rcases hheight with rfl | hkept
    · exact ⟨range, (hcompleted range).2 (Or.inr rfl), hcheckpoint⟩
    · -- a checkpoint that stays lies at or past the range, so it is no longer the one the run started from
      rcases h.checkpoint with hbefore | ⟨c, hc, hcn⟩
      · have := (h.resumed n (hbefore.symm.trans hkept)).1 range hfront
        have := hbounds.2.1
        omega
      · exact ⟨c, (hcompleted c).2 (Or.inl hc), by rw [hcheckpoint, ← hkept, hcn]⟩

/-! ## An iteration -/

/-- A waiting range is not recorded. -/
theorem PassCovers.not_recorded {pass : Pass} {db : Db} (h : PassCovers sha256 config top head before pass db)
    {r : BlockRange} (hr : r ∈ pass.queue) : r ∉ laneRanges config db := fun hmem =>
  h.waiting r hr r.fromBlock ⟨le_rfl, (h.bounds r hr).2.1⟩ ⟨r, hmem, le_rfl, (h.bounds r hr).2.1⟩

/-- Giving up a range that is not recorded moves nothing. -/
theorem GaveUp.unmoved (hids : CollisionFree sha256 config top) {range : BlockRange} {db db' : Db}
    (htidy : Tidy sha256 config top db) (hrange : InBounds config top range) (hnew : range ∉ laneRanges config db)
    (h : GaveUp sha256 config range db db') : Unmoved sha256 config top db db' := by
  cases h with
  | incident dataQualityIncidents => exact ⟨rfl, fun _ => Iff.rfl, ⟨htidy.rows, htidy.behind⟩⟩
  | status dataQualityIncidents status reasonCode providerGroup hstatus =>
    rw [mergedRow_statusRow hids htidy hrange]
    have hranges : ∀ x, x ∈ laneRanges config { db with
        replayRanges := db.replayRanges.upsert (statusRow sha256 config range status reasonCode providerGroup) } ↔
          x ∈ laneRanges config db := by
      intro x
      rw [mem_laneRanges_upsert hids htidy hrange]
      constructor
      · rintro (⟨hcomplete, -⟩ | ⟨hx, -⟩)
        · exact absurd hcomplete hstatus
        · exact hx
      · intro hx
        exact Or.inr ⟨hx, fun hsame => hnew (hsame ▸ hx)⟩
    exact ⟨rfl, hranges, ⟨fun row hrow => rows_upsert htidy hrange _ _ _ hrow, fun r hr =>
      htidy.behind r ((hranges r).1 hr)⟩⟩

/-- A pass that serves its queue from the lowest range up. -/
structure InOrder (pass : Pass) : Prop where
  ascending : pass.queue.Pairwise fun a b => a.toBlock < b.fromBlock
  stopped : StoppedInOrder pass

theorem InOrder.split {pass : Pass} (h : InOrder pass) {range lower upper : BlockRange} {rest : List BlockRange}
    (hqueue : pass.queue = range :: rest) (hsplit : splitRange range = some (lower, upper)) (clock : Nat) :
    InOrder { pass with queue := lower :: upper :: rest, clock } := by
  obtain ⟨hlowerFrom, hlowerLe, hmiddle, hupperLe, hupperTo⟩ := splitRange_eq_some hsplit
  have hascending := h.ascending
  rw [hqueue, List.pairwise_cons] at hascending
  refine ⟨List.Pairwise.cons (fun r hr => ?_) (List.Pairwise.cons (fun r hr => ?_) hascending.2), fun r hr c hc => ?_⟩
  · rcases List.mem_cons.1 hr with rfl | hr
    · omega
    · have := hascending.1 r hr
      omega
  · have := hascending.1 r hr
    omega
  · have hfront := h.stopped range (by simp [hqueue]) c hc
    rcases List.mem_cons.1 hr with rfl | hr
    · omega
    · rcases List.mem_cons.1 hr with rfl | hr
      · omega
      · exact h.stopped r (by simp [hqueue, hr]) c hc

theorem InOrder.commit {pass pass' : Pass} (h : InOrder pass) {range : BlockRange} {report : RangeReport}
    (hqueue : pass.queue = range :: pass'.queue) (hreports : pass'.reports = pass.reports ++ [report])
    (hrange : report.range = range) : InOrder pass' := by
  have hascending := h.ascending
  rw [hqueue, List.pairwise_cons] at hascending
  refine ⟨hascending.2, fun r hr c hc => ?_⟩
  rw [completed_append pass pass' report hreports, List.mem_append] at hc
  rcases hc with hc | hc
  · exact h.stopped r (by simp [hqueue, hr]) c hc
  · split at hc
    · rw [List.mem_singleton.1 hc, hrange]
      exact hascending.1 r hr
    · simp at hc

variable {port : LogSourcePort} {now : Int}

/-- Every iteration keeps the invariant and the order, or ends the loop where it stands: the store moves only with a
committed range. -/
theorem serveNext_covers (hids : CollisionFree sha256 config top) (hhead : head ≤ top) {pass : Pass} {db : Db}
    {C : Awaited StoreCall Db → Prop} (h : PassCovers sha256 config top head before pass db)
    (hunmoved : ∀ x : Awaited StoreCall Db, Unmoved sha256 config top db x.after → C x)
    (hingested : ∀ db', C { op := .ingestTransaction, ok := true, after := db' })
    (hrecorded : ∀ x : Awaited StoreCall Db, ∀ pass', PassCovers sha256 config top head before pass' x.after →
      (InOrder pass → InOrder pass') → C x) :
    (serveNext sha256 port config now pass db).Meets C
      (Awaits.Next.post (fun p s => PassCovers sha256 config top head before p s ∧ (InOrder pass → InOrder p))
        fun _ s => Unmoved sha256 config top db s) fun _ s => Unmoved sha256 config top db s := by
  have hstays : ∀ integrityIncidents, Unmoved sha256 config top db { db with integrityIncidents } :=
    fun _ => ⟨rfl, fun _ => Iff.rfl, ⟨h.tidy.rows, h.tidy.behind⟩⟩
  refine meets_serveNext (fun _ => hstays db.integrityIncidents) (fun _ _ _ _ _ => hstays db.integrityIncidents) ?_ ?_ ?_
  · intro range rest lower upper clock hqueue hcollect
    have hsplit := collectRange_split hcollect
    exact ⟨h.split hqueue hsplit clock, fun horder => horder.split hqueue hsplit clock⟩
  · intro range rest reason group clock hqueue _
    have hfront : range ∈ pass.queue := by simp [hqueue]
    have hgaveUp : ∀ db', GaveUp sha256 config range db db' → Unmoved sha256 config top db db' := fun db' =>
      GaveUp.unmoved hids h.tidy ((h.bounds range hfront).mono hhead) (h.not_recorded hfront)
    exact meets_blockRange (fun x _ hx => hunmoved x (hgaveUp _ hx)) (fun _ _ hdb' => hgaveUp _ hdb')
      fun _ _ hdb' _ _ => hgaveUp _ hdb'
  · intro range rest results digest clock hqueue _
    refine meets_commitRange (fun x _ ⟨_, hx⟩ => hunmoved x (hx ▸ hstays _)) (fun _ _ _ => hstays _)
      (fun _ _ _ _ _ => hstays _) ?_
    intro witness _ outcome db' hok
    have hdb' := ingested_of_ok hok
    have hfront : range ∈ pass.queue := by simp [hqueue]
    refine ⟨hingested db', fun providerGroup => ⟨fun violation hviolation => ?_, fun db'' hupsert => ?_⟩⟩
    · obtain ⟨db'', hupsert⟩ := hdb'.upsert_succeeds (h.bounds range hfront) .complete none providerGroup
      rw [hviolation] at hupsert
      cases hupsert
    · have hnext : ∀ pass' report, pass.queue = range :: pass'.queue → pass'.reports = pass.reports ++ [report] →
          report.range = range → report.status = .complete →
          PassCovers sha256 config top head before pass' db'' ∧ (InOrder pass → InOrder pass') :=
        fun pass' report hqueue' hreports hrange hstatus =>
          ⟨h.commit hids hhead hqueue' hreports hrange hstatus hdb' hupsert,
            fun horder => horder.commit hqueue' hreports hrange⟩
      let report : RangeReport := { range, status := .complete, reason := none, providerGroups := [], digest := none }
      let pass' : Pass := { pass with queue := rest, reports := pass.reports ++ [report] }
      obtain ⟨hcovers, horder⟩ := hnext pass' report hqueue rfl rfl rfl
      exact ⟨hrecorded _ pass' hcovers horder, fun report hrange hstatus _ => hnext _ report hqueue rfl hrange hstatus⟩

end Loop

/-! ## A run -/

/-- What a run is given besides the store and the lane. -/
structure ReplayRun where
  port : LogSourcePort
  hints : List PriorityHint
  now : Int

section Run

variable (sha256 : String → String) (config : ReplayConfig) (top : Int)

def ReplayRun.on (run : ReplayRun) (db : Db) : Ended StoreCall Db ReplayFailure ReplayReport :=
  runReplay sha256 run.port config run.now run.hints db

/-- The considered hints of the run ask for the lowest ranges of its plan. -/
def ReplayRun.HintsInOrder (run : ReplayRun) (db : Db) : Prop :=
  ∀ head planned, run.port.agreedAcceptedHead config.chainKey = .ok head →
    planRanges (planOf run.port config (laneCheckpoint config db) head) = .ok planned →
      Replay.HintsInOrder planned (run.hints.take config.maxHintsConsidered)

/-- The run's head is not past the height. -/
def ReplayRun.HeadWithin (run : ReplayRun) : Prop :=
  ∀ head, run.port.agreedAcceptedHead config.chainKey = .ok head → head ≤ top

variable {sha256 config top}

/-- Concluding a run moves neither the ranges nor the checkpoint. -/
theorem conclude_unmoved {head now : Int} {before : Option Int} {pass : Pass} {db : Db}
    {C : Awaited StoreCall Db → Prop} (htidy : Tidy sha256 config top db)
    (hC : ∀ x : Awaited StoreCall Db, Unmoved sha256 config top db x.after → C x) :
    (conclude config now head before pass db).Meets C (fun _ s => Unmoved sha256 config top db s)
      fun _ s => Unmoved sha256 config top db s := by
  have hsame := Unmoved.refl htidy
  refine meets_conclude (hC _ hsame) (fun _ _ _ _ => ⟨hC _ hsame, hsame⟩) ?_
  rintro committed row db' - - rfl
  have hwritten : Unmoved sha256 config top db
      { db with replayCompleteness := db.replayCompleteness.upsert row } :=
    ⟨rfl, fun _ => Iff.rfl, ⟨htidy.rows, htidy.behind⟩⟩
  exact ⟨hC _ hwritten, hC _ hwritten, hwritten⟩

variable (sha256 config top) in
/-- The lane's rows are in order and its checkpoint has no hole behind it. -/
def Kept (db : Db) : Prop := Tidy sha256 config top db ∧ NoHole config db

/-- The operation did not commit the facts of a range. -/
def NotCommit (x : Awaited StoreCall Db) : Prop := ¬ (x.op = .ingestTransaction ∧ x.ok = true)

theorem Kept.of_unmoved {before after : Db} (h : Kept sha256 config top before)
    (hunmoved : Unmoved sha256 config top before after) : Kept sha256 config top after :=
  ⟨hunmoved.tidy, hunmoved.noHole_iff.2 h.2⟩

theorem Fresh.kept {db : Db} (h : Fresh sha256 config top db) : Kept sha256 config top db := ⟨h.tidy, h.noHole⟩

/-- A run whose hints ask for the lowest ranges keeps the lane free of holes, after every operation but the commit of a
range. -/
theorem run_kept (hids : CollisionFree sha256 config top) {run : ReplayRun} {db : Db}
    (hhints : run.HintsInOrder config db) (hhead : run.HeadWithin config top) (h : Kept sha256 config top db) :
    (run.on sha256 config db).Meets (fun x => NotCommit x → Kept sha256 config top x.after)
      (fun _ => Kept sha256 config top) fun _ => Kept sha256 config top := by
  refine meets_runReplay (fun _ _ _ => h) (fun _ _ => h) (fun _ _ _ _ => h) ?_
  intro head planned hport hplan
  have htiles := planRanges_ok hplan
  rw [prioritise_eq_self htiles.starts_ascending (hhints head planned hport hplan)]
  have hstart := PassCovers.initial h.1 h.2 htiles (List.Perm.refl planned) (laneSuccess config db)
  have horder : InOrder (firstPass planned (laneSuccess config db)) :=
    ⟨htiles.ascending, by simp [StoppedInOrder, completed, firstPass]⟩
  unfold serveQueue
  refine Awaits.meets_bind (Q := fun _ => Kept sha256 config top) (Awaits.meets_loop
    (I := fun p s => PassCovers sha256 config top head (laneCheckpoint config db) p s ∧ InOrder p)
    (fun pass s hpass => ?_) ⟨hstart, horder⟩) fun pass s hs => ?_
  · have hkept : Kept sha256 config top s := ⟨hpass.1.tidy, hpass.1.noHole hpass.2.stopped⟩
    have hstep : (serveNext sha256 run.port config run.now pass s).Meets
        (fun x => NotCommit x → Kept sha256 config top x.after) _ _ :=
      serveNext_covers hids (hhead head hport) hpass.1 (fun x hx _ => hkept.of_unmoved hx)
      (fun _ hnot => absurd ⟨rfl, rfl⟩ hnot)
      (fun x pass' hcovers hnext _ => ⟨hcovers.tidy, hcovers.noHole (hnext hpass.2).stopped⟩)
    refine hstep.mono (fun _ hC => hC) ?_ fun _ s' hs' => hkept.of_unmoved hs'
    intro next s' hnext
    cases next with
    | again pass' => exact ⟨hnext.1, hnext.2 hpass.2⟩
    | done pass' => exact hkept.of_unmoved hnext
  · have hend : (conclude config run.now head (laneCheckpoint config db) pass s).Meets
        (fun x => NotCommit x → Kept sha256 config top x.after) _ _ :=
      conclude_unmoved hs.1 fun x hx _ => hs.of_unmoved hx
    exact hend.mono (fun _ hC => hC) (fun _ _ h' => hs.of_unmoved h') fun _ _ h' => hs.of_unmoved h'

end Run

/-! ## The sample lane -/

theorem sample_collisionFree : CollisionFree sampleSha256 sampleConfig 1 := by
  rintro ⟨a, b⟩ ⟨ha, hab, hb⟩ ⟨c, d⟩ ⟨hc, hcd, hd⟩ h
  change (0 : Int) ≤ a at ha
  change (0 : Int) ≤ c at hc
  dsimp only at hab hb hcd hd
  have ha' : a = 0 ∨ a = 1 := by omega
  have hb' : b = 0 ∨ b = 1 := by omega
  have hc' : c = 0 ∨ c = 1 := by omega
  have hd' : d = 0 ∨ d = 1 := by omega
  rcases ha' with rfl | rfl <;> rcases hb' with rfl | rfl <;> rcases hc' with rfl | rfl <;>
    rcases hd' with rfl | rfl <;> first | rfl | omega | exact absurd h (by decide +kernel)

theorem sample_fresh (top : Int) : Fresh sampleSha256 sampleConfig top sampleDb := by
  refine ⟨rfl, fun row hrow => ?_⟩
  simp [sampleDb, Db.registered] at hrow

end IcttSentinel.Replay
