/-
An `OK` replay is backed by evidence. Whatever the store held before, however the port behaves and
whatever is hinted: every committed range was answered by a quorum of independent groups over one
digest, and a run reports `OK` only when the recorded ranges cover its window, nothing blocked or
contested it, and its newest success is within the time to live.

The loop's invariant (`PassSound`) keeps the quorum of every complete report and a blocking or
diverging reason for every other; the trail's contract keeps the quorum of every commit.
-/
import IcttSentinel.Replay.Engine

namespace IcttSentinel.Replay

open IcttSentinel.Domain IcttSentinel.Lib IcttSentinel.Storage

/-! ## The quorum behind a range -/

/-- The results of one attempt at a range, in which every group answered and all agree on the digest. -/
structure Quorum (sha256 : String → String) (port : LogSourcePort) (config : ReplayConfig) (range : BlockRange)
    (digest : String) (results : List RangeResult) : Prop where
  answered : ∃ clock clock', askGroups sha256 port config range (port.providerGroups clock config.chainKey) clock [] =
    .ok (.results results, clock')
  classified : ∀ r ∈ results, ∃ clock group o, port.fetchRange clock config.chainKey group range = .ok (.ok o) ∧
    classifyObservation sha256 o = .ok r
  sameDigest : ∀ r ∈ results, r.digest = digest
  independent : config.agreement.requiredIndependentGroups ≤ (independentGroups results).length
  declaredArchive : ∀ r ∈ results, r.viaArchive = true → config.agreement.archiveFallbackDeclared = true

section Collect

variable {sha256 : String → String} {port : LogSourcePort} {config : ReplayConfig} {range : BlockRange}

/-- The groups' answers are classified observations. -/
theorem askGroups_results {groups : List String} {clock clock' : Nat} {sofar results : List RangeResult}
    (h : askGroups sha256 port config range groups clock sofar = .ok (.results results, clock')) :
    ∀ r ∈ results, r ∈ sofar ∨ ∃ clock group o, port.fetchRange clock config.chainKey group range = .ok (.ok o) ∧
      classifyObservation sha256 o = .ok r := by
  induction groups generalizing clock sofar with
  | nil =>
    cases h
    exact fun r hr => Or.inl hr
  | cons group groups ih =>
    unfold askGroups at h
    cases hfetch : port.fetchRange clock config.chainKey group range with
    | error message =>
      rw [hfetch] at h
      cases h
    | ok outcome =>
      rw [hfetch] at h
      cases outcome with
      | failed reason g => cases h
      | ok o =>
        dsimp only at h
        cases hclass : classifyObservation sha256 o with
        | failed reason g =>
          rw [hclass] at h
          cases h
        | ok result =>
          rw [hclass] at h
          intro r hr
          rcases ih h r hr with hr | hr
          · rcases List.mem_append.1 hr with hr | hr
            · exact Or.inl hr
            · rw [List.mem_singleton.1 hr]
              exact Or.inr ⟨clock, group, o, hfetch, hclass⟩
          · exact Or.inr hr

theorem attemptRange_agreed {clock clock' : Nat} {witnesses : List RangeResult} {digest : String}
    (h : attemptRange sha256 port config range clock = .ok (.inl (witnesses, digest), clock')) :
    ∃ results, Quorum sha256 port config range digest results ∧ (∀ w ∈ witnesses, w ∈ results) ∧ witnesses ≠ [] := by
  unfold attemptRange at h
  cases hask : askGroups sha256 port config range (port.providerGroups clock config.chainKey) clock [] with
  | error message =>
    rw [hask] at h
    cases h
  | ok answers =>
    obtain ⟨answers, clock₁⟩ := answers
    rw [hask] at h
    cases answers with
    | failure reason group => cases h
    | results results =>
      dsimp only at h
      cases hagree : agree results config.agreement with
      | blocked reason byDigest =>
        rw [hagree] at h
        cases h
      | agreed d ws =>
        rw [hagree] at h
        cases h
        obtain ⟨harchive, hdigest, hindependent, hwitnesses, hsome⟩ := agree_agreed hagree
        refine ⟨results, ⟨⟨clock, clock', hask⟩, fun r hr => ?_, hdigest, hindependent, harchive⟩,
          hwitnesses, hsome⟩
        exact (askGroups_results hask r hr).resolve_left (by simp)

/-- A range is only agreed on with a quorum, whatever was retried before. -/
theorem collectRange_agreed {attempts clock clock' : Nat} {witnesses : List RangeResult} {digest : String}
    (h : collectRange sha256 port config range attempts clock = .ok (.agreed witnesses digest, clock')) :
    ∃ results, Quorum sha256 port config range digest results ∧ ∀ w ∈ witnesses, w ∈ results := by
  fun_induction collectRange sha256 port config range attempts clock with
  | case1 => cases h
  | case2 attempts clock results' digest' clock₁ hattempt =>
    cases h
    obtain ⟨results, hquorum, hwitnesses, -⟩ := attemptRange_agreed hattempt
    exact ⟨results, hquorum, hwitnesses⟩
  | case3 attempts clock reason group clock₁ _ _ attempts' _ ih => exact ih h
  | case4 => cases h
  | case5 => cases h

/-- A range is only given up for a reason that blocks the replay or contests the chain view. -/
theorem collectRange_blocked {attempts clock clock' : Nat} {reason : ReplayReason} {group : Option String}
    (h : collectRange sha256 port config range attempts clock = .ok (.blocked reason group, clock')) :
    reason.isBlocking = true ∨ reason = .providerDivergence := by
  fun_induction collectRange sha256 port config range attempts clock with
  | case1 => cases h
  | case2 => cases h
  | case3 attempts clock reason group clock₁ _ _ attempts' _ ih => exact ih h
  | case4 => cases h
  | case5 attempts clock reason group clock₁ hattempt given hstep =>
    cases h
    exact nextStep_giveUp hstep

end Collect

/-! ## The loop keeps its evidence -/

section Loop

variable (sha256 : String → String) (port : LogSourcePort) (config : ReplayConfig) (now : Int)

/-- The operation is not a commit, or it committed the facts of a witness of a quorum. -/
def CommittedByQuorum (x : Awaited StoreCall Db) : Prop :=
  x.op = .ingestTransaction → x.ok = true → ∃ range digest results witness before outcome,
    Quorum sha256 port config range digest results ∧ witness ∈ results ∧
      ingestTransaction sha256 (batchOf config range witness) before = .ok (outcome, x.after)

/-- The invariant of a pass, relative to the last success stored before the run. -/
structure PassSound (prior : Option Int) (pass : Pass) : Prop where
  complete : ∀ r ∈ pass.reports, r.status = .complete →
    ∃ digest results, r.digest = some digest ∧ Quorum sha256 port config r.range digest results
  incomplete : ∀ r ∈ pass.reports, r.status ≠ .complete →
    ∃ reason ∈ pass.reasons, reason.isBlocking = true ∨ reason = .providerDivergence
  conflict : pass.integrityConflict = true → .providerDivergence ∈ pass.reasons
  success : pass.lastSuccessAt = some now ∨ (∀ r ∈ pass.reports, r.status ≠ .complete) ∧ pass.lastSuccessAt = prior

variable {sha256 port config now}

theorem PassSound.initial (queue : List BlockRange) (prior : Option Int) :
    PassSound sha256 port config now prior (firstPass queue prior) :=
  ⟨by simp [firstPass], by simp [firstPass], by simp [firstPass], Or.inr ⟨by simp [firstPass], rfl⟩⟩

/-- A pass that ends on a range not complete keeps the reason beside the report. -/
theorem PassSound.stopped {prior : Option Int} {pass pass' : Pass} {report : RangeReport} {reason : ReplayReason}
    (h : PassSound sha256 port config now prior pass)
    (hreason : reason.isBlocking = true ∨ reason = .providerDivergence) (hreport : report.status ≠ .complete)
    (hreports : pass'.reports = pass.reports ++ [report]) (hreasons : pass'.reasons = pass.reasons ++ [reason])
    (hconflict : pass'.integrityConflict = true → pass.integrityConflict = true ∨ reason = .providerDivergence)
    (hsuccess : pass'.lastSuccessAt = pass.lastSuccessAt) : PassSound sha256 port config now prior pass' := by
  refine ⟨fun r hr hcomplete => ?_, fun r _ _ => ⟨reason, by simp [hreasons], hreason⟩, fun hc => ?_, ?_⟩
  · rw [hreports] at hr
    rcases List.mem_append.1 hr with hr | hr
    · exact h.complete r hr hcomplete
    · rw [List.mem_singleton.1 hr] at hcomplete
      exact absurd hcomplete hreport
  · rw [hreasons]
    rcases hconflict hc with hc | hc
    · exact List.mem_append_left _ (h.conflict hc)
    · simp [hc]
  · rw [hsuccess]
    refine h.success.imp_right fun ⟨hnone, hprior⟩ => ⟨fun r hr => ?_, hprior⟩
    rw [hreports] at hr
    rcases List.mem_append.1 hr with hr | hr
    · exact hnone r hr
    · rw [List.mem_singleton.1 hr]
      exact hreport

/-- A pass that completes a range adds its report and is a success of its own time. -/
theorem PassSound.completed {prior : Option Int} {pass pass' : Pass} {report : RangeReport} {digest : String}
    {results : List RangeResult} (h : PassSound sha256 port config now prior pass)
    (hquorum : Quorum sha256 port config report.range digest results) (hdigest : report.digest = some digest)
    (hcomplete : report.status = .complete) (hreports : pass'.reports = pass.reports ++ [report])
    (hreasons : pass'.reasons = pass.reasons) (hconflict : pass'.integrityConflict = pass.integrityConflict)
    (hsuccess : pass'.lastSuccessAt = some now) : PassSound sha256 port config now prior pass' := by
  refine ⟨fun r hr hr' => ?_, fun r hr hr' => ?_, fun hc => ?_, Or.inl hsuccess⟩
  · rw [hreports] at hr
    rcases List.mem_append.1 hr with hr | hr
    · exact h.complete r hr hr'
    · rw [List.mem_singleton.1 hr]
      exact ⟨digest, results, hdigest, hquorum⟩
  · rw [hreports] at hr
    rw [hreasons]
    rcases List.mem_append.1 hr with hr | hr
    · exact h.incomplete r hr hr'
    · rw [List.mem_singleton.1 hr] at hr'
      exact absurd hcomplete hr'
  · rw [hreasons]
    exact h.conflict (hconflict ▸ hc)

theorem committedByQuorum_of_ne {x : Awaited StoreCall Db} (h : x.op = .ingestTransaction → x.ok = false) :
    CommittedByQuorum sha256 port config x := by
  intro hop hok
  rw [h hop] at hok
  cases hok

/-- Every iteration keeps the invariant, and commits by quorum only. -/
theorem serveNext_sound {prior : Option Int} {pass : Pass} (db : Db)
    (h : PassSound sha256 port config now prior pass) :
    (serveNext sha256 port config now pass db).Meets (CommittedByQuorum sha256 port config)
      (Awaits.Next.post (fun p _ => PassSound sha256 port config now prior p) fun p _ =>
        PassSound sha256 port config now prior p) fun _ _ => True := by
  refine meets_serveNext (fun _ => h) (fun _ _ _ _ _ => trivial)
    (fun _ _ _ _ _ _ _ => ⟨h.complete, h.incomplete, h.conflict, h.success⟩) ?_ ?_
  · intro range rest reason group clock _ hcollect
    refine meets_blockRange (fun x hop _ => committedByQuorum_of_ne fun h => absurd h hop) (fun _ _ _ => trivial) ?_
    intro db' report _ _ hstatus
    exact h.stopped (collectRange_blocked hcollect) hstatus rfl rfl Or.inl rfl
  · intro range rest witnesses digest clock _ hcollect
    obtain ⟨results, hquorum, hwitnesses⟩ := collectRange_agreed hcollect
    refine meets_commitRange (fun x hx _ => committedByQuorum_of_ne hx) (fun _ _ _ => trivial) ?_ ?_
    · intro report _ _ hstatus _
      exact h.stopped (Or.inr rfl) hstatus rfl rfl (fun _ => Or.inr rfl) rfl
    · intro witness hwitness outcome db' hingest
      refine ⟨fun _ _ => ⟨range, digest, results, witness, db, outcome, hquorum, hwitnesses witness hwitness, hingest⟩,
        fun providerGroup => ⟨fun _ _ => ⟨committedByQuorum_of_ne (by simp), trivial⟩, fun db'' _ =>
          ⟨committedByQuorum_of_ne (by simp), fun report hrange hstatus hdigest => ?_⟩⟩⟩
      exact h.completed (hrange ▸ hquorum) hdigest hstatus rfl rfl rfl rfl

end Loop

/-! ## A whole run -/

section Run

variable {sha256 : String → String} {port : LogSourcePort} {config : ReplayConfig} {now : Int}

/-- What a report says of the store it was written to: with `OK`, the window is covered, nothing is
outstanding and the last success is fresh. -/
structure Backed (config : ReplayConfig) (now : Int) (pass : Pass) (report : ReplayReport) (db : Db) : Prop where
  covered : ∀ b, config.startBlock ≤ b → b ≤ report.acceptedHead →
    Covered (laneRanges config db) b
  settled : ∀ reason ∈ pass.reasons, reason.isBlocking = false ∧ reason ≠ .providerDivergence
  reasons : report.reasons = pass.reasons
  fresh : ∃ t, pass.lastSuccessAt = some t ∧ now - t ≤ config.freshnessTtlMs
  stored : ∃ row, storedCompleteness db config.deploymentId config.chainKey = some row ∧
    row.lastSuccessAt = pass.lastSuccessAt

/-- The end of a run: an `OK` report is backed, and carries over what the pass collected. -/
theorem conclude_backed {head : Int} {checkpointBefore : Option Int} {pass : Pass} {db : Db}
    {C : Awaited StoreCall Db → Prop} (hC : ∀ x : Awaited StoreCall Db, x.op ≠ .ingestTransaction → C x) :
    (conclude config now head checkpointBefore pass db).Meets C
      (fun report db' => report.acceptedHead = head ∧ report.ranges = pass.reports ∧
        report.integrityConflict = pass.integrityConflict ∧ (report.verdict = .ok → Backed config now pass report db'))
      fun _ _ => True := by
  refine meets_conclude (hC _ (by simp)) (fun _ _ _ _ => ⟨hC _ (by simp), trivial⟩) ?_
  intro committed row db' hcommitted hrow hdb'
  refine ⟨hC _ (by simp), hC _ (by simp), rfl, rfl, rfl, fun hok => ?_⟩
  have hstatus := assessCompleteness_verdict.1 hok
  obtain ⟨hdivergent, hblocking, hgaps, t, ht, hfresh⟩ := assessCompleteness_complete.1 hstatus
  subst hdb'
  refine ⟨fun b hstart hhead => ?_, fun reason hr => ⟨hblocking reason hr, fun h => hdivergent (h ▸ hr)⟩,
    assessCompleteness_reasons hstatus, ⟨t, ht, hfresh⟩, row, ?_, by rw [hrow]; rfl⟩
  · obtain ⟨r, hr, hb⟩ := findRangeGaps_eq_nil.1 hgaps b hstart (Or.inl hhead)
    exact ⟨r, (hcommitted r).1 hr, hb⟩
  · have hlane : row.deploymentId = config.deploymentId ∧ row.chainKey = config.chainKey := by
      rw [hrow]
      exact ⟨rfl, rfl⟩
    rw [← hlane.1, ← hlane.2]
    exact storedCompleteness_upsert db row

/-- What a run that reports `OK` proves, for every store, port and list of hints. -/
theorem replay_ok_sound (sha256 : String → String) (port : LogSourcePort) (config : ReplayConfig) (now : Int)
    (hints : List PriorityHint) (db : Db) (report : ReplayReport)
    (hreport : (runReplay sha256 port config now hints db).result = .ok report) (hok : report.verdict = .ok) :
    let run := runReplay sha256 port config now hints db
    (port.agreedAcceptedHead config.chainKey = .ok report.acceptedHead ∧
      ∀ b, config.startBlock ≤ b → b ≤ report.acceptedHead →
        Covered (laneRanges config run.state) b) ∧
    ((∀ x ∈ run.trail, CommittedByQuorum sha256 port config x) ∧
      ∀ r ∈ report.ranges, r.status = .complete →
        ∃ digest results, r.digest = some digest ∧ Quorum sha256 port config r.range digest results) ∧
    ((∀ reason ∈ report.reasons, reason.isBlocking = false ∧ reason ≠ .providerDivergence) ∧
      (∀ r ∈ report.ranges, r.status = .complete) ∧ report.integrityConflict = false) ∧
    ∃ row t, storedCompleteness run.state config.deploymentId config.chainKey = some row ∧
      row.lastSuccessAt = some t ∧ now - t ≤ config.freshnessTtlMs ∧
      (t = now ∨ report.ranges = [] ∧ laneSuccess config db = some t) := by
  let prior := laneSuccess config db
  -- only an ingest has to be backed by a quorum
  have hread : ∀ x : Awaited StoreCall Db, x.op ≠ .ingestTransaction → CommittedByQuorum sha256 port config x :=
    fun x hop => committedByQuorum_of_ne fun h => absurd h hop
  have hrun : (runReplay sha256 port config now hints db).Meets (CommittedByQuorum sha256 port config)
      (fun report db' => port.agreedAcceptedHead config.chainKey = .ok report.acceptedHead ∧
        ∃ pass, PassSound sha256 port config now prior pass ∧ report.ranges = pass.reports ∧
          report.integrityConflict = pass.integrityConflict ∧
          (report.verdict = .ok → Backed config now pass report db')) fun _ _ => True := by
    refine meets_runReplay (fun op hop => hread _ hop) (fun _ _ => trivial) (fun _ _ _ _ => trivial) ?_
    intro head planned hhead _
    unfold serveQueue
    refine Awaits.meets_bind (Awaits.meets_loop (I := fun p _ => PassSound sha256 port config now prior p)
      (fun pass db h => serveNext_sound db h) (PassSound.initial _ _)) ?_
    intro pass s' hpass
    refine (conclude_backed hread).mono (fun _ h => h) ?_ fun _ _ _ => trivial
    rintro report db' ⟨hacceptedHead, hranges, hconflict, hbacked⟩
    exact ⟨by rw [hacceptedHead]; exact hhead, pass, hpass, hranges, hconflict, hbacked⟩
  obtain ⟨hhead, pass, hpass, hranges, hconflict, hbacked⟩ := hrun.ok report hreport
  obtain ⟨hcovered, hsettled, hreasons, ⟨t, ht, hfresh⟩, row, hrow, hlast⟩ := hbacked hok
  -- an incomplete range leaves a blocking reason, and none is settled
  have hallComplete : ∀ r ∈ report.ranges, r.status = .complete := by
    intro r hr
    by_contra hne
    obtain ⟨reason, hmem, hblocks⟩ := hpass.incomplete r (hranges ▸ hr) hne
    rcases hblocks with hblocks | hblocks
    · rw [(hsettled reason hmem).1] at hblocks
      cases hblocks
    · exact (hsettled reason hmem).2 hblocks
  refine ⟨⟨hhead, hcovered⟩, ⟨hrun.trail, fun r hr => hpass.complete r (hranges ▸ hr)⟩,
    ⟨fun reason hr => hsettled reason (hreasons ▸ hr), hallComplete, ?_⟩, row, t, hrow, hlast.trans ht, hfresh, ?_⟩
  · by_contra hne
    have htrue : pass.integrityConflict = true := by rw [← hconflict]; simpa using hne
    exact (hsettled _ (hpass.conflict htrue)).2 rfl
  · rcases hpass.success with hnow | ⟨hnone, hprior⟩
    · left
      exact Option.some.inj (ht.symm.trans hnow)
    · right
      refine ⟨List.eq_nil_iff_forall_not_mem.2 fun r hr => hnone r (hranges ▸ hr) (hallComplete r hr), ?_⟩
      exact hprior.symm.trans ht

end Run

/-! ## A sample lane -/

def sampleConfig : ReplayConfig where
  deploymentId := "dep"
  chainKey := "home"
  startBlock := 0
  agreement := { requiredIndependentGroups := 2, archiveFallbackDeclared := false }
  retryBudget := 2
  freshnessTtlMs := 60000
  maxHintsConsidered := 4
  startBlock_nonneg := by decide
  freshnessTtlMs_nonneg := by decide

def sampleHash (height : Int) : String := "0x" ++ String.ofList (List.replicate 63 'a') ++ toString height

def sampleBlock (height : Int) : BlockFact where
  chainKey := "home"
  blockHash := sampleHash height
  blockNumber := height
  parentHash := sampleHash 9
  blockTimestamp := 1700000000
  observedClass := .accepted
  observedAt := 1700000000

/-- The answer of a group whose endpoint holds the blocks 0 and 1, both without logs. -/
def sampleObservation (group : String) (range : BlockRange) : RangeObservation where
  providerGroup := group
  range
  startBlockHash := sampleHash range.fromBlock
  endBlockHash := sampleHash range.toBlock
  logCount := 0
  logs := []
  blocks := ([0, 1].filter fun n => decide (range.fromBlock ≤ n ∧ n ≤ range.toBlock)).map sampleBlock
  complete := true
  viaArchive := false

/-- Two groups that serve one block at a time and have pruned some heights. -/
def sampleLane (head : Int) (pruned : List Int) : LogSourcePort where
  agreedAcceptedHead _ := .ok head
  providerGroups _ _ := ["alpha", "beta"]
  maxRangeBlocks _ _ := 1
  fetchRange _ _ group range :=
    if pruned.contains range.fromBlock then .ok (.failed .prunedHistory group)
    else .ok (.ok (sampleObservation group range))

def sampleDb : Db := .registered ["dep"] ["home"]

/-- The text a range of the sample lane is digested as, from the digests of its logs and blocks. -/
def sampleRangeText (lo hi : Int) (blockDigest : String) : String :=
  "|".intercalate
    [toString lo, toString hi, sampleHash lo, sampleHash hi, "0",
      "e3b0c44298fc1c149afbf4c8996fb92427ae41e4649b934ca495991b7852b855", blockDigest]

/-- The texts of the sample lane with their SHA-256. -/
def sampleDigests : List (String × String) :=
  [("", "e3b0c44298fc1c149afbf4c8996fb92427ae41e4649b934ca495991b7852b855"),
    ("dep|home|0|0", "f4ca4b9c6fbf5b83b73df1b0a8e7cfbaf020fc82269ff80d589990382a40f537"),
    ("dep|home|1|1", "34b3ec7814eea9fc055d84f439f091a09ebcc7f1c2963a1bc151130543ae776e"),
    ("dep|home|0|1", "6f9607ea4e312dc9be4b9358d860a0d75af77af1b4ceff250477cf181865823e"),
    ("dep|home|0|0|PRUNED_HISTORY", "3129184a0d75ab04fa765c7773d6792b9f5546852adfe6ea3560751567a735eb"),
    (blockLine (sampleBlock 0), "c5b074b0e58fa183d7c3144317b01698d40001784b961b79d90655b1514c1b39"),
    (blockLine (sampleBlock 1), "2a7ab89ab76ab6fdf908bce4d9b5d6545ad9c650557ec1188b2ec3dc046ad222"),
    (blockLine (sampleBlock 0) ++ blockLine (sampleBlock 1),
      "42ee366e1f8fe9a1b01d833bc054a4589665289cefeec205723b60e950e7161b"),
    (sampleRangeText 0 0 "c5b074b0e58fa183d7c3144317b01698d40001784b961b79d90655b1514c1b39",
      "cdbdca03d1b3df8b5e17192587882d097477b60c4b4a798b3290a8d0e2431946"),
    (sampleRangeText 1 1 "2a7ab89ab76ab6fdf908bce4d9b5d6545ad9c650557ec1188b2ec3dc046ad222",
      "3cb284f2e9aaf7c9670e961c6bdae8f4f95fb82d33776e6153549fade89e8def"),
    (sampleRangeText 0 1 "42ee366e1f8fe9a1b01d833bc054a4589665289cefeec205723b60e950e7161b",
      "b1da0c71d5ce27aae56bec10c32686eccce41ec49a6673c4644761a69b0c7129")]

/-- SHA-256 on the texts of the sample lane. -/
def sampleSha256 (text : String) : String := ((sampleDigests.find? fun d => d.1 = text).map (·.2)).getD ""

/-- The report of the sample lane on its two blocks. -/
def sampleReport : ReplayReport where
  ranges := [0, 1].map fun n =>
    { range := { fromBlock := n, toBlock := n }
      status := .complete
      reason := none
      providerGroups := ["alpha", "beta"]
      digest := some (rangeDigest sampleSha256 (sampleObservation "alpha" { fromBlock := n, toBlock := n })) }
  acceptedHead := 1
  checkpointBefore := none
  checkpointAfter := some 1
  gapCount := 0
  status := .complete
  verdict := .ok
  reasons := []
  integrityConflict := false

theorem replay_ok_sound_sample :
    let run := runReplay sampleSha256 (sampleLane 1 []) sampleConfig 7 [] sampleDb
    run.result = .ok sampleReport ∧ (∀ b, 0 ≤ b → b ≤ 1 → Covered (laneRanges sampleConfig run.state) b) ∧
      (∀ x ∈ run.trail, CommittedByQuorum sampleSha256 (sampleLane 1 []) sampleConfig x) ∧
      ∃ row t, storedCompleteness run.state "dep" "home" = some row ∧ row.lastSuccessAt = some t ∧ 7 - t ≤ 60000 := by
  have hreport : (runReplay sampleSha256 (sampleLane 1 []) sampleConfig 7 [] sampleDb).result = .ok sampleReport := by
    decide +kernel
  obtain ⟨⟨-, hcovered⟩, ⟨hcommitted, -⟩, -, row, t, hrow, ht, hfresh, -⟩ :=
    replay_ok_sound sampleSha256 (sampleLane 1 []) sampleConfig 7 [] sampleDb sampleReport hreport rfl
  exact ⟨hreport, hcovered, hcommitted, row, t, hrow, ht, hfresh⟩

end IcttSentinel.Replay
