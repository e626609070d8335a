/-
Recovery after a cut. A run may end between any two of its awaited operations, and the store is then
as the last of them left it. The facts of a range and the checkpoint over them are one transaction,
but its status is recorded by the next statement: cut between the two, the checkpoint has passed a
range that no later plan asks for.

Everywhere else a run without hints keeps the lane free of holes (`Kept`), and from a lane without
holes a run whose witnesses all answer and agree collects the whole window.
-/
import IcttSentinel.Replay.Coverage

namespace IcttSentinel.Replay

open IcttSentinel.Domain IcttSentinel.Lib IcttSentinel.Storage

/-! ## Runs that may be cut -/

section Past

variable (sha256 : String → String) (config : ReplayConfig) (top : Int)

/-- The stores that runs without hints leave behind, where a run may be cut after an operation that `Cut` admits. -/
inductive Past (Cut : Awaited StoreCall Db → Prop) : Db → Prop where
  | fresh (db : Db) (hfresh : Fresh sha256 config top db) : Past Cut db
  | ended (run : ReplayRun) (db : Db) (hpast : Past Cut db) (hhints : run.hints = [])
      (hhead : run.HeadWithin config top) : Past Cut (run.on sha256 config db).state
  | cut (run : ReplayRun) (db : Db) (x : Awaited StoreCall Db) (hpast : Past Cut db) (hhints : run.hints = [])
      (hhead : run.HeadWithin config top) (hx : x ∈ (run.on sha256 config db).trail) (hcut : Cut x) : Past Cut x.after

variable {sha256 config top}

/-- Without hints the plan is served in its own order. -/
theorem ReplayRun.hintsInOrder_of_nil {run : ReplayRun} (hhints : run.hints = []) (db : Db) :
    run.HintsInOrder config db := by
  intro head planned _ _
  rw [hhints, List.take_nil]
  exact hintsInOrder_nil planned

/-- Where no run was cut directly after a commit, the lane has no hole. -/
theorem Past.kept (hids : CollisionFree sha256 config top) {db : Db} (h : Past sha256 config top NotCommit db) :
    Kept sha256 config top db := by
  induction h with
  | fresh db hfresh => exact hfresh.kept
  | ended run db _ hhints hhead ih => exact (run_kept hids (run.hintsInOrder_of_nil hhints db) hhead ih).state
  | cut run db x _ hhints hhead hx hcut ih =>
    exact (run_kept hids (run.hintsInOrder_of_nil hhints db) hhead ih).trail x hx hcut

end Past

/-! ## Witnesses that answer and agree -/

section Agree

variable (sha256 : String → String) (config : ReplayConfig) (top : Int)

/-- The facts of a witness can be stored, and belong to one view of the chain. -/
def OfView (view : Int → String) (w : RangeResult) : Prop :=
  (∀ b ∈ w.blocks, b.storable = true ∧ b.chainKey = config.chainKey ∧ b.blockHash = view b.blockNumber) ∧
    (∀ l ∈ w.logs, l.storable = true ∧ l.chainKey = config.chainKey) ∧ matchesHex "0x" 64 w.endBlockHash = true

instance (view : Int → String) (w : RangeResult) : Decidable (OfView config view w) := by
  unfold OfView
  infer_instance

/-- Every witness answers every range of the window, they all agree, and what they report fits the ledger. -/
structure WitnessesAgree (port : LogSourcePort) (head : Int) (view : Int → String) (db : Db) : Prop where
  answered : port.agreedAcceptedHead config.chainKey = .ok head
  started : config.startBlock ≤ head
  fits : fitsBigint head = true
  capable : 1 ≤ planWidth port config (port.providerGroups 0 config.chainKey)
  agreed : ∀ range, InBounds config head range → ∀ clock, ∃ witnesses digest clock',
    attemptRange sha256 port config range clock = .ok (.inl (witnesses, digest), clock') ∧
      ∀ w ∈ witnesses, OfView config view w
  receives : Receives config.deploymentId config.chainKey view db

/-- The run ends with no gap: the whole window is covered and the replay is complete. -/
def Recovered (head : Int) (run : Ended StoreCall Db ReplayFailure ReplayReport) : Prop :=
  ∃ report, run.result = .ok report ∧ report.acceptedHead = head ∧
    (∀ b, config.startBlock ≤ b → b ≤ head → Covered (laneRanges config run.state) b) ∧
    report.gapCount = 0 ∧ report.status = .complete

variable {sha256 config top} {port : LogSourcePort} {head : Int} {view : Int → String} {db : Db} {now : Int}

/-- An agreed range of such a run is always collected. -/
theorem WitnessesAgree.collects (h : WitnessesAgree sha256 config port head view db) {range : BlockRange}
    (hrange : InBounds config head range) (clock : Nat) :
    ∃ witnesses digest clock', collectRange sha256 port config range 0 clock = .ok (.agreed witnesses digest, clock') ∧
      witnesses ≠ [] ∧ ∀ w ∈ witnesses, OfView config view w ∧
        ∀ l ∈ w.logs, ∃ b ∈ w.blocks, b.key = (l.chainKey, l.blockHash) := by
  obtain ⟨witnesses, digest, clock', hattempt, hview⟩ := h.agreed range hrange clock
  obtain ⟨results, hquorum, hresults, hsome⟩ := attemptRange_agreed hattempt
  refine ⟨witnesses, digest, clock', ?_, hsome, fun w hw => ⟨hview w hw, fun l hl => ?_⟩⟩
  · rw [collectRange, hattempt]
  · obtain ⟨_, _, o, -, hclass⟩ := hquorum.classified w (hresults w hw)
    obtain ⟨rfl, -, hblocks⟩ := classifyObservation_ok hclass
    obtain ⟨hblocksView, hlogsView, -⟩ := hview _ hw
    obtain ⟨b, hb, hhash⟩ := hblocks l hl
    exact ⟨b, hb, Prod.ext ((hblocksView b hb).2.1.trans (hlogsView l hl).2.symm) hhash⟩

/-- Every iteration of such a run commits the range in front, or finds the queue empty. -/
theorem serveNext_agreed (h : WitnessesAgree sha256 config port head view db) {pass : Pass} {s : Db}
    (hbounds : ∀ r ∈ pass.queue, InBounds config head r)
    (hreceives : Receives config.deploymentId config.chainKey view s) :
    (serveNext sha256 port config now pass s).Meets (fun _ => True)
      (Awaits.Next.post (fun p s' => Receives config.deploymentId config.chainKey view s' ∧ p.reasons = pass.reasons ∧
        p.lastSuccessAt = some now ∧ pass.queue ≠ []) fun p s' => p = pass ∧ s' = s ∧ pass.queue = [])
      fun _ _ => False := by
  have hcollects : ∀ range rest, pass.queue = range :: rest → ∃ witnesses digest clock',
      collectRange sha256 port config range 0 pass.clock = .ok (.agreed witnesses digest, clock') ∧
        witnesses ≠ [] ∧ ∀ w ∈ witnesses, OfView config view w ∧
          ∀ l ∈ w.logs, ∃ b ∈ w.blocks, b.key = (l.chainKey, l.blockHash) := fun range rest hqueue =>
    h.collects (hbounds range (by simp [hqueue])) pass.clock
  -- agreeing witnesses leave only the branch that commits
  refine meets_serveNext (fun hqueue => ⟨rfl, rfl, hqueue⟩) ?_ ?_ ?_ ?_
  · intro range rest message hqueue hcollect
    obtain ⟨_, _, _, hagreed, -⟩ := hcollects range rest hqueue
    rw [hagreed] at hcollect
    cases hcollect
  · intro range rest lower upper clock hqueue hcollect
    obtain ⟨_, _, _, hagreed, -⟩ := hcollects range rest hqueue
    rw [hagreed] at hcollect
    cases hcollect
  · intro range rest reason group clock hqueue hcollect
    obtain ⟨_, _, _, hagreed, -⟩ := hcollects range rest hqueue
    rw [hagreed] at hcollect
    cases hcollect
  intro range rest results digest clock hqueue hcollect
  obtain ⟨witnesses, _, _, hagreed, hsome, hfacts⟩ := hcollects range rest hqueue
  rw [hagreed] at hcollect
  cases hcollect
  have hrange : InBounds config head range := hbounds range (by simp [hqueue])
  -- the store follows the view, so the facts of any witness are accepted
  have hingest : ∀ w ∈ results, ∃ outcome s',
      ingestTransaction sha256 (batchOf config range w) s = .ok (outcome, s') ∧
        Receives config.deploymentId config.chainKey view s' := by
    intro w hw
    obtain ⟨⟨hblocks, hlogs, hend⟩, hkeys⟩ := hfacts w hw
    have hstart := config.startBlock_nonneg
    have hhead := fitsBigint_iff.1 h.fits
    obtain ⟨hfrom, hle, hto⟩ := hrange
    exact ingestTransaction_succeeds sha256 hreceives hblocks (fun l hl => ⟨(hlogs l hl).1, hkeys l hl⟩)
      (fitsBigint_iff.2 ⟨by omega, by omega⟩) hend (by omega)
  have hnotRefused : ¬ Refused sha256 config range results s := by
    rintro (hnil | ⟨w, hw, violation, hviolated⟩)
    · exact hsome hnil
    · obtain ⟨outcome, s', hok, -⟩ := hingest w hw
      rw [hok] at hviolated
      cases hviolated
  refine meets_commitRange (fun _ _ _ => trivial) (fun _ _ hrefused => hnotRefused hrefused)
    (fun _ _ hrefused _ => absurd hrefused hnotRefused) ?_
  intro w hw outcome s' hok
  obtain ⟨outcome', s'', hok', hreceives'⟩ := hingest w hw
  rw [hok'] at hok
  cases hok
  refine ⟨trivial, fun providerGroup => ⟨fun violation hviolated => ⟨trivial, ?_⟩, fun s'' hupsert => ⟨trivial, ?_⟩⟩⟩
  · obtain ⟨s'', hupsert⟩ := (ingested_of_ok hok').upsert_succeeds hrange .complete none providerGroup
    rw [hviolated] at hupsert
    cases hupsert
  · intro report _ _ _
    rw [upsertRangeStatus_ok hupsert]
    exact ⟨⟨hreceives'.deployment, hreceives'.chain, hreceives'.follows⟩, rfl, rfl, by simp [hqueue]⟩

/-- The run has a block to collect, or the success stored for the lane is fresh. -/
def FreshenedBy (config : ReplayConfig) (head now : Int) (db : Db) : Prop :=
  (∀ n, laneCheckpoint config db = some n → n < head) ∨
    ∃ t, laneSuccess config db = some t ∧ now - t ≤ config.freshnessTtlMs

/-- Nothing is planned exactly where the checkpoint is at the head. -/
theorem planned_eq_nil_iff {planned : List BlockRange} {before : Option Int}
    (htiles : Tiles (resumeFrom config before) head planned) (hstarted : config.startBlock ≤ head) :
    planned ≠ [] ↔ ∀ n, before = some n → n < head := by
  have hresume : resumeFrom config before ≤ head ↔ ∀ n, before = some n → n < head := by
    cases before with
    | none => simpa [resumeFrom] using hstarted
    | some n =>
      simp only [resumeFrom, Option.some_inj, forall_eq']
      split <;> omega
  rw [← hresume]
  cases planned with
  | nil =>
    have hempty : head < resumeFrom config before := htiles
    simp only [ne_eq, not_true_eq_false, false_iff]
    omega
  | cons r rest =>
    obtain ⟨hfrom, hle, hto, -⟩ := htiles
    simp only [ne_eq, reduceCtorEq, not_false_eq_true, true_iff]
    omega

/-- What holds when the loop of such a run is left: the whole window is recorded and nothing stands against it. -/
structure WindowCollected (sha256 : String → String) (config : ReplayConfig) (top head now : Int) (view : Int → String)
    (before db : Db) (pass : Pass) : Prop where
  covers : PassCovers sha256 config top head (laneCheckpoint config before) pass db
  receives : Receives config.deploymentId config.chainKey view db
  served : pass.queue = []
  settled : pass.reasons = []
  freshened : (∃ t, pass.lastSuccessAt = some t ∧ now - t ≤ config.freshnessTtlMs) ↔ FreshenedBy config head now before

theorem loop_collects (hids : CollisionFree sha256 config top) (hhead : head ≤ top)
    (h : WitnessesAgree sha256 config port head view db) (hkept : Kept sha256 config top db)
    {planned queue : List BlockRange} (htiles : Tiles (resumeFrom config (laneCheckpoint config db)) head planned)
    (hperm : queue.Perm planned) :
    (Awaits.loop (servePass sha256 port config now) (firstPass queue (laneSuccess config db)) db).Meets (fun _ => True)
      (fun pass s => WindowCollected sha256 config top head now view db s pass) fun _ _ => False := by
  have hqueue : queue ≠ [] ↔ ∀ n, laneCheckpoint config db = some n → n < head := by
    rw [← planned_eq_nil_iff htiles h.started, ne_eq, ne_eq, not_iff_not]
    exact ⟨fun hnil => List.perm_nil.1 (hnil ▸ hperm).symm, fun hnil => List.perm_nil.1 (hnil ▸ hperm)⟩
  have httl := config.freshnessTtlMs_nonneg
  let first := firstPass queue (laneSuccess config db)
  -- the loop keeps the coverage, reports no reason, and stamps a success with its first range
  let I : Pass → Db → Prop := fun p s =>
    PassCovers sha256 config top head (laneCheckpoint config db) p s ∧
      Receives config.deploymentId config.chainKey view s ∧ p.reasons = [] ∧
      (p = first ∨ p.lastSuccessAt = some now ∧ queue ≠ [])
  refine Awaits.meets_loop (I := I) (fun pass s hpass => ?_)
    ⟨PassCovers.initial hkept.1 hkept.2 htiles hperm _, h.receives, rfl, Or.inl rfl⟩
  obtain ⟨hcovers, hreceives, hreasons, hsuccess⟩ := hpass
  have hmoves : (serveNext sha256 port config now pass s).Meets (fun _ => True) _ _ :=
    serveNext_covers hids hhead hcovers (fun _ _ => trivial) (fun _ => trivial) fun _ _ _ _ => trivial
  refine (hmoves.and (serveNext_agreed h hcovers.bounds hreceives)).mono (fun _ _ => trivial)
    (fun next s' hnext => ?_) fun _ _ hfalse => hfalse.2
  cases next with
  | again p =>
    obtain ⟨⟨hcovers', -⟩, hreceives', hsame, hnow, hsome⟩ := hnext
    refine ⟨hcovers', hreceives', hsame.trans hreasons, Or.inr ⟨hnow, ?_⟩⟩
    rcases hsuccess with rfl | ⟨-, hne⟩
    · exact hsome
    · exact hne
  | done p =>
    obtain ⟨-, rfl, rfl, hempty⟩ := hnext
    refine ⟨hcovers, hreceives, hempty, hreasons, ?_⟩
    rcases hsuccess with rfl | ⟨hnow, hne⟩
    · -- nothing was planned, so the success is the stored one
      have hnone : ¬ ∀ n, laneCheckpoint config db = some n → n < head := fun hall => hqueue.2 hall hempty
      exact ⟨Or.inr, fun hfresh => hfresh.resolve_left hnone⟩
    · exact iff_of_true ⟨now, hnow, by omega⟩ (Or.inl (hqueue.1 hne))

theorem WindowCollected.noHole {before : Db} {pass : Pass}
    (h : WindowCollected sha256 config top head now view before db pass) : NoHole config db :=
  h.covers.noHole fun r hr => by
    rw [h.served] at hr
    cases hr

/-- No gap is found, as every recorded range lies in the covered part of the lane. -/
theorem WindowCollected.no_gaps {before : Db} {pass : Pass}
    (h : WindowCollected sha256 config top head now view before db pass) {committed : List BlockRange}
    (hcommitted : ∀ r, r ∈ committed ↔ r ∈ laneRanges config db) :
    findRangeGaps committed { fromBlock := config.startBlock, toBlock := head } = [] := by
  have hcovered : ∀ b, Covered committed b ↔ Covered (laneRanges config db) b := fun b => by
    simp only [Covered, hcommitted]
  have hnoHole : NoHole config db := h.noHole
  rw [findRangeGaps_eq_nil]
  rintro b hstart (hhead | ⟨r, hr, hbelow⟩)
  · rw [hcovered]
    refine (h.covers.planned b hstart hhead).resolve_right ?_
    rintro ⟨r, hr, -⟩
    rw [h.served] at hr
    simp at hr
  · -- the range was recorded behind the checkpoint
    rw [hcommitted] at hr
    obtain ⟨n, hn, hto⟩ := h.covers.tidy.behind r hr
    obtain ⟨row, hrow, hd, hc, -, hf, ht⟩ := mem_completeRanges.1 hr
    obtain ⟨r', ⟨-, hle, -⟩, hrow'⟩ := h.covers.tidy.rows row hrow (Or.inl ⟨hd, hc⟩)
    rw [hrow'] at hf ht
    obtain rfl : r' = r := BlockRange.ext hf ht
    exact (hcovered b).2 (hnoHole n hn b hstart (by omega))

/-- After such a loop the run reports the covered window. -/
theorem conclude_collected {before : Db} {checkpointBefore : Option Int} {pass : Pass} (hstarted : config.startBlock ≤ head)
    (hfits : fitsBigint head = true) (h : WindowCollected sha256 config top head now view before db pass) :
    (conclude config now head checkpointBefore pass db).Meets (fun _ => True)
      (fun report s => report.acceptedHead = head ∧
        (∀ b, config.startBlock ≤ b → b ≤ head → Covered (laneRanges config s) b) ∧ report.gapCount = 0 ∧
        (report.status = .complete ↔ FreshenedBy config head now before)) fun _ _ => False := by
  have hstart := config.startBlock_nonneg
  have hhead := fitsBigint_iff.1 hfits
  refine meets_conclude trivial (fun committed violation hcommitted hviolated => ⟨trivial, ?_⟩) ?_
  · -- the projection cannot be refused
    have hgaps : (completenessRow config now head pass
        (assessCompleteness (completenessInput config now head pass committed))).gapCount = 0 := by
      simp only [completenessRow, assessCompleteness_gaps]
      exact congrArg (fun gaps => (List.length gaps : Int)) (h.no_gaps hcommitted)
    have hverdict : (completenessRow config now head pass
          (assessCompleteness (completenessInput config now head pass committed))).verdict = "OK" ↔
        (assessCompleteness (completenessInput config now head pass committed)).status = .complete :=
      Verdict.text_eq_ok.trans assessCompleteness_verdict
    have hstartFits : fitsBigint config.startBlock = true := fitsBigint_iff.2 ⟨by omega, by omega⟩
    have hstored := upsertCompleteness_succeeds ⟨hstartFits, hfits, by rw [hgaps]; rfl⟩ hverdict (by rw [hgaps])
      hstarted h.receives.deployment h.receives.chain
    rw [hstored] at hviolated
    cases hviolated
  · rintro committed row db' hcommitted - rfl
    refine ⟨trivial, trivial, rfl, fun b hb hle => ?_, ?_, ?_⟩
    · obtain ⟨r, hr, hrb⟩ := findRangeGaps_eq_nil.1 (h.no_gaps hcommitted) b hb (Or.inl hle)
      exact ⟨r, (hcommitted r).1 hr, hrb⟩
    · change (assessCompleteness (completenessInput config now head pass committed)).gaps.length = 0
      rw [assessCompleteness_gaps, List.length_eq_zero_iff]
      exact h.no_gaps hcommitted
    · change (assessCompleteness (completenessInput config now head pass committed)).status = .complete ↔ _
      rw [assessCompleteness_complete, ← h.freshened]
      simp only [completenessInput, h.settled, List.not_mem_nil, not_false_eq_true, true_and, false_implies,
        implies_true]
      exact ⟨fun hfresh => hfresh.2, fun hfresh => ⟨h.no_gaps hcommitted, hfresh⟩⟩

end Agree

/-- After runs without hints, none of which was cut directly after a commit, a run whose witnesses all answer and
agree ends with no gap; it is complete exactly when it has a block to collect or the stored success is fresh. -/
theorem recovers_without_gap (sha256 : String → String) (config : ReplayConfig) (top head now : Int)
    (port : LogSourcePort) (hints : List PriorityHint) (view : Int → String) (db : Db)
    (hids : CollisionFree sha256 config top) (hhead : head ≤ top) (hpast : Past sha256 config top NotCommit db)
    (hagree : WitnessesAgree sha256 config port head view db) :
    let run := runReplay sha256 port config now hints db
    ∃ report, run.result = .ok report ∧ report.acceptedHead = head ∧
      (∀ b, config.startBlock ≤ b → b ≤ head → Covered (laneRanges config run.state) b) ∧ report.gapCount = 0 ∧
      (report.status = .complete ↔ FreshenedBy config head now db) := by
  have hrun : (runReplay sha256 port config now hints db).Meets (fun _ => True)
      (fun report s => report.acceptedHead = head ∧
        (∀ b, config.startBlock ≤ b → b ≤ head → Covered (laneRanges config s) b) ∧ report.gapCount = 0 ∧
        (report.status = .complete ↔ FreshenedBy config head now db)) fun _ _ => False := by
    refine meets_runReplay (fun _ _ => trivial) (fun message hport => ?_) (fun head' message hport hplan => ?_) ?_
    · rw [hagree.answered] at hport
      cases hport
    · obtain ⟨planned, hplanned⟩ : ∃ planned,
          planRanges (planOf port config (laneCheckpoint config db) head') = .ok planned :=
        planRanges_succeeds hagree.capable
      rw [hplanned] at hplan
      cases hplan
    -- the first two failures are excluded: the head is answered and the plan exists
    · intro head' planned hport hplan
      rw [hagree.answered] at hport
      cases hport
      exact Awaits.meets_bind (loop_collects hids hhead hagree (hpast.kept hids) (planRanges_ok hplan)
        (prioritise_perm planned _)) fun pass s hs => conclude_collected hagree.started hagree.fits hs
  exact hrun.answers

/-! ## A port that answers the same at any time -/

section Steady

variable {sha256 : String → String} {port : LogSourcePort} {config : ReplayConfig}

variable (sha256 config) in
theorem askGroups_shift (hsteady : ∀ clock, port.fetchRange clock = port.fetchRange 0) (range : BlockRange)
    (groups : List String) (clock shift : Nat) (sofar : List RangeResult) :
    askGroups sha256 port config range groups (clock + shift) sofar =
      (askGroups sha256 port config range groups clock sofar).map fun (answers, n) => (answers, n + shift) := by
  induction groups generalizing clock sofar with
  | nil => rfl
  | cons group groups ih =>
    unfold askGroups
    rw [hsteady (clock + shift), hsteady clock]
    cases port.fetchRange 0 config.chainKey group range with
    | error message => rfl
    | ok outcome =>
      cases outcome with
      | failed reason g =>
        simp only [Except.map]
        congr 2
        omega
      | ok o =>
        dsimp only
        cases classifyObservation sha256 o with
        | failed reason g =>
          simp only [Except.map]
          congr 2
          omega
        | ok result =>
          have hclock : clock + shift + 1 = clock + 1 + shift := by omega
          rw [hclock]
          exact ih (clock + 1) _

/-- Such a port agrees on a range at every time when it does at the start. -/
theorem attemptRange_steady (hsteady : ∀ clock, port.fetchRange clock = port.fetchRange 0)
    (hgroups : ∀ clock, port.providerGroups clock = port.providerGroups 0) {range : BlockRange}
    {witnesses : List RangeResult} {digest : String} {n : Nat}
    (h : attemptRange sha256 port config range 0 = .ok (.inl (witnesses, digest), n)) (clock : Nat) :
    attemptRange sha256 port config range clock = .ok (.inl (witnesses, digest), n + clock) := by
  unfold attemptRange at h ⊢
  have hshift := askGroups_shift sha256 config hsteady range (port.providerGroups 0 config.chainKey)
    0 clock []
  rw [Nat.zero_add] at hshift
  rw [hgroups clock, hshift]
  cases hask : askGroups sha256 port config range (port.providerGroups 0 config.chainKey) 0 [] with
  | error message =>
    rw [hask] at h
    cases h
  | ok answers =>
    obtain ⟨answers, m⟩ := answers
    rw [hask] at h
    cases answers with
    | failure reason group => cases h
    | results results =>
      simp only [Except.map] at h ⊢
      cases hagree : agree results config.agreement with
      | blocked reason byDigest =>
        rw [hagree] at h
        cases h
      | agreed d ws =>
        rw [hagree] at h
        cases h
        rfl

end Steady

/-! ## The sample lane -/

theorem sampleHash_toList (height : Int) :
    (sampleHash height).toList = '0' :: 'x' :: List.replicate 63 'a' ++ (toString height).toList := by
  rw [sampleHash, String.toList_append, String.toList_append, @String.toList_ofList (List.replicate 63 'a')]
  rfl

theorem sampleHash_formed : ∀ height ∈ [(0 : Int), 1, 9], matchesHex "0x" 64 (sampleHash height) = true := by
  intro height hheight
  simp only [List.mem_cons, List.not_mem_nil, or_false] at hheight
  rw [matchesHex, sampleHash_toList]
  rcases hheight with rfl | rfl | rfl <;> decide +kernel

theorem sampleBlock_storable {height : Int} (h : height = 0 ∨ height = 1) : (sampleBlock height).storable = true := by
  have hhash : matchesHex "0x" 64 (sampleBlock height).blockHash = true := by
    refine sampleHash_formed height ?_
    rcases h with rfl | rfl <;> simp
  have hparent : matchesHex "0x" 64 (sampleBlock height).parentHash = true := sampleHash_formed 9 (by simp)
  rw [BlockFact.storable, hhash, hparent]
  rcases h with rfl | rfl <;> rfl

/-- What a group of the sample lane reports is classified as it stands. -/
theorem sampleObservation_classified (group : String) (range : BlockRange) :
    classifyObservation sampleSha256 (sampleObservation group range) =
      .ok (resultOf sampleSha256 (sampleObservation group range)) := by
  have haccepted : ((sampleObservation group range).blocks.any fun b => decide (b.observedClass ≠ .accepted)) = false := by
    rw [List.any_eq_false]
    intro b hb
    obtain ⟨n, -, rfl⟩ := List.mem_map.1 hb
    simp [sampleBlock]
  unfold classifyObservation
  rw [haccepted]
  rfl

/-- The digest of a report does not depend on its group. -/
theorem sampleObservation_digest (sha256 : String → String) (group group' : String) (range : BlockRange) :
    (resultOf sha256 (sampleObservation group range)).digest = rangeDigest sha256 (sampleObservation group' range) := rfl

/-- The groups of the sample lane agree on every range, and on facts of one view. -/
theorem sampleLane_agrees (range : BlockRange) : ∃ witnesses digest,
    attemptRange sampleSha256 (sampleLane 1 []) sampleConfig range 0 = .ok (.inl (witnesses, digest), 2) ∧
      ∀ w ∈ witnesses, ∃ group, w = resultOf sampleSha256 (sampleObservation group range) := by
  have hask : askGroups sampleSha256 (sampleLane 1 []) sampleConfig range ["alpha", "beta"] 0 [] =
      .ok (.results [resultOf sampleSha256 (sampleObservation "alpha" range),
        resultOf sampleSha256 (sampleObservation "beta" range)], 2) := by
    have hfetch : ∀ clock group, (sampleLane 1 []).fetchRange clock sampleConfig.chainKey group range =
        .ok (.ok (sampleObservation group range)) := fun _ _ => rfl
    simp only [askGroups, hfetch, sampleObservation_classified]
    rfl
  have hdigest : ∀ r ∈ [resultOf sampleSha256 (sampleObservation "alpha" range),
      resultOf sampleSha256 (sampleObservation "beta" range)],
        r.digest = rangeDigest sampleSha256 (sampleObservation "alpha" range) := by
    intro r hr
    rcases List.mem_pair.1 hr with rfl | rfl
    · exact sampleObservation_digest sampleSha256 "alpha" "alpha" range
    · exact sampleObservation_digest sampleSha256 "beta" "alpha" range
  have harchive : ∀ r ∈ [resultOf sampleSha256 (sampleObservation "alpha" range),
      resultOf sampleSha256 (sampleObservation "beta" range)], r.viaArchive = false := by
    intro r hr
    rcases List.mem_pair.1 hr with rfl | rfl <;> rfl
  obtain ⟨digest, witnesses, hagree⟩ := (agree_of_one_digest sampleConfig.agreement (List.cons_ne_nil _ _) hdigest).2
    ⟨fun ⟨r, hr, hvia⟩ => absurd ((harchive r hr).symm.trans hvia) nofun, show 2 ≤ 2 from le_rfl⟩
  obtain ⟨-, -, -, hwitness, -⟩ := agree_agreed hagree
  refine ⟨witnesses, digest, ?_, fun w hw => ?_⟩
  · rw [attemptRange, show (sampleLane 1 []).providerGroups 0 sampleConfig.chainKey = ["alpha", "beta"] from rfl, hask]
    dsimp only
    rw [hagree]
  · rcases List.mem_pair.1 (hwitness w hw) with rfl | rfl
    · exact ⟨"alpha", rfl⟩
    · exact ⟨"beta", rfl⟩

theorem sample_agrees {db : Db} (hdb : Receives "dep" "home" sampleHash db) :
    WitnessesAgree sampleSha256 sampleConfig (sampleLane 1 []) 1 sampleHash db := by
  refine ⟨rfl, by decide, by decide, by decide +kernel, fun range hrange clock => ?_, hdb⟩
  obtain ⟨witnesses, digest, hattempt, hwitness⟩ := sampleLane_agrees range
  refine ⟨witnesses, digest, 2 + clock, attemptRange_steady (fun _ => rfl) (fun _ => rfl) hattempt clock, fun w hw => ?_⟩
  obtain ⟨group, rfl⟩ := hwitness w hw
  refine ⟨fun b hb => ?_, fun l hl => absurd hl List.not_mem_nil, ?_⟩
  · obtain ⟨n, hn, rfl⟩ := List.mem_map.1 hb
    have hn := (List.mem_filter.1 hn).1
    exact ⟨sampleBlock_storable (List.mem_pair.1 hn), rfl, rfl⟩
  · obtain ⟨ha, hab, hb⟩ := hrange
    change (0 : Int) ≤ range.fromBlock at ha
    have hto : range.toBlock = 0 ∨ range.toBlock = 1 := by omega
    refine sampleHash_formed range.toBlock ?_
    rcases hto with hto | hto <;> simp [hto]

/-- The run on the sample lane that is cut after the block 0 was recorded. -/
def sampleRecorded : Option (Awaited StoreCall Db) :=
  (runReplay sampleSha256 (sampleLane 1 []) sampleConfig 7 [] sampleDb).trail.find? fun x =>
    decide (x.op = .upsertRangeStatus)

theorem sampleLane_headWithin (pruned : List Int) (now : Int) :
    ({ port := sampleLane 1 pruned, hints := [], now } : ReplayRun).HeadWithin sampleConfig 1 := by
  intro head h
  cases h
  exact le_rfl

/-- The first run is cut after the block 0, the second ends at the pruned block 1, and the third collects it. -/
theorem recovers_without_gap_sample :
    ∃ db, laneCheckpoint sampleConfig db = some 0 ∧
      Recovered sampleConfig 1 (runReplay sampleSha256 (sampleLane 1 []) sampleConfig 9 [] db) := by
  have hfacts : sampleRecorded.any (fun x =>
      let db := (runReplay sampleSha256 (sampleLane 1 [1]) sampleConfig 8 [] x.after).state
      decide ("dep" ∈ db.deployments ∧ "home" ∈ db.chains ∧
        (∀ b ∈ db.chainBlocks.table.rows, b.blockHash = sampleHash b.blockNumber) ∧
        laneCheckpoint sampleConfig db = some 0)) = true := by
    decide +kernel
  obtain ⟨x, hcut, hfacts⟩ := (Option.any_eq_true _ _).1 hfacts
  obtain ⟨hdeployment, hchain, hblocks, hcheckpoint⟩ := of_decide_eq_true hfacts
  have hx := List.mem_of_find?_eq_some hcut
  have hop : x.op = .upsertRangeStatus := by
    simpa using @List.find?_some _ (fun y : Awaited StoreCall Db => decide (y.op = .upsertRangeStatus)) x _ hcut
  let first : ReplayRun := { port := sampleLane 1 [], hints := [], now := 7 }
  let second : ReplayRun := { port := sampleLane 1 [1], hints := [], now := 8 }
  have hpast : Past sampleSha256 sampleConfig 1 NotCommit (second.on sampleSha256 sampleConfig x.after).state :=
    .ended second x.after (.cut first sampleDb x (.fresh sampleDb (sample_fresh 1)) rfl (sampleLane_headWithin [] 7) hx
      fun hcommit => by simp [hop] at hcommit) rfl (sampleLane_headWithin [1] 8)
  obtain ⟨report, hreport, hhead, hcovered, hgaps, hstatus⟩ :=
    recovers_without_gap sampleSha256 sampleConfig 1 1 9 (sampleLane 1 []) [] sampleHash _ sample_collisionFree le_rfl
      hpast (sample_agrees ⟨hdeployment, hchain, fun b hb _ _ => hblocks b hb⟩)
  refine ⟨_, hcheckpoint, report, hreport, hhead, hcovered, hgaps, hstatus.2 (Or.inl fun n hn => ?_)⟩
  obtain rfl : 0 = n := Option.some.inj (hcheckpoint.symm.trans hn)
  decide

/-- The run on the sample lane that is cut after the block 0 was ingested, and before it was recorded. -/
def sampleCut : Option (Awaited StoreCall Db) :=
  (runReplay sampleSha256 (sampleLane 1 []) sampleConfig 7 [] sampleDb).trail.find? fun x =>
    decide (x.op = .ingestTransaction)

/-- After that cut the block 0 is behind the checkpoint, and a run whose witnesses all answer and agree does not
collect it any more. -/
theorem cut_after_commit_leaves_gap :
    ∃ db, Past sampleSha256 sampleConfig 1 (fun _ => True) db ∧
      WitnessesAgree sampleSha256 sampleConfig (sampleLane 1 []) 1 sampleHash db ∧
      ¬ Recovered sampleConfig 1 (runReplay sampleSha256 (sampleLane 1 []) sampleConfig 8 [] db) := by
  have hfacts : sampleCut.any (fun x => decide ("dep" ∈ x.after.deployments ∧ "home" ∈ x.after.chains ∧
      (∀ b ∈ x.after.chainBlocks.table.rows, b.blockHash = sampleHash b.blockNumber) ∧
      ¬ Covered (laneRanges sampleConfig (runReplay sampleSha256 (sampleLane 1 []) sampleConfig 8 [] x.after).state) 0))
        = true := by
    decide +kernel
  obtain ⟨x, hcut, hfacts⟩ := (Option.any_eq_true _ _).1 hfacts
  obtain ⟨hdeployment, hchain, hblocks, hgap⟩ := of_decide_eq_true hfacts
  have hx := List.mem_of_find?_eq_some hcut
  let run : ReplayRun := { port := sampleLane 1 [], hints := [], now := 7 }
  refine ⟨x.after, .cut run sampleDb x (.fresh sampleDb (sample_fresh 1)) rfl (sampleLane_headWithin [] 7) hx trivial,
    sample_agrees ⟨hdeployment, hchain, fun b hb _ _ => hblocks b hb⟩, ?_⟩
  rintro ⟨report, -, -, hcovered, -⟩
  exact hgap (hcovered 0 (by decide) (by decide))

end IcttSentinel.Replay
