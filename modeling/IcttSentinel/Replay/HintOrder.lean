/-
The checkpoint under hints. A hint moves a range in front of the ranges below it, and the commit of that range moves
the checkpoint over them: where the run then stops, every later plan starts behind the ranges left over. Two conditions
on what a run is given keep the checkpoint free of holes over every sequence of runs: its hints ask for the lowest
ranges of its plan, or its witnesses answer and agree on the whole window.
-/
import IcttSentinel.Replay.Recovery

namespace IcttSentinel.Replay

open IcttSentinel.Domain IcttSentinel.Lib IcttSentinel.Storage

section Runs

variable (sha256 : String → String) (config : ReplayConfig)

/-- The considered hints keep the order of the plan, or every range of the window is answered and agreed on. -/
def ReplayRun.ServedThrough (run : ReplayRun) (db : Db) : Prop :=
  run.HintsInOrder config db ∨ ∃ head view, WitnessesAgree sha256 config run.port head view db

/-- The store after some runs. -/
def storeAfter (db : Db) (runs : List ReplayRun) : Db := runs.foldl (fun db run => (run.on sha256 config db).state) db

variable {sha256 config} {top : Int}

theorem storeAfter_snoc (db : Db) (runs : List ReplayRun) (run : ReplayRun) :
    storeAfter sha256 config db (runs ++ [run]) = (run.on sha256 config (storeAfter sha256 config db runs)).state := by
  simp [storeAfter]

/-- A run whose witnesses answer and agree empties its queue, in whatever order the hints put it. -/
theorem run_kept_of_agree (hids : CollisionFree sha256 config top) {run : ReplayRun} {db : Db} {head : Int}
    {view : Int → String} (hagree : WitnessesAgree sha256 config run.port head view db)
    (hhead : run.HeadWithin config top) (h : Kept sha256 config top db) :
    Kept sha256 config top (run.on sha256 config db).state := by
  have hrun : (run.on sha256 config db).Meets (fun _ => True) (fun _ => Kept sha256 config top)
      fun _ => Kept sha256 config top := by
    refine meets_runReplay (fun _ _ => trivial) (fun _ _ => h) (fun _ _ _ _ => h) ?_
    intro head' planned hport hplan
    rw [hagree.answered] at hport
    cases hport
    refine Awaits.meets_bind ((loop_collects hids (hhead head hagree.answered) hagree h (planRanges_ok hplan)
      (prioritise_perm planned _)).mono (fun _ _ => trivial) (fun _ _ hs => hs) fun _ _ hfalse => hfalse.elim) ?_
    intro pass s hs
    have hkept : Kept sha256 config top s := ⟨hs.covers.tidy, hs.noHole⟩
    exact (conclude_unmoved hkept.1 fun _ _ => trivial).mono (fun _ _ => trivial) (fun _ _ h' => hkept.of_unmoved h')
      fun _ _ h' => hkept.of_unmoved h'
  exact hrun.state

theorem ReplayRun.ServedThrough.kept (hids : CollisionFree sha256 config top) {run : ReplayRun} {db : Db}
    (hserved : run.ServedThrough sha256 config db) (hhead : run.HeadWithin config top) (h : Kept sha256 config top db) :
    Kept sha256 config top (run.on sha256 config db).state := by
  rcases hserved with hhints | ⟨head, view, hagree⟩
  · exact (run_kept hids hhints hhead h).state
  · exact run_kept_of_agree hids hagree hhead h

end Runs

/-- After every run from a fresh store the checkpoint has no hole behind it, where before each run its hints keep the
order of the plan or its witnesses answer and agree. -/
theorem checkpoint_covered_of_served (sha256 : String → String) (config : ReplayConfig) (top : Int) (db : Db)
    (runs : List ReplayRun) (hids : CollisionFree sha256 config top) (hfresh : Fresh sha256 config top db)
    (hheads : ∀ run ∈ runs, run.HeadWithin config top)
    (hserved : ∀ past run, past ++ [run] <+: runs →
      run.ServedThrough sha256 config (storeAfter sha256 config db past)) :
    ∀ past, past <+: runs → NoHole config (storeAfter sha256 config db past) := by
  suffices hkept : ∀ past, past <+: runs → Kept sha256 config top (storeAfter sha256 config db past) from
    fun past hpre => (hkept past hpre).2
  intro past
  -- from the last run: the ones before it have kept the lane
  induction past using List.reverseRecOn with
  | nil => exact fun _ => hfresh.kept
  | append_singleton past run ih =>
    intro hpre
    have hpast := ih ((List.prefix_append past [run]).trans hpre)
    rw [storeAfter_snoc]
    exact (hserved past run hpre).kept hids (hheads run (hpre.subset (by simp))) hpast

def hintFor (height : Int) : PriorityHint where
  hintId := "4d7c"
  deploymentId := "dep"
  chainKey := "home"
  suggestedBlockNumber := height
  source := .webhook
  dedupKey := "delivery-1"
  receivedAt := 0

/-- A run with a hint for the height, where both groups have pruned the given ones. -/
def sampleRun (height : Int) (pruned : List Int) : ReplayRun where
  port := sampleLane 1 pruned
  hints := [hintFor height]
  now := 7

theorem sampleRun_headWithin (height : Int) (pruned : List Int) :
    (sampleRun height pruned).HeadWithin sampleConfig 1 := by
  intro head h
  cases h
  exact le_rfl

/-- The hint for block 0 asks for the front of the plan. -/
theorem sampleRun_hintsInOrder (pruned : List Int) : (sampleRun 0 pruned).HintsInOrder sampleConfig sampleDb := by
  intro head planned hport hplan
  cases hport
  have htiles := planRanges_ok hplan
  rintro r hr ⟨hint, hhint, hwithin⟩ r' hr' hlt
  obtain rfl : hint = hintFor 0 := List.mem_singleton.1 (List.mem_of_mem_take hhint)
  have hfrom : r.fromBlock ≤ 0 := hwithin.1
  have hstart : (0 : Int) ≤ r'.fromBlock := (htiles.bounds hr').1
  omega

theorem sampleRun_receives :
    Receives "dep" "home" sampleHash (storeAfter sampleSha256 sampleConfig sampleDb [sampleRun 0 [1]]) := by
  have hstore :
      let db := storeAfter sampleSha256 sampleConfig sampleDb [sampleRun 0 [1]]
      "dep" ∈ db.deployments ∧ "home" ∈ db.chains ∧
        ∀ b ∈ db.chainBlocks.table.rows, b.blockHash = sampleHash b.blockNumber := by
    decide +kernel
  exact ⟨hstore.1, hstore.2.1, fun b hb _ _ => hstore.2.2 b hb⟩

/-- Block 1 is pruned at the first run, which was asked for block 0; the second is asked for block 1 and is answered
on both. -/
theorem checkpoint_covered_sample :
    NoHole sampleConfig (storeAfter sampleSha256 sampleConfig sampleDb [sampleRun 0 [1], sampleRun 1 []]) := by
  refine checkpoint_covered_of_served sampleSha256 sampleConfig 1 sampleDb [sampleRun 0 [1], sampleRun 1 []]
    sample_collisionFree (sample_fresh 1) (fun run hrun => ?_) (fun past run hpre => ?_) _ (List.prefix_refl _)
  · rcases List.mem_pair.1 hrun with rfl | rfl
    · exact sampleRun_headWithin 0 [1]
    · exact sampleRun_headWithin 1 []
  · rcases past with _ | ⟨first, past⟩
    · obtain rfl : run = sampleRun 0 [1] := by simpa using hpre
      exact Or.inl (sampleRun_hintsInOrder [1])
    · rw [List.cons_append, List.cons_prefix_cons] at hpre
      obtain ⟨rfl, hpre⟩ := hpre
      obtain rfl : past = [] := by simpa using hpre.length_le
      obtain rfl : run = sampleRun 1 [] := by simpa using hpre
      exact Or.inr ⟨1, sampleHash, sample_agrees sampleRun_receives⟩

/-- The block 1 is served first and moves the checkpoint there, then the pruned block 0 ends the run. -/
theorem hinted_run_leaves_hole :
    CollisionFree sampleSha256 sampleConfig 1 ∧ Fresh sampleSha256 sampleConfig 1 sampleDb ∧
      (sampleRun 1 [0]).HeadWithin sampleConfig 1 ∧
      laneCheckpoint sampleConfig (storeAfter sampleSha256 sampleConfig sampleDb [sampleRun 1 [0]]) = some 1 ∧
      ¬ NoHole sampleConfig (storeAfter sampleSha256 sampleConfig sampleDb [sampleRun 1 [0]]) := by
  have hrun :
      let db := storeAfter sampleSha256 sampleConfig sampleDb [sampleRun 1 [0]]
      laneCheckpoint sampleConfig db = some 1 ∧ ¬ Covered (laneRanges sampleConfig db) 0 := by
    decide +kernel
  obtain ⟨hcheckpoint, hgap⟩ := hrun
  refine ⟨sample_collisionFree, sample_fresh 1, sampleRun_headWithin 1 [0], hcheckpoint, fun hnoHole => ?_⟩
  exact hgap (hnoHole 1 hcheckpoint 0 (by decide) (by decide))

end IcttSentinel.Replay
