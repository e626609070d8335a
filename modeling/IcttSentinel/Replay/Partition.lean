/-
What becomes of a planned window, packages/replay/src/plan.ts and engine.ts. Serving the queue moves ranges from it
into the report and splits some of them, so that at every turn the committed ranges, the one given up and those still
waiting are a partition of the window; and every loop ends, the retries of a range by its budget and the queue by the
work it holds.
-/
import IcttSentinel.Replay.Coverage

namespace IcttSentinel.Replay

open IcttSentinel.Lib IcttSentinel.Storage

/-! ## Cutting a window -/

/-- The ranges cut the window of a plan: they are not empty, no wider than the plan allows, have no height in common,
and cover the heights of the window and no others. -/
structure Cuts (plan : PlanInput) (ranges : List BlockRange) : Prop where
  formed : ∀ r ∈ ranges, r.fromBlock ≤ r.toBlock ∧ spanOf r ≤ plan.maxRangeBlocks
  apart : ranges.Pairwise Apart
  union : ∀ b, Covered ranges b ↔ plan.startBlock ≤ b ∧ b ≤ plan.agreedHead

variable {plan : PlanInput}

theorem Apart.symm {a b : BlockRange} (h : Apart a b) : Apart b a := Or.symm h

theorem covered_perm {ranges ranges' : List BlockRange} (h : ranges.Perm ranges') (b : Int) :
    Covered ranges b ↔ Covered ranges' b := by
  simp only [Covered, h.mem_iff]

theorem Cuts.perm {ranges ranges' : List BlockRange} (h : Cuts plan ranges) (hperm : ranges.Perm ranges') :
    Cuts plan ranges' where
  formed r hr := h.formed r (hperm.mem_iff.mpr hr)
  apart := (hperm.pairwise_iff Apart.symm).mp h.apart
  union b := by rw [← covered_perm hperm, h.union]

/-- A range in the middle gives way to its halves. -/
theorem Cuts.split {pre rest : List BlockRange} {range lower upper : BlockRange}
    (h : Cuts plan (pre ++ range :: rest)) (hsplit : splitRange range = some (lower, upper)) :
    Cuts plan (pre ++ lower :: upper :: rest) := by
  obtain ⟨hfrom, hlower, hmiddle, hupper, hto⟩ := splitRange_eq_some hsplit
  -- the order of the pieces does not matter, so the range may stand first
  have hfront : Cuts plan (range :: (pre ++ rest)) := h.perm List.perm_middle
  obtain ⟨hapart, hrest⟩ := List.pairwise_cons.mp hfront.apart
  have hspan := (hfront.formed range List.mem_cons_self).2
  unfold spanOf at hspan
  suffices hcut : Cuts plan (lower :: upper :: (pre ++ rest)) by
    refine hcut.perm (List.Perm.symm ?_)
    exact List.perm_middle.trans (List.Perm.cons _ List.perm_middle)
  refine ⟨fun r hr => ?_, ?_, fun b => ?_⟩
  · rcases List.mem_cons.mp hr with rfl | hr
    · exact ⟨hlower, by unfold spanOf; omega⟩
    · rcases List.mem_cons.mp hr with rfl | hr
      · exact ⟨hupper, by unfold spanOf; omega⟩
      · exact hfront.formed r (List.mem_cons_of_mem _ hr)
  · refine List.pairwise_cons.mpr ⟨fun r hr => ?_, List.pairwise_cons.mpr ⟨fun r hr => ?_, hrest⟩⟩
    · rcases List.mem_cons.mp hr with rfl | hr
      · exact Or.inl (by omega)
      · have := hapart r hr
        unfold Apart at this ⊢
        omega
    · have := hapart r hr
      unfold Apart at this ⊢
      omega
  · rw [← hfront.union b]
    have hhalves : Within range b ↔ Within lower b ∨ Within upper b := by
      unfold Within
      omega
    simp only [Covered, List.mem_cons, exists_eq_or_imp]
    rw [hhalves, or_assoc]

/-! ## Plans -/

theorem spanOf_chunksFrom {width : Int} (hwidth : 1 ≤ width) (agreedHead start : Int) :
    ∀ r ∈ chunksFrom width hwidth agreedHead start, spanOf r ≤ width := by
  fun_induction chunksFrom width hwidth agreedHead start with
  | case1 start hle ih =>
    intro r hr
    rcases List.mem_cons.mp hr with rfl | hr
    · unfold spanOf
      dsimp only
      split <;> omega
    · exact ih r hr
  | case2 start hgt => simp

theorem spanOf_planRanges {planned : List BlockRange} (h : planRanges plan = .ok planned) :
    ∀ r ∈ planned, spanOf r ≤ plan.maxRangeBlocks := by
  unfold planRanges at h
  split at h
  · cases h
  · split at h
    · cases h
      simp
    · cases h
      exact spanOf_chunksFrom _ _ _

/-- A plan cuts its window, in whatever order its ranges are served. -/
theorem cuts_prioritise {planned : List BlockRange} (h : planRanges plan = .ok planned) (hints : List PriorityHint) :
    Cuts plan (prioritise planned hints) := by
  have htiles := planRanges_ok h
  refine Cuts.perm ⟨fun r hr => ?_, ?_, fun b => htiles.covered_iff⟩ (prioritise_perm planned hints).symm
  · exact ⟨(htiles.bounds hr).2.1, spanOf_planRanges h r hr⟩
  · exact htiles.ascending.imp fun hlt => Or.inl hlt

/-! ## Passes -/

/-- The ranges a pass has given up. -/
def givenUp (pass : Pass) : List BlockRange :=
  (pass.reports.filter fun r => decide (r.status ≠ .complete)).map (·.range)

/-- The committed ranges of a pass, those it gave up and those still waiting cut the planned window. -/
def Partitions (plan : PlanInput) (pass : Pass) : Prop := Cuts plan (completed pass ++ givenUp pass ++ pass.queue)

/-- The reported ranges, in the order of the reports, and the waiting ones. -/
def rangesOf (pass : Pass) : List BlockRange := pass.reports.map (·.range) ++ pass.queue

theorem partitions_iff {pass : Pass} : Partitions plan pass ↔ Cuts plan (rangesOf pass) := by
  have hreports : ((pass.reports.filter fun r => decide (r.status = .complete)) ++
      pass.reports.filter fun r => decide (r.status ≠ .complete)).Perm pass.reports := by
    have := List.filter_append_perm (fun r : RangeReport => decide (r.status = .complete)) pass.reports
    simpa using this
  have hperm : (completed pass ++ givenUp pass ++ pass.queue).Perm (rangesOf pass) := by
    unfold completed givenUp rangesOf
    rw [← List.map_append]
    exact (hreports.map _).append_right _
  exact ⟨fun h => h.perm hperm, fun h => h.perm hperm.symm⟩

/-- The pass an iteration leaves, whether the loop goes on or not. -/
def passOf : Awaits.Next Pass Pass → Pass
  | .again pass => pass
  | .done pass => pass

section Serve

variable (sha256 : String → String) (port : LogSourcePort) (config : ReplayConfig) (now : Int)

/-- The passes in which an iteration of the loop starts, with the number of iterations before. -/
inductive Iterates (first : Pass) (db : Db) : Nat → Pass → Db → Prop where
  | start : Iterates first db 0 first db
  | next {n : Nat} {pass pass' : Pass} {s : Db} (before : Iterates first db n pass s)
      (again : (serveNext sha256 port config now pass s).result = .ok (.again pass')) :
      Iterates first db (n + 1) pass' (serveNext sha256 port config now pass s).state

variable {sha256 port config now}

/-- One iteration: a range goes from the queue into the report, or its halves take its place. -/
theorem Partitions.step {pass : Pass} {db : Db} (h : Partitions plan pass) {next : Awaits.Next Pass Pass}
    (hnext : (serveNext sha256 port config now pass db).result = .ok next) : Partitions plan (passOf next) := by
  rw [partitions_iff] at h
  -- a report moves the front range from the queue to the reports
  have hreported : ∀ range rest report pass', pass.queue = range :: rest → report.range = range →
      pass'.reports = pass.reports ++ [report] → pass'.queue = rest → Partitions plan pass' := by
    intro range rest report pass' hqueue hrange hreports hqueue'
    have hsame : rangesOf pass' = rangesOf pass := by
      unfold rangesOf
      rw [hreports, hqueue', hqueue, List.map_append, List.map_singleton, hrange, List.append_assoc,
        List.singleton_append]
    rw [partitions_iff, hsame]
    exact h
  have hmeets : (serveNext sha256 port config now pass db).Meets (fun _ => True)
      (fun next _ => Partitions plan (passOf next)) fun _ _ => True := by
    refine meets_serveNext (fun _ => partitions_iff.mpr h) (fun _ _ _ _ _ => trivial) ?_ ?_ ?_
    · intro range rest lower upper clock hqueue hcollect
      unfold rangesOf at h
      rw [hqueue] at h
      exact partitions_iff.mpr (h.split (collectRange_split hcollect))
    · intro range rest reason group clock hqueue _
      exact meets_blockRange (fun _ _ _ => trivial) (fun _ _ _ => trivial) fun _ report _ hrange _ =>
        hreported range rest report _ hqueue hrange rfl rfl
    · intro range rest results digest clock hqueue _
      refine meets_commitRange (fun _ _ _ => trivial) (fun _ _ _ => trivial) ?_ ?_
      · exact fun report _ _ _ hrange => hreported range rest report _ hqueue hrange rfl rfl
      · exact fun _ _ _ _ _ => ⟨trivial, fun _ => ⟨fun _ _ => ⟨trivial, trivial⟩, fun _ _ => ⟨trivial,
          fun report hrange _ _ => hreported range rest report _ hqueue hrange rfl rfl⟩⟩⟩
  exact hmeets.ok next hnext

/-- The run so far: the window is still cut, and every iteration has left less work. -/
theorem Iterates.partitions {first pass : Pass} {db s : Db} {n : Nat} (hfirst : Partitions plan first)
    (h : Iterates sha256 port config now first db n pass s) :
    Partitions plan pass ∧ n + work pass.queue ≤ work first.queue := by
  induction h with
  | start => exact ⟨hfirst, by omega⟩
  | next before again ih =>
    have hless := serveNext_work _ _ _ again
    exact ⟨ih.1.step again, by omega⟩

/-- The iterations come to an end. -/
theorem exists_last_iteration (first : Pass) (db : Db) :
    ∃ n pass s, Iterates sha256 port config now first db n pass s ∧
      ∀ pass', (serveNext sha256 port config now pass s).result ≠ .ok (.again pass') := by
  let I (pass : Pass) (s : Db) : Prop := ∃ n, Iterates sha256 port config now first db n pass s
  have hstep : ∀ pass s pass', I pass s → ((servePass sha256 port config now).run pass s).result = .ok (.again pass') →
      I pass' ((servePass sha256 port config now).run pass s).state := by
    rintro pass s pass' ⟨n, hn⟩ hagain
    exact ⟨n + 1, .next hn hagain⟩
  obtain ⟨⟨n, hn⟩, -, hstop⟩ := Awaits.loop_lastHead hstep (show I first db from ⟨0, .start⟩)
  exact ⟨n, _, _, hn, hstop⟩

theorem askGroups_clock {range : BlockRange} {groups : List String} {clock clock' : Nat} {results : List RangeResult}
    {answers : Answers} (h : askGroups sha256 port config range groups clock results = .ok (answers, clock')) :
    clock' ≤ clock + groups.length := by
  induction groups generalizing clock results with
  | nil =>
    cases h
    exact Nat.le_add_right _ _
  | cons group groups ih =>
    unfold askGroups at h
    rw [List.length_cons]
    split at h
    · cases h
    · cases h
      omega
    · split at h
      · cases h
        omega
      · have := ih h
        omega

theorem attemptRange_clock {range : BlockRange} {clock clock' groups : Nat}
    {answer : List RangeResult × String ⊕ ReplayReason × String}
    (hgroups : ∀ clock, (port.providerGroups clock config.chainKey).length ≤ groups)
    (h : attemptRange sha256 port config range clock = .ok (answer, clock')) : clock' ≤ clock + groups := by
  have hbound := hgroups clock
  unfold attemptRange at h
  split at h
  · cases h
  · rename_i hasked
    have := askGroups_clock hasked
    cases h
    omega
  · rename_i hasked
    have := askGroups_clock hasked
    split at h
    · cases h
      omega
    · cases h
      omega

/-- A range is collected, split or given up after as many attempts as its budget allows, and one at least. -/
theorem collectRange_clock {range : BlockRange} {attempts clock clock' groups : Nat} {collected : Collected}
    (hgroups : ∀ clock, (port.providerGroups clock config.chainKey).length ≤ groups)
    (h : collectRange sha256 port config range attempts clock = .ok (collected, clock')) :
    clock' ≤ clock + groups * max 1 (config.retryBudget - attempts) := by
  have hone : ∀ spare, groups ≤ groups * max 1 spare := fun spare =>
    Nat.le_mul_of_pos_right groups (Nat.lt_of_lt_of_le Nat.one_pos (Nat.le_max_left 1 spare))
  fun_induction collectRange sha256 port config range attempts clock with
  | case1 => cases h
  | case2 attempts clock results digest clock₁ hattempt =>
    cases h
    have := attemptRange_clock hgroups hattempt
    have := hone (config.retryBudget - attempts)
    omega
  | case3 attempts clock reason group clock₁ hattempt _ attempts' hstep ih =>
    have hfirst := attemptRange_clock hgroups hattempt
    have hrest := ih h
    obtain ⟨hattempts, hspare⟩ := nextStep_retry hstep
    dsimp only at hattempts hspare
    have hbudget : max 1 (config.retryBudget - attempts) = max 1 (config.retryBudget - attempts') + 1 := by omega
    rw [hbudget, Nat.mul_add, Nat.mul_one]
    omega
  | case4 attempts clock reason group clock₁ hattempt lower upper hstep =>
    cases h
    have := attemptRange_clock hgroups hattempt
    have := hone (config.retryBudget - attempts)
    omega
  | case5 attempts clock reason group clock₁ hattempt reason' hstep =>
    cases h
    have := attemptRange_clock hgroups hattempt
    have := hone (config.retryBudget - attempts)
    omega

/-- A planned window is never lost, whatever the port and the store answer: at every turn of the loop, and when it
leaves, the committed ranges, those given up and those waiting cut the window. The loop ends within the work of its
queue, and each range within the attempts of its budget. -/
theorem replay_partition {planned : List BlockRange} (hplan : planRanges plan = .ok planned) (hints : List PriorityHint)
    (lastSuccessAt : Option Int) (db : Db) :
    let first := firstPass (prioritise planned hints) lastSuccessAt
    (∀ n pass s, Iterates sha256 port config now first db n pass s →
        Partitions plan pass ∧ n + work pass.queue ≤ work first.queue) ∧
      (∃ n pass s, Iterates sha256 port config now first db n pass s ∧
        ∀ pass', (serveNext sha256 port config now pass s).result ≠ .ok (.again pass')) ∧
      (∀ pass, (Awaits.loop (servePass sha256 port config now) first db).result = .ok pass → Partitions plan pass) ∧
      ∀ range clock clock' collected groups, (∀ clock, (port.providerGroups clock config.chainKey).length ≤ groups) →
        collectRange sha256 port config range 0 clock = .ok (collected, clock') →
        clock' ≤ clock + groups * max 1 config.retryBudget := by
  intro first
  have hfirst : Partitions plan first := partitions_iff.mpr (cuts_prioritise hplan hints)
  refine ⟨fun n pass s h => h.partitions hfirst, exists_last_iteration first db, fun pass hpass => ?_, ?_⟩
  · have hloop : (Awaits.loop (servePass sha256 port config now) first db).Meets (fun _ => True)
        (fun pass _ => Partitions plan pass) fun _ _ => True := by
      refine Awaits.meets_loop (I := fun pass _ => Partitions plan pass) (fun pass s h => ?_) hfirst
      refine ⟨fun _ _ => trivial, fun next hnext => ?_, fun _ _ => trivial⟩
      have hstep := h.step hnext
      cases next with
      | again pass' => exact hstep
      | done pass' => exact hstep
    exact hloop.ok pass hpass
  · intro range clock clock' collected groups hgroups hcollect
    exact collectRange_clock hgroups hcollect

end Serve

def samplePlan : PlanInput where
  startBlock := 0
  agreedHead := 4
  maxRangeBlocks := 2
  retryBudget := 2

def samplePlanned : List BlockRange :=
  [{ fromBlock := 0, toBlock := 1 }, { fromBlock := 2, toBlock := 3 }, { fromBlock := 4, toBlock := 4 }]

/-- Five blocks in chunks of two, served by the sample lane. -/
theorem replay_partition_sample :
    let first := firstPass (prioritise samplePlanned []) none
    let Serves := Iterates sampleSha256 (sampleLane 4 []) sampleConfig 7 first sampleDb
    (∀ n pass s, Serves n pass s → Partitions samplePlan pass ∧ n + work pass.queue ≤ work first.queue) ∧
      (∃ n pass s, Serves n pass s ∧
        ∀ pass', (serveNext sampleSha256 (sampleLane 4 []) sampleConfig 7 pass s).result ≠ .ok (.again pass')) ∧
      (∀ pass, (Awaits.loop (servePass sampleSha256 (sampleLane 4 []) sampleConfig 7) first sampleDb).result = .ok pass →
        Partitions samplePlan pass) ∧
      ∀ range clock clock' collected groups,
        (∀ clock, ((sampleLane 4 []).providerGroups clock sampleConfig.chainKey).length ≤ groups) →
        collectRange sampleSha256 (sampleLane 4 []) sampleConfig range 0 clock = .ok (collected, clock') →
        clock' ≤ clock + groups * max 1 sampleConfig.retryBudget :=
  replay_partition (by simp [planRanges, samplePlan, chunksFrom, samplePlanned]) [] none sampleDb

end IcttSentinel.Replay
