/-
The invariant of the scheduler of apps/agent/src/scheduler.ts over every order of its events. It ties the lanes to the
executions in flight, the keys to the queue, and the reported outcomes to the executions that have returned.
-/
import IcttSentinel.Agent.Scheduler

namespace IcttSentinel.Agent

/-! ## Executions -/

/-- The attempt an execution is in is one it may make; from a sleep another one follows. -/
def Execution.Attempted (maxAttempts : Nat) (x : Execution) : Prop :=
  match x.phase with
  | .running _ => 1 ≤ x.attempt ∧ x.attempt ≤ maxAttempts
  | .sleeping => 1 ≤ x.attempt ∧ x.attempt < maxAttempts
  | .returned => True

/-- How many runs and sleeps an execution may still await. -/
def Execution.remaining (maxAttempts : Nat) (x : Execution) : Nat :=
  match x.phase with
  | .running _ => 2 * (maxAttempts - x.attempt) + 1
  | .sleeping => 2 * (maxAttempts - x.attempt)
  | .returned => 0

theorem Execution.Attempted.remaining_pos {maxAttempts : Nat} {x : Execution} (h : x.Attempted maxAttempts)
    (hawaits : x.phase ≠ .returned) : 0 < x.remaining maxAttempts := by
  unfold Execution.Attempted at h
  unfold Execution.remaining
  split at h <;> simp_all

/-- An outcome of a job after an admissible number of attempts. -/
structure JobOutcome.Of (maxAttempts : Nat) (job : Job) (outcome : JobOutcome) : Prop where
  job : outcome.job = job
  attempts : 1 ≤ outcome.attempts ∧ outcome.attempts ≤ maxAttempts

/-- A piece of an execution ends in a report and the return, or in another await. -/
inductive Goes (maxAttempts : Nat) (job : Job) : Advance → Prop where
  | reporting {x : Execution} {outcome : JobOutcome} (hreturned : x.phase = .returned)
      (houtcome : outcome.Of maxAttempts job) : Goes maxAttempts job (x, some outcome)
  | awaiting {x : Execution} (hawaits : x.phase ≠ .returned) (hattempted : x.Attempted maxAttempts) :
      Goes maxAttempts job (x, none)

/-- What every piece of an execution keeps. -/
structure Piece (maxAttempts : Nat) (x : Execution) (a : Advance) : Prop where
  awaited : x.phase ≠ .returned
  number : a.1.number = x.number
  job : a.1.job = x.job
  goes : Goes maxAttempts x.job a
  remaining : a.1.remaining maxAttempts ≤ x.remaining maxAttempts

section Pieces

variable {maxAttempts : Nat} {aborted : Bool} {now : Int} {x : Execution} {a : Advance}

variable (maxAttempts aborted now) in
theorem loop_goes (hattempt : 1 ≤ x.attempt ∧ x.attempt ≤ maxAttempts) :
    Goes maxAttempts x.job (Execution.loop maxAttempts aborted now x) ∧
      (Execution.loop maxAttempts aborted now x).1.number = x.number ∧
      (Execution.loop maxAttempts aborted now x).1.job = x.job ∧
      (Execution.loop maxAttempts aborted now x).1.remaining maxAttempts ≤ 2 * (maxAttempts - x.attempt) + 1 := by
  unfold Execution.loop
  rw [if_pos hattempt.2]
  split
  · exact ⟨.reporting rfl ⟨rfl, hattempt⟩, rfl, rfl, Nat.zero_le _⟩
  · exact ⟨.awaiting (by simp) hattempt, rfl, rfl, le_rfl⟩

/-- The run of an execution resolves: one await less. -/
theorem onResolved_piece (hattempted : x.Attempted maxAttempts) (h : Execution.onResolved now x = some a) :
    Piece maxAttempts x a ∧ a.1.remaining maxAttempts < x.remaining maxAttempts := by
  unfold Execution.onResolved at h
  split at h
  · rename_i timedOut hphase
    obtain rfl := Option.some.inj h
    have hattempt : 1 ≤ x.attempt ∧ x.attempt ≤ maxAttempts := by simpa [Execution.Attempted, hphase] using hattempted
    have hlt : (x.report .succeeded now none).1.remaining maxAttempts < x.remaining maxAttempts :=
      hattempted.remaining_pos (by simp [hphase])
    exact ⟨⟨by simp [hphase], rfl, rfl, .reporting rfl ⟨rfl, hattempt⟩, hlt.le⟩, hlt⟩
  · cases h

theorem onRejected_piece (hattempted : x.Attempted maxAttempts)
    (h : Execution.onRejected maxAttempts aborted now x = some a) :
    Piece maxAttempts x a ∧ a.1.remaining maxAttempts < x.remaining maxAttempts := by
  unfold Execution.onRejected at h
  split at h
  · rename_i timedOut hphase
    have hattempt : 1 ≤ x.attempt ∧ x.attempt ≤ maxAttempts := by simpa [Execution.Attempted, hphase] using hattempted
    have hpos := hattempted.remaining_pos (by simp [hphase])
    have hreport : ∀ result reason, x.report result now reason = a →
        Piece maxAttempts x a ∧ a.1.remaining maxAttempts < x.remaining maxAttempts := by
      rintro result reason rfl
      exact ⟨⟨by simp [hphase], rfl, rfl, .reporting rfl ⟨rfl, hattempt⟩, hpos.le⟩, hpos⟩
    dsimp only at h
    split at h
    · exact hreport _ _ (Option.some.inj h)
    · split at h
      · exact hreport _ _ (Option.some.inj h)
      · -- an attempt is left, so the execution sleeps
        rename_i hlast
        obtain rfl := Option.some.inj h
        have hless : x.attempt < maxAttempts := lt_of_le_of_ne hattempt.2 hlast
        have hlt : 2 * (maxAttempts - x.attempt) < x.remaining maxAttempts := by
          simp [Execution.remaining, hphase]
        exact ⟨⟨by simp [hphase], rfl, rfl, .awaiting (by simp) ⟨hattempt.1, hless⟩, hlt.le⟩, hlt⟩
  · cases h

/-- A timer that fires settles nothing. -/
theorem onTimeout_piece (hattempted : x.Attempted maxAttempts) (h : Execution.onTimeout aborted x = some a) :
    Piece maxAttempts x a := by
  unfold Execution.onTimeout at h
  split at h
  · rename_i hphase
    split at h
    · cases h
    · obtain rfl := Option.some.inj h
      have hattempt : 1 ≤ x.attempt ∧ x.attempt ≤ maxAttempts := by simpa [Execution.Attempted, hphase] using hattempted
      refine ⟨by simp [hphase], rfl, rfl, .awaiting (by simp) hattempt, ?_⟩
      simp [Execution.remaining, hphase]
  · cases h

theorem onWoken_piece (hattempted : x.Attempted maxAttempts)
    (h : Execution.onWoken maxAttempts aborted now x = some a) :
    Piece maxAttempts x a ∧ a.1.remaining maxAttempts < x.remaining maxAttempts := by
  unfold Execution.onWoken at h
  split at h
  · rename_i hphase
    obtain rfl := Option.some.inj h
    have hattempt : 1 ≤ x.attempt ∧ x.attempt < maxAttempts := by simpa [Execution.Attempted, hphase] using hattempted
    obtain ⟨hgoes, hnumber, hjob, hremaining⟩ := loop_goes maxAttempts aborted now
      (x := { x with attempt := x.attempt + 1 }) ⟨by simp, hattempt.2⟩
    have hlt : (Execution.loop maxAttempts aborted now { x with attempt := x.attempt + 1 }).1.remaining maxAttempts <
        x.remaining maxAttempts := by
      simp only [Execution.remaining, hphase] at hremaining ⊢
      omega
    exact ⟨⟨by simp [hphase], hnumber, hjob, hgoes, hlt.le⟩, hlt⟩
  · cases h

theorem onSleepCut_piece (hattempted : x.Attempted maxAttempts) (h : Execution.onSleepCut now x = some a) :
    Piece maxAttempts x a ∧ a.1.remaining maxAttempts < x.remaining maxAttempts := by
  unfold Execution.onSleepCut at h
  split at h
  · rename_i hphase
    obtain rfl := Option.some.inj h
    have hattempt : 1 ≤ x.attempt ∧ x.attempt < maxAttempts := by simpa [Execution.Attempted, hphase] using hattempted
    have hlt : (x.report .cancelled now x.lastReason).1.remaining maxAttempts < x.remaining maxAttempts :=
      hattempted.remaining_pos (by simp [hphase])
    exact ⟨⟨by simp [hphase], rfl, rfl, .reporting rfl ⟨rfl, hattempt.1, hattempt.2.le⟩, hlt.le⟩, hlt⟩
  · cases h

end Pieces

/-! ## The invariant -/

/-- The execution has not returned: it awaits a run or a sleep. -/
def Awaiting (s : Scheduler) (number : Nat) : Prop := ∃ x ∈ s.inFlight, x.number = number ∧ x.phase ≠ .returned

/-- The outcomes an execution has reported. -/
def reports (s : Scheduler) (number : Nat) : List JobOutcome := (s.outcomes.filter (·.1 = number)).map (·.2)

/-- An execution that awaits has reported nothing, and one that does not has reported one outcome of its job. -/
def Reported (maxAttempts : Nat) (s : Scheduler) (number : Nat) (job : Job) : Prop :=
  (Awaiting s number ∧ reports s number = []) ∨
    (¬ Awaiting s number ∧ ∃ outcome, reports s number = [outcome] ∧ outcome.Of maxAttempts job)

structure Invariant (options : SchedulerOptions) (s : Scheduler) : Prop where
  lanes : s.lanes.Perm (s.inFlight.map (·.job.deploymentId))
  lanesNodup : s.lanes.Nodup
  concurrency : s.lanes.length ≤ options.maxConcurrency
  keys : s.queuedKeys.Perm (s.queue.map jobKey)
  keysNodup : s.queuedKeys.Nodup
  queueBound : s.queue.length ≤ options.queueLimit
  drained : s.draining = true → s.queue = []
  numbersNodup : (s.inFlight.map (·.number)).Nodup
  started : ∀ x ∈ s.inFlight, s.starts[x.number]? = some x.job
  attempted : ∀ x ∈ s.inFlight, x.Attempted options.maxAttempts
  outcomes : ∀ p ∈ s.outcomes, p.1 < s.starts.length
  reported : ∀ number job, s.starts[number]? = some job → Reported options.maxAttempts s number job

section Invariant

variable {options : SchedulerOptions} {s s' : Scheduler}

theorem Invariant.new (options : SchedulerOptions) : Invariant options .new where
  lanes := .refl _
  lanesNodup := List.nodup_nil
  concurrency := Nat.zero_le _
  keys := .refl _
  keysNodup := List.nodup_nil
  queueBound := Nat.zero_le _
  drained _ := rfl
  numbersNodup := List.nodup_nil
  started := by simp [Scheduler.new]
  attempted := by simp [Scheduler.new]
  outcomes := by simp [Scheduler.new]
  reported := by simp [Scheduler.new]

/-- An execution in flight is the only one of its number. -/
theorem Invariant.eq_of_number (h : Invariant options s) {x y : Execution} (hx : x ∈ s.inFlight) (hy : y ∈ s.inFlight)
    (hnumber : x.number = y.number) : x = y :=
  List.inj_on_of_nodup_map h.numbersNodup hx hy hnumber

theorem Invariant.number_lt (h : Invariant options s) {x : Execution} (hx : x ∈ s.inFlight) :
    x.number < s.starts.length :=
  (List.getElem?_eq_some_iff.1 (h.started x hx)).1

/-! ### Submitting -/

theorem Invariant.submit (h : Invariant options s) (job : Job) : Invariant options (submit options s job).2 := by
  unfold Agent.submit
  split_ifs with hdraining hduplicate hfull
  · exact h
  · exact { h with }
  · exact { h with }
  · rw [Bool.or_eq_true, not_or, Bool.not_eq_true, Bool.not_eq_true] at hduplicate
    have hnew : jobKey job ∉ s.queuedKeys := by simpa using hduplicate.1
    exact
      { h with
        keys := by
          rw [List.map_append, List.map_singleton]
          exact h.keys.append_right _
        keysNodup := by
          rw [List.nodup_append]
          refine ⟨h.keysNodup, List.nodup_singleton _, fun a ha b hb hab => hnew ?_⟩
          rw [← List.mem_singleton.1 hb, ← hab]
          exact ha
        queueBound := by
          rw [List.length_append, List.length_singleton]
          omega
        drained := fun hd => absurd hd hdraining }

/-! ### Reports -/

/-- What changes neither the awaiting executions nor the reports of a number leaves it reported as it was. -/
theorem Reported.congr {maxAttempts number : Nat} {job : Job} (h : Reported maxAttempts s number job)
    (hawaiting : Awaiting s' number ↔ Awaiting s number) (hreports : reports s' number = reports s number) :
    Reported maxAttempts s' number job := by
  unfold Reported
  rw [hawaiting, hreports]
  exact h

/-- A piece of an execution that has reported nothing so far reports, or leaves it awaiting. -/
theorem Goes.reported {maxAttempts number : Nat} {job : Job} {a : Advance} (h : Goes maxAttempts job a)
    (hawaiting : Awaiting s number ↔ a.1.phase ≠ .returned) (hreports : reports s number = a.2.toList) :
    Reported maxAttempts s number job := by
  cases h with
  | reporting hreturned houtcome =>
    exact Or.inr ⟨fun hawaits => hawaiting.1 hawaits hreturned, _, hreports, houtcome⟩
  | awaiting hawaits _ => exact Or.inl ⟨hawaiting.2 hawaits, hreports⟩

/-! ### Starting -/

/-- The outcomes of a new execution are its own. -/
theorem reports_append (outcomes : List (Nat × JobOutcome)) (outcome : Option JobOutcome) (number m : Nat) :
    ((outcomes ++ outcome.toList.map (number, ·)).filter (·.1 = m)).map (·.2) =
      (outcomes.filter (·.1 = m)).map (·.2) ++ if number = m then outcome.toList else [] := by
  rw [List.filter_append, List.map_append]
  congr 1
  cases outcome with
  | none => simp
  | some o => by_cases hm : number = m <;> simp [hm]

/-- The element found first, taken out. -/
theorem perm_cons_eraseP {α : Type} {p : α → Bool} {l : List α} {a : α} (h : l.find? p = some a) :
    l.Perm (a :: l.eraseP p) := by
  induction l with
  | nil => cases h
  | cons b l ih =>
    cases hb : p b with
    | true =>
      rw [List.find?_cons_of_pos hb] at h
      obtain rfl : b = a := Option.some.inj h
      rw [List.eraseP_cons_of_pos hb]
    | false =>
      rw [List.find?_cons_of_neg (by simp [hb])] at h
      rw [List.eraseP_cons_of_neg (by simp [hb])]
      exact ((ih h).cons b).trans (.swap a b _)

theorem Invariant.startNext (h : Invariant options s) (hattempts : 1 ≤ options.maxAttempts) {now : Int}
    (hstart : startNext options now s = some s') : Invariant options s' ∧ s'.queue.length < s.queue.length := by
  unfold Agent.startNext at hstart
  split at hstart
  swap
  · cases hstart
  rename_i hroom
  obtain ⟨job, hjob, rfl⟩ := Option.map_eq_some_iff.1 hstart
  have hfree : job.deploymentId ∉ s.lanes := by simpa [Scheduler.free] using List.find?_some hjob
  have hqueue := perm_cons_eraseP hjob
  have hkeys : (s.queuedKeys.erase (jobKey job)).Perm ((s.queue.eraseP s.free).map jobKey) := by
    have herase := (h.keys.trans (hqueue.map jobKey)).erase (jobKey job)
    rwa [List.map_cons, List.erase_cons_head] at herase
  have hshorter : (s.queue.eraseP s.free).length < s.queue.length := by
    rw [hqueue.length_eq, List.length_cons]
    exact Nat.lt_succ_self _
  -- the new execution runs to its first suspension, which may already report
  let first : Execution :=
    { number := s.starts.length, job, started := now, attempt := 1, lastReason := none, phase := .sleeping }
  obtain ⟨hgoes, hnumber, hsame, -⟩ := loop_goes options.maxAttempts s.aborted now (x := first)
    ⟨le_rfl, hattempts⟩
  generalize Execution.loop options.maxAttempts s.aborted now first = a at hgoes hnumber hsame
  refine ⟨?_, hshorter⟩
  -- a start takes the next number, so no execution in flight has it
  have hold : ∀ x ∈ s.inFlight, x.number ≠ s.starts.length := fun x hx => (h.number_lt hx).ne
  exact
    { lanes := by
        rw [List.map_append, List.map_singleton, hsame]
        exact h.lanes.append_right _
      lanesNodup := by
        rw [List.nodup_append]
        refine ⟨h.lanesNodup, List.nodup_singleton _, fun x hx y hy hxy => hfree ?_⟩
        rw [← List.mem_singleton.1 hy, ← hxy]
        exact hx
      concurrency := by
        rw [List.length_append, List.length_singleton]
        exact hroom
      keys := hkeys
      keysNodup := h.keysNodup.erase _
      queueBound := hshorter.le.trans h.queueBound
      drained := fun hdraining => by
        rw [h.drained hdraining] at hjob
        cases hjob
      numbersNodup := by
        rw [List.map_append, List.map_singleton, List.nodup_append, hnumber]
        refine ⟨h.numbersNodup, List.nodup_singleton _, fun x hx y hy hxy => ?_⟩
        obtain ⟨z, hz, rfl⟩ := List.mem_map.1 hx
        exact hold z hz (hxy.trans (List.mem_singleton.1 hy))
      started := by
        intro x hx
        rcases List.mem_append.1 hx with hx | hx
        · rw [List.getElem?_append_left (h.number_lt hx)]
          exact h.started x hx
        · rw [List.mem_singleton.1 hx, hnumber, hsame]
          simp [first]
      attempted := by
        intro x hx
        rcases List.mem_append.1 hx with hx | hx
        · exact h.attempted x hx
        · rw [List.mem_singleton.1 hx]
          cases hgoes with
          | reporting hreturned _ => simp [Execution.Attempted, hreturned]
          | awaiting _ hattempted => exact hattempted
      outcomes := by
        intro p hp
        rw [List.length_append, List.length_singleton]
        rcases List.mem_append.1 hp with hp | hp
        · exact (h.outcomes p hp).trans (Nat.lt_succ_self _)
        · obtain ⟨outcome, -, rfl⟩ := List.mem_map.1 hp
          exact Nat.lt_succ_self _
      reported := by
        intro number job' hstarted
        have hawaiting : ∀ number, (∃ x ∈ s.inFlight ++ [a.1], x.number = number ∧ x.phase ≠ .returned) ↔
            Awaiting s number ∨ (s.starts.length = number ∧ a.1.phase ≠ .returned) := by
          intro number
          simp only [List.mem_append, List.mem_singleton, or_and_right, exists_or, exists_eq_left, hnumber, Awaiting]
          rfl
        have hreports := reports_append s.outcomes a.2 s.starts.length number
        by_cases hnew : s.starts.length = number
        · -- the new execution has reported nothing but what its first piece reports
          subst hnew
          have hnone : ¬ Awaiting s s.starts.length := fun ⟨x, hx, hnumber, _⟩ => hold x hx hnumber
          have hsilent : s.outcomes.filter (fun p => decide (p.1 = s.starts.length)) = [] :=
            List.filter_eq_nil_iff.2 fun p hp => by simpa using (h.outcomes p hp).ne
          rw [if_pos rfl, hsilent] at hreports
          rw [List.getElem?_concat_length] at hstarted
          obtain rfl : job = job' := Option.some.inj hstarted
          refine hgoes.reported ?_ hreports
          exact (hawaiting _).trans ⟨fun hor => (hor.resolve_left hnone).2, fun hphase => Or.inr ⟨rfl, hphase⟩⟩
        · rw [if_neg hnew, List.append_nil] at hreports
          have hlt : number < s.starts.length := by
            have hbound := (List.getElem?_eq_some_iff.1 hstarted).1
            rw [List.length_append, List.length_singleton] at hbound
            omega
          rw [List.getElem?_append_left hlt] at hstarted
          refine (h.reported number job' hstarted).congr ?_ hreports
          exact (hawaiting _).trans ⟨fun hor => hor.resolve_right fun hsame => hnew hsame.1, Or.inl⟩ }

theorem Invariant.pumpTurns (h : Invariant options s) (hattempts : 1 ≤ options.maxAttempts) (now : Int) (turns : Nat) :
    Invariant options (pumpTurns options now turns s) := by
  induction turns generalizing s with
  | zero => exact h
  | succ turns ih =>
    unfold Agent.pumpTurns
    split
    · exact h
    · rename_i s' hstart
      exact ih (h.startNext hattempts hstart).1

/-- The turns of a pump are enough: afterwards no job can be started. -/
theorem startNext_pump (h : Invariant options s) (hattempts : 1 ≤ options.maxAttempts) (now : Int) :
    startNext options now (pump options now s) = none := by
  suffices hturns : ∀ turns s, Invariant options s → s.queue.length ≤ turns →
      startNext options now (Agent.pumpTurns options now turns s) = none from hturns _ _ h le_rfl
  intro turns
  induction turns with
  | zero =>
    intro s _ hempty
    have hnil : s.queue = [] := List.length_eq_zero_iff.1 (Nat.le_zero.1 hempty)
    show startNext options now s = none
    unfold Agent.startNext
    rw [hnil]
    split <;> rfl
  | succ turns ih =>
    intro s hs hle
    unfold Agent.pumpTurns
    split
    · assumption
    · rename_i s' hstart
      obtain ⟨hs', hshorter⟩ := hs.startNext hattempts hstart
      exact ih s' hs' (by omega)

theorem Invariant.pump (h : Invariant options s) (hattempts : 1 ≤ options.maxAttempts) (now : Int) :
    Invariant options (pump options now s) :=
  h.pumpTurns hattempts now _

/-! ### Going on -/

theorem Invariant.advance (h : Invariant options s) {number : Nat} {piece : Execution → Option Advance}
    (hpiece : ∀ x a, x.Attempted options.maxAttempts → piece x = some a → Piece options.maxAttempts x a) :
    Invariant options (advance s number piece) := by
  unfold Agent.advance
  split
  · exact h
  rename_i x' outcome hbind
  obtain ⟨x, hfind, hx'⟩ := Option.bind_eq_some_iff.1 hbind
  have hx : x ∈ s.inFlight := List.mem_of_find?_eq_some hfind
  have hnumber : x.number = number := by simpa using List.find?_some hfind
  have hp := hpiece x _ (h.attempted x hx) hx'
  have hx'number : x'.number = number := hp.number.trans hnumber
  -- the execution that goes on keeps its number and its job
  have hkept : ∀ y ∈ s.inFlight, (if y.number = number then x' else y).number = y.number ∧
      (if y.number = number then x' else y).job = y.job := by
    intro y hy
    split
    · rename_i hy'
      obtain rfl := h.eq_of_number hy hx (hy'.trans hnumber.symm)
      exact ⟨hp.number, hp.job⟩
    · exact ⟨rfl, rfl⟩
  have hnumbers : (s.inFlight.map fun y => if y.number = number then x' else y).map (·.number) =
      s.inFlight.map (·.number) := by
    rw [List.map_map]
    exact List.map_congr_left fun y hy => (hkept y hy).1
  have hdeployments : (s.inFlight.map fun y => if y.number = number then x' else y).map (·.job.deploymentId) =
      s.inFlight.map (·.job.deploymentId) := by
    rw [List.map_map]
    exact List.map_congr_left fun y hy => congrArg Job.deploymentId (hkept y hy).2
  have hawaiting : ∀ m, (∃ y ∈ s.inFlight.map (fun y => if y.number = number then x' else y),
      y.number = m ∧ y.phase ≠ .returned) ↔ if m = number then x'.phase ≠ .returned else Awaiting s m := by
    intro m
    simp only [List.mem_map, exists_exists_and_eq_and]
    split
    · rename_i hm
      subst hm
      constructor
      · rintro ⟨y, hy, hym, hphase⟩
        rw [(hkept y hy).1] at hym
        rwa [if_pos hym] at hphase
      · intro hphase
        exact ⟨x, hx, by rw [(hkept x hx).1]; exact hnumber, by rwa [if_pos hnumber]⟩
    · rename_i hm
      refine exists_congr fun y => and_congr_right fun hy => ?_
      rw [(hkept y hy).1]
      refine and_congr_right fun hym => ?_
      rw [if_neg (by rwa [hym])]
  exact
    { h with
      lanes := by rw [hdeployments]; exact h.lanes
      numbersNodup := by rw [hnumbers]; exact h.numbersNodup
      started := by
        intro y hy
        obtain ⟨z, hz, rfl⟩ := List.mem_map.1 hy
        rw [(hkept z hz).1, (hkept z hz).2]
        exact h.started z hz
      attempted := by
        intro y hy
        obtain ⟨z, hz, rfl⟩ := List.mem_map.1 hy
        split
        · have hgoes := hp.goes
          cases hgoes with
          | reporting hreturned _ => simp [Execution.Attempted, hreturned]
          | awaiting _ hattempted => exact hattempted
        · exact h.attempted z hz
      outcomes := by
        intro p hp'
        rcases List.mem_append.1 hp' with hp' | hp'
        · exact h.outcomes p hp'
        · obtain ⟨o, -, rfl⟩ := List.mem_map.1 hp'
          exact hnumber ▸ h.number_lt hx
      reported := by
        intro m job hstarted
        have hreports := reports_append s.outcomes outcome number m
        by_cases hm : m = number
        · subst hm
          have hsame : some x.job = some job := by rw [← h.started x hx, hnumber, hstarted]
          obtain rfl := Option.some.inj hsame
          -- it was still awaited, so it has reported nothing yet
          have hsilent : reports s m = [] := by
            rcases h.reported m _ hstarted with ⟨-, hnone⟩ | ⟨hnot, -⟩
            · exact hnone
            · exact absurd ⟨x, hx, hnumber, hp.awaited⟩ hnot
          rw [if_pos rfl, show (s.outcomes.filter fun p => decide (p.1 = m)).map (·.2) = [] from hsilent,
            List.nil_append] at hreports
          refine hp.goes.reported ?_ hreports
          rw [← if_pos (c := m = m) (t := x'.phase ≠ .returned) (e := Awaiting s m) rfl]
          exact hawaiting m
        · rw [if_neg (Ne.symm hm), List.append_nil] at hreports
          refine (h.reported m job hstarted).congr ?_ hreports
          rw [← if_neg (c := m = number) (t := x'.phase ≠ .returned) (e := Awaiting s m) hm]
          exact hawaiting m }

/-! ### Ending -/

theorem Invariant.shutdown (h : Invariant options s) : Invariant options (shutdown s) :=
  { h with
    keys := .refl _
    keysNodup := List.nodup_nil
    queueBound := Nat.zero_le _
    drained := fun _ => rfl }

/-- The scheduler without a returned execution, its lane free. -/
def freed (s : Scheduler) (x : Execution) : Scheduler :=
  { s with
    lanes := s.lanes.erase x.job.deploymentId
    inFlight := s.inFlight.filter (·.number ≠ x.number) }

theorem finish_eq (now : Int) (s : Scheduler) (x : Execution) :
    finish options now s x = if !s.draining then pump options now (freed s x) else freed s x := rfl

theorem Invariant.freed (h : Invariant options s) {x : Execution} (hx : x ∈ s.inFlight) (hreturned : x.phase = .returned) :
    Invariant options (freed s x) := by
  have hperm : s.inFlight.Perm (x :: s.inFlight.filter (·.number ≠ x.number)) := by
    have hfilter : s.inFlight.erase x = s.inFlight.filter (·.number ≠ x.number) := by
      rw [h.numbersNodup.of_map.erase_eq_filter]
      refine List.filter_congr fun y hy => Bool.eq_iff_iff.2 ?_
      rw [bne_iff_ne, decide_eq_true_eq]
      exact not_congr ⟨congrArg Execution.number, h.eq_of_number hy hx⟩
    rw [← hfilter]
    exact List.perm_cons_erase hx
  exact
    { h with
      lanes := by
        have herase := (h.lanes.trans (hperm.map fun x => x.job.deploymentId)).erase x.job.deploymentId
        rwa [List.map_cons, List.erase_cons_head] at herase
      lanesNodup := h.lanesNodup.erase _
      concurrency := List.length_erase_le.trans h.concurrency
      numbersNodup := h.numbersNodup.sublist (List.filter_sublist.map _)
      started := fun y hy => h.started y (List.mem_of_mem_filter hy)
      attempted := fun y hy => h.attempted y (List.mem_of_mem_filter hy)
      reported := fun number job hstarted => by
        refine (h.reported number job hstarted).congr ?_ rfl
        constructor
        · rintro ⟨y, hy, hy'⟩
          exact ⟨y, List.mem_of_mem_filter hy, hy'⟩
        · rintro ⟨y, hy, hnumber, hawaits⟩
          refine ⟨y, List.mem_filter.2 ⟨hy, decide_eq_true fun hsame => hawaits ?_⟩, hnumber, hawaits⟩
          rw [h.eq_of_number hy hx hsame]
          exact hreturned }

theorem Invariant.finish (h : Invariant options s) (hattempts : 1 ≤ options.maxAttempts) {x : Execution}
    (hx : x ∈ s.inFlight) (hreturned : x.phase = .returned) (now : Int) : Invariant options (finish options now s x) := by
  rw [finish_eq]
  split
  · exact (h.freed hx hreturned).pump hattempts now
  · exact h.freed hx hreturned

/-! ### Every event -/

theorem returned_of_find {number : Nat} {x : Execution}
    (h : s.inFlight.find? (fun x => x.number = number && x.phase = .returned) = some x) : x.phase = .returned := by
  have hx := List.find?_some h
  simp only [Bool.and_eq_true, decide_eq_true_eq] at hx
  exact hx.2

theorem Invariant.step (h : Invariant options s) (hattempts : 1 ≤ options.maxAttempts) (e : SchedulerEvent) :
    Invariant options (schedulerStep options s e) := by
  cases e with
  | submitted job => exact h.submit job
  | pumped now => exact h.pump hattempts now
  | resolved number now => exact h.advance fun _ _ hattempted hpiece => (onResolved_piece hattempted hpiece).1
  | rejected number now => exact h.advance fun _ _ hattempted hpiece => (onRejected_piece hattempted hpiece).1
  | timedOut number => exact h.advance fun _ _ hattempted hpiece => onTimeout_piece hattempted hpiece
  | woken number now => exact h.advance fun _ _ hattempted hpiece => (onWoken_piece hattempted hpiece).1
  | sleepCut number now => exact h.advance fun _ _ hattempted hpiece => (onSleepCut_piece hattempted hpiece).1
  | finished number now =>
    simp only [schedulerStep]
    split
    · exact h
    · rename_i x hfind
      have hreturned := returned_of_find hfind
      exact h.finish hattempts (List.mem_of_find?_eq_some hfind) hreturned now
  | shutDown => exact h.shutdown
  | graceElapsed =>
    simp only [schedulerStep]
    split
    · exact { h with }
    · exact h

theorem Invariant.run (h : Invariant options s) (hattempts : 1 ≤ options.maxAttempts) (history : List SchedulerEvent) :
    Invariant options (history.foldl (schedulerStep options) s) := by
  induction history generalizing s with
  | nil => exact h
  | cons e history ih => exact ih (h.step hattempts e)

end Invariant

end IcttSentinel.Agent
