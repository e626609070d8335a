/-
The safety of the scheduler of apps/agent/src/scheduler.ts over every order of its events: one active job per
deployment, bounded concurrency, a bounded queue without duplicates, no start while draining, and one outcome per
start, after a bounded number of runs and sleeps.
-/
import IcttSentinel.Agent.Lanes

namespace IcttSentinel.Agent

/-! ## Draining -/

section Draining

variable {options : SchedulerOptions} {s : Scheduler}

theorem startNext_drained (hempty : s.queue = []) (now : Int) : startNext options now s = none := by
  unfold startNext
  rw [hempty]
  split <;> rfl

theorem pump_drained (hempty : s.queue = []) (now : Int) : pump options now s = s := by
  unfold pump
  cases s.queue.length with
  | zero => rfl
  | succ turns => rw [pumpTurns, startNext_drained hempty]

theorem advance_frame (s : Scheduler) (number : Nat) (piece : Execution → Option Advance) :
    (advance s number piece).draining = s.draining ∧ (advance s number piece).starts = s.starts := by
  unfold advance
  split <;> exact ⟨rfl, rfl⟩

theorem draining_pumpTurns (options : SchedulerOptions) (now : Int) (turns : Nat) (s : Scheduler) :
    (pumpTurns options now turns s).draining = s.draining := by
  induction turns generalizing s with
  | zero => rfl
  | succ turns ih =>
    unfold pumpTurns
    split
    · rfl
    · rename_i s' hstart
      rw [ih]
      unfold startNext at hstart
      split at hstart
      · obtain ⟨job, -, rfl⟩ := Option.map_eq_some_iff.1 hstart
        rfl
      · cases hstart

/-- A shutdown sets the scheduler draining, and no other event changes whether it is. -/
theorem draining_step (options : SchedulerOptions) (s : Scheduler) (e : SchedulerEvent) :
    (schedulerStep options s e).draining = (s.draining || decide (e = .shutDown)) := by
  have hkept : ∀ s' : Scheduler, s'.draining = s.draining → s'.draining = (s.draining || false) := by
    intro s' h
    rw [h, Bool.or_false]
  cases e with
  | submitted job =>
    apply hkept
    simp only [schedulerStep, submit]
    split_ifs <;> rfl
  | pumped now => exact hkept _ (draining_pumpTurns options now _ s)
  | resolved number now => exact hkept _ (advance_frame s number _).1
  | rejected number now => exact hkept _ (advance_frame s number _).1
  | timedOut number => exact hkept _ (advance_frame s number _).1
  | woken number now => exact hkept _ (advance_frame s number _).1
  | sleepCut number now => exact hkept _ (advance_frame s number _).1
  | finished number now =>
    apply hkept
    simp only [schedulerStep]
    split
    · rfl
    · rename_i x _
      rw [finish_eq]
      split
      · exact draining_pumpTurns options now _ (freed s x)
      · rfl
  | shutDown => exact (Bool.or_true _).symm
  | graceElapsed =>
    apply hkept
    simp only [schedulerStep]
    split <;> rfl

theorem schedulerAfter_append_singleton (options : SchedulerOptions) (history : List SchedulerEvent) (e : SchedulerEvent) :
    schedulerAfter options (history ++ [e]) = schedulerStep options (schedulerAfter options history) e := by
  unfold schedulerAfter
  rw [List.foldl_append]
  rfl

/-- So it is draining exactly after a shutdown. -/
theorem draining_iff (options : SchedulerOptions) (history : List SchedulerEvent) :
    (schedulerAfter options history).draining = true ↔ .shutDown ∈ history := by
  induction history using List.reverseRecOn with
  | nil => exact iff_of_false Bool.false_ne_true List.not_mem_nil
  | append_singleton history e ih =>
    rw [schedulerAfter_append_singleton, draining_step, Bool.or_eq_true, ih, decide_eq_true_eq, List.mem_append, List.mem_singleton]
    exact or_congr_right eq_comm

/-- Once draining, the scheduler stays so and starts nothing. -/
theorem step_drained (h : Invariant options s) (hdraining : s.draining = true) (e : SchedulerEvent) :
    (schedulerStep options s e).draining = true ∧ (schedulerStep options s e).starts = s.starts := by
  -- a piece of a running execution starts nothing
  have hpiece : ∀ number piece, (advance s number piece).draining = true ∧ (advance s number piece).starts = s.starts := by
    intro number piece
    obtain ⟨hframe, hstarts⟩ := advance_frame s number piece
    exact ⟨hframe.trans hdraining, hstarts⟩
  cases e with
  | submitted job =>
    have hsame : schedulerStep options s (.submitted job) = s := by simp only [schedulerStep, submit, if_pos hdraining]
    rw [hsame]
    exact ⟨hdraining, rfl⟩
  | pumped now =>
    have hsame : schedulerStep options s (.pumped now) = s := pump_drained (h.drained hdraining) now
    rw [hsame]
    exact ⟨hdraining, rfl⟩
  | resolved number now => exact hpiece _ _
  | rejected number now => exact hpiece _ _
  | timedOut number => exact hpiece _ _
  | woken number now => exact hpiece _ _
  | sleepCut number now => exact hpiece _ _
  | finished number now =>
    simp only [schedulerStep]
    split
    · exact ⟨hdraining, rfl⟩
    · simp only [finish, hdraining, Bool.not_true, Bool.false_eq_true, if_false]
      exact ⟨trivial, trivial⟩
  | shutDown => exact ⟨rfl, rfl⟩
  | graceElapsed =>
    have hsame : schedulerStep options s .graceElapsed = { s with aborted := true } := if_pos hdraining
    rw [hsame]
    exact ⟨hdraining, rfl⟩

theorem run_drained (h : Invariant options s) (hattempts : 1 ≤ options.maxAttempts) (hdraining : s.draining = true)
    (later : List SchedulerEvent) : (later.foldl (schedulerStep options) s).starts = s.starts := by
  induction later generalizing s with
  | nil => rfl
  | cons e later ih =>
    obtain ⟨hdraining', hstarts⟩ := step_drained h hdraining e
    rw [List.foldl_cons, ih (h.step hattempts e) hdraining', hstarts]

end Draining

/-! ## Settling -/

/-- The piece of the execution that the event runs, if it settles what the execution awaits. -/
def settling (options : SchedulerOptions) (s : Scheduler) : SchedulerEvent → Option (Nat × (Execution → Option Advance))
  | .resolved m now => some (m, Execution.onResolved now)
  | .rejected m now => some (m, Execution.onRejected options.maxAttempts s.aborted now)
  | .woken m now => some (m, Execution.onWoken options.maxAttempts s.aborted now)
  | .sleepCut m now => some (m, Execution.onSleepCut now)
  | _ => none

/-- The event settles what the execution awaits. -/
def settles (options : SchedulerOptions) (s : Scheduler) (number : Nat) (e : SchedulerEvent) : Bool :=
  (settling options s e).any fun (m, piece) =>
    decide (m = number) && ((s.inFlight.find? (·.number = m)).bind piece).isSome

/-- How often the events of a run settle what the execution awaits. -/
def settlements (options : SchedulerOptions) (number : Nat) : Scheduler → List SchedulerEvent → Nat
  | _, [] => 0
  | s, e :: later => (settles options s number e).toNat + settlements options number (schedulerStep options s e) later

/-- What an execution may still await. -/
def remainingOf (options : SchedulerOptions) (s : Scheduler) (number : Nat) : Nat :=
  ((s.inFlight.find? (·.number = number)).map (Execution.remaining options.maxAttempts)).getD 0

section Settling

variable {options : SchedulerOptions} {s : Scheduler} {number : Nat}

variable (number) in
/-- A piece of one execution leaves what the others may await, and takes from its own if it settles something. -/
theorem remainingOf_advance (h : Invariant options s) {m : Nat} {piece : Execution → Option Advance}
    (hpiece : ∀ x a, x.Attempted options.maxAttempts → piece x = some a → Piece options.maxAttempts x a) :
    remainingOf options (advance s m piece) number ≤ remainingOf options s number ∧
      ((∀ x a, x.Attempted options.maxAttempts → piece x = some a →
          a.1.remaining options.maxAttempts < x.remaining options.maxAttempts) →
        m = number → ((s.inFlight.find? (·.number = m)).bind piece).isSome = true →
          remainingOf options (advance s m piece) number < remainingOf options s number) := by
  unfold advance
  split
  · rename_i hnone
    refine ⟨le_rfl, fun _ _ hsome => ?_⟩
    rw [hnone] at hsome
    cases hsome
  rename_i x' outcome hbind
  obtain ⟨x, hfind, hx'⟩ := Option.bind_eq_some_iff.1 hbind
  have hattempted := h.attempted x (List.mem_of_find?_eq_some hfind)
  have hnumber : x.number = m := by simpa using List.find?_some hfind
  have hp := hpiece x _ hattempted hx'
  have hfound : (s.inFlight.map fun y => if y.number = m then x' else y).find? (·.number = number) =
      (s.inFlight.find? (·.number = number)).map fun y => if y.number = m then x' else y := by
    rw [List.find?_map]
    congr 2
    funext y
    simp only [Function.comp_apply]
    split
    · rename_i hy
      rw [hp.number, hnumber, hy]
    · rfl
  by_cases hm : m = number
  · subst hm
    -- the execution that is advanced has what the piece leaves it
    have hafter : remainingOf options { s with
        inFlight := s.inFlight.map fun y => if y.number = m then x' else y
        outcomes := s.outcomes ++ outcome.toList.map (m, ·) } m = x'.remaining options.maxAttempts := by
      unfold remainingOf
      rw [hfound, hfind, Option.map_some, Option.map_some, if_pos hnumber]
      rfl
    have hbefore : remainingOf options s m = x.remaining options.maxAttempts := by
      unfold remainingOf
      rw [hfind]
      rfl
    rw [hafter, hbefore]
    exact ⟨hp.remaining, fun hless _ _ => hless x _ hattempted hx'⟩
  · refine ⟨le_of_eq ?_, fun _ hsame => absurd hsame hm⟩
    unfold remainingOf
    rw [hfound]
    cases hother : s.inFlight.find? (·.number = number) with
    | none => rfl
    | some y =>
      have hy : y.number = number := by simpa using List.find?_some hother
      rw [Option.map_some, if_neg (by rw [hy]; exact Ne.symm hm)]

/-- A pump takes nothing from what an execution may await. -/
theorem remainingOf_pumpTurns (h : Invariant options s) (hattempts : 1 ≤ options.maxAttempts)
    (hstarted : number < s.starts.length) (now : Int) (turns : Nat) :
    remainingOf options (pumpTurns options now turns s) number = remainingOf options s number := by
  induction turns generalizing s with
  | zero => rfl
  | succ turns ih =>
    unfold pumpTurns
    split
    · rfl
    · rename_i s' hstart
      obtain ⟨hs', -⟩ := h.startNext hattempts hstart
      unfold startNext at hstart
      split at hstart
      swap
      · cases hstart
      obtain ⟨job, -, rfl⟩ := Option.map_eq_some_iff.1 hstart
      have hlater : number < (s.starts ++ [job]).length := by
        rw [List.length_append]
        omega
      rw [ih hs' hlater]
      have hnumber := (loop_goes options.maxAttempts s.aborted now
        (x := { number := s.starts.length, job, started := now, attempt := 1, lastReason := none, phase := .sleeping })
        ⟨le_rfl, hattempts⟩).2.1
      unfold remainingOf
      simp only [List.find?_append]
      rw [List.find?_cons_of_neg (by rw [hnumber]; simpa using hstarted.ne'), List.find?_nil, Option.or_none]

theorem remainingOf_freed (h : Invariant options s) (x : Execution) :
    remainingOf options (freed s x) number ≤ remainingOf options s number := by
  unfold remainingOf freed
  cases hfind : (s.inFlight.filter (·.number ≠ x.number)).find? (·.number = number) with
  | none => exact Nat.zero_le _
  | some y =>
    have hy := List.mem_of_mem_filter (List.mem_of_find?_eq_some hfind)
    have hynumber : y.number = number := by simpa using List.find?_some hfind
    cases hbefore : s.inFlight.find? (·.number = number) with
    | none => exact absurd hynumber (by simpa using List.find?_eq_none.1 hbefore y hy)
    | some z =>
      have hznumber : z.number = number := by simpa using List.find?_some hbefore
      rw [h.eq_of_number hy (List.mem_of_find?_eq_some hbefore) (hynumber.trans hznumber.symm)]

/-- Every event takes from what an execution may await what it settles, and gives nothing. -/
theorem remainingOf_step (h : Invariant options s) (hattempts : 1 ≤ options.maxAttempts)
    (hstarted : number < s.starts.length) (e : SchedulerEvent) :
    remainingOf options (schedulerStep options s e) number + (settles options s number e).toNat ≤
      remainingOf options s number := by
  -- the four settling events go through one piece of the loop each
  have hsettled : ∀ m piece, (∀ x a, x.Attempted options.maxAttempts → piece x = some a →
        Piece options.maxAttempts x a ∧ a.1.remaining options.maxAttempts < x.remaining options.maxAttempts) →
      remainingOf options (advance s m piece) number +
          (decide (m = number) && ((s.inFlight.find? (·.number = m)).bind piece).isSome).toNat ≤
        remainingOf options s number := by
    intro m piece hpiece
    obtain ⟨hle, hlt⟩ := remainingOf_advance number h (m := m) fun x a hx ha => (hpiece x a hx ha).1
    cases hsettles : decide (m = number) && ((s.inFlight.find? (·.number = m)).bind piece).isSome with
    | false => simpa using hle
    | true =>
      rw [Bool.and_eq_true, decide_eq_true_eq] at hsettles
      exact hlt (fun x a hx ha => (hpiece x a hx ha).2) hsettles.1 hsettles.2
  cases e with
  | submitted job =>
    have hsame : (schedulerStep options s (.submitted job)).inFlight = s.inFlight := by
      simp only [schedulerStep, submit]
      split_ifs <;> rfl
    unfold remainingOf
    rw [hsame]
    exact le_rfl
  | pumped now => exact (remainingOf_pumpTurns h hattempts hstarted now _).le
  | resolved m now => exact hsettled _ _ fun _ _ => onResolved_piece
  | rejected m now => exact hsettled _ _ fun _ _ => onRejected_piece
  | timedOut m => exact (remainingOf_advance number h fun _ _ => onTimeout_piece).1
  | woken m now => exact hsettled _ _ fun _ _ => onWoken_piece
  | sleepCut m now => exact hsettled _ _ fun _ _ => onSleepCut_piece
  | finished m now =>
    simp only [schedulerStep]
    split
    · exact le_rfl
    · rename_i x hfind
      have hfreed := h.freed (List.mem_of_find?_eq_some hfind) (returned_of_find hfind)
      rw [finish_eq]
      split
      · exact (remainingOf_pumpTurns hfreed hattempts hstarted now _).le.trans (remainingOf_freed h x)
      · exact remainingOf_freed h x
  | shutDown => exact le_rfl
  | graceElapsed =>
    simp only [schedulerStep]
    split <;> exact le_rfl

theorem starts_pumpTurns (options : SchedulerOptions) (now : Int) (turns : Nat) (s : Scheduler) :
    s.starts <+: (pumpTurns options now turns s).starts := by
  induction turns generalizing s with
  | zero => exact List.prefix_rfl
  | succ turns ih =>
    unfold pumpTurns
    split
    · exact List.prefix_rfl
    · rename_i s' hstart
      unfold startNext at hstart
      split at hstart
      · obtain ⟨job, -, rfl⟩ := Option.map_eq_some_iff.1 hstart
        refine List.IsPrefix.trans ?_ (ih _)
        exact List.prefix_append _ _
      · cases hstart

/-- Nothing that has started is forgotten. -/
theorem starts_step (options : SchedulerOptions) (s : Scheduler) (e : SchedulerEvent) :
    s.starts <+: (schedulerStep options s e).starts := by
  have hpiece : ∀ number piece, s.starts <+: (advance s number piece).starts := by
    intro number piece
    rw [(advance_frame s number piece).2]
  cases e with
  | submitted job =>
    have hsame : (schedulerStep options s (.submitted job)).starts = s.starts := by
      simp only [schedulerStep, submit]
      split_ifs <;> rfl
    rw [hsame]
  | pumped now => exact starts_pumpTurns options now _ s
  | resolved number now => exact hpiece _ _
  | rejected number now => exact hpiece _ _
  | timedOut number => exact hpiece _ _
  | woken number now => exact hpiece _ _
  | sleepCut number now => exact hpiece _ _
  | finished number now =>
    simp only [schedulerStep]
    split
    · exact List.prefix_rfl
    · rename_i x hfind
      rw [finish_eq]
      split
      · exact starts_pumpTurns options now _ (freed s x)
      · exact List.prefix_rfl
  | shutDown => exact List.prefix_rfl
  | graceElapsed =>
    simp only [schedulerStep]
    split <;> exact List.prefix_rfl

theorem settlements_le (h : Invariant options s) (hattempts : 1 ≤ options.maxAttempts)
    (hstarted : number < s.starts.length) (later : List SchedulerEvent) :
    settlements options number s later ≤ remainingOf options s number := by
  induction later generalizing s with
  | nil => exact Nat.zero_le _
  | cons e later ih =>
    have hstep := remainingOf_step h hattempts hstarted e
    have hrest := ih (h.step hattempts e) (hstarted.trans_le (starts_step options s e).length_le)
    show (settles options s number e).toNat + settlements options number (schedulerStep options s e) later ≤ _
    omega

theorem remainingOf_lt (h : Invariant options s) (hattempts : 1 ≤ options.maxAttempts) :
    remainingOf options s number < 2 * options.maxAttempts := by
  unfold remainingOf
  cases hfind : s.inFlight.find? (·.number = number) with
  | none =>
    show 0 < _
    omega
  | some x =>
    have hattempted := h.attempted x (List.mem_of_find?_eq_some hfind)
    show x.remaining options.maxAttempts < _
    unfold Execution.Attempted at hattempted
    unfold Execution.remaining
    cases hphase : x.phase with
    | running timedOut =>
      rw [hphase] at hattempted
      obtain ⟨hlow, hhigh⟩ := hattempted
      show 2 * (options.maxAttempts - x.attempt) + 1 < _
      omega
    | sleeping =>
      rw [hphase] at hattempted
      obtain ⟨hlow, hhigh⟩ := hattempted
      show 2 * (options.maxAttempts - x.attempt) < _
      omega
    | returned =>
      show 0 < _
      omega

end Settling

/-! ## Safety -/

/-- What the scheduler promises of every state it reaches. -/
structure SchedulerSafe (options : SchedulerOptions) (s : Scheduler) : Prop where
  oneJobPerDeployment : (s.inFlight.map (·.job.deploymentId)).Nodup
  active : s.stats.active = s.inFlight.length
  concurrency : s.stats.active ≤ options.maxConcurrency
  queueBound : s.stats.queued ≤ options.queueLimit
  distinctKeys : (s.queue.map jobKey).Nodup
  reported : ∀ number job, s.starts[number]? = some job → Reported options.maxAttempts s number job

theorem Invariant.safe {options : SchedulerOptions} {s : Scheduler} (h : Invariant options s) : SchedulerSafe options s where
  oneJobPerDeployment := h.lanes.nodup h.lanesNodup
  active := by
    show s.lanes.length = _
    rw [h.lanes.length_eq, List.length_map]
  concurrency := h.concurrency
  queueBound := h.queueBound
  distinctKeys := h.keys.nodup h.keysNodup
  reported := h.reported

/-- The scheduler is safe over every order of its events: each deployment has one active job at most, the jobs and the
queue stay within their limits, no two queued jobs share a key, and each started job has reported nothing while it
awaits a run or a sleep, and one outcome of at most `maxAttempts` attempts from then on. A pump leaves no job that could start,
a shutdown sets it draining, once draining nothing starts, and what a job awaits settles fewer than
`2 * maxAttempts` times. -/
theorem scheduler_safe (options : SchedulerOptions) (hattempts : 1 ≤ options.maxAttempts)
    (history later : List SchedulerEvent) :
    SchedulerSafe options (schedulerAfter options history) ∧
      (∀ now, startNext options now (schedulerAfter options (history ++ [.pumped now])) = none) ∧
      ((schedulerAfter options history).draining = true ↔ .shutDown ∈ history) ∧
      ((schedulerAfter options history).draining = true →
        (schedulerAfter options (history ++ later)).starts = (schedulerAfter options history).starts) ∧
      ∀ number < (schedulerAfter options history).starts.length,
        settlements options number (schedulerAfter options history) later < 2 * options.maxAttempts := by
  have h : Invariant options (schedulerAfter options history) := (Invariant.new options).run hattempts history
  refine ⟨h.safe, fun now => ?_, draining_iff options history, fun hdraining => ?_, fun number hstarted => ?_⟩
  · rw [schedulerAfter_append_singleton]
    exact startNext_pump h hattempts now
  · unfold schedulerAfter at h hdraining ⊢
    rw [List.foldl_append]
    exact run_drained h hattempts hdraining later
  · exact (settlements_le h hattempts hstarted later).trans_lt (remainingOf_lt h hattempts)

/-- Two deployments on one slot, the first of which fails twice while the other waits; after a shutdown the other one is
not started any more. -/
theorem scheduler_safe_sample :
    let options : SchedulerOptions := { maxConcurrency := 1, queueLimit := 2, maxAttempts := 2 }
    let history : List SchedulerEvent :=
      [.submitted ⟨"a", "evaluate"⟩, .submitted ⟨"b", "evaluate"⟩, .pumped 0, .rejected 0 1, .woken 0 2, .timedOut 0,
        .rejected 0 3, .shutDown]
    reports (schedulerAfter options history) 0 =
        [{ job := ⟨"a", "evaluate"⟩, result := .timedOut, attempts := 2, durationMs := 3, reason := some "job timeout" }] ∧
      SchedulerSafe options (schedulerAfter options history) ∧
      (schedulerAfter options (history ++ [.finished 0 3, .submitted ⟨"b", "evaluate"⟩, .pumped 4])).starts =
        [⟨"a", "evaluate"⟩] := by
  intro options history
  obtain ⟨hsafe, -, hdrains, hstarts, -⟩ := scheduler_safe options (by decide) history
    [.finished 0 3, .submitted ⟨"b", "evaluate"⟩, .pumped 4]
  exact ⟨by decide, hsafe, (hstarts (hdrains.2 (by decide))).trans (by decide)⟩

end IcttSentinel.Agent
