/-
The work scheduler of apps/agent/src/scheduler.ts. The event loop runs one piece of code at a time, from one `await`
to the next, and each of these pieces is an event here: a submission, a pump, an awaited run or sleep that settles, a
timer that fires, the `finally` of an execution and the shutdown. Time, sleeping and the run itself are injected, so
what they do is what the events say. A callback for outcomes that throws is outside of the model.
-/
import Mathlib.Tactic

namespace IcttSentinel.Agent

/-! ## Jobs -/

structure Job where
  deploymentId : String
  kind : String
  deriving DecidableEq, Repr

inductive JobResult where
  | succeeded
  | failed
  | timedOut
  | abandoned
  | cancelled
  deriving DecidableEq, Repr

structure JobOutcome where
  job : Job
  result : JobResult
  attempts : Nat
  durationMs : Int
  reason : Option String
  deriving DecidableEq, Repr

inductive SubmitResult where
  | queued
  | duplicate
  | rejectedBackpressure
  | rejectedDraining
  deriving DecidableEq, Repr

/-- `SchedulerOptions`, less what is injected. -/
structure SchedulerOptions where
  maxConcurrency : Nat
  queueLimit : Nat
  maxAttempts : Nat
  deriving DecidableEq, Repr

def jobKey (job : Job) : String := job.deploymentId ++ " " ++ job.kind

/-! ## Executions -/

/-- Where an `#execute` stands: it awaits the run, whose timer may have fired, or the sleep before the next attempt, or
it has returned and its `finally` is still to come. -/
inductive Phase where
  | running (timedOut : Bool)
  | sleeping
  | returned
  deriving DecidableEq, Repr

/-- One `#execute`, numbered in the order of their starts. -/
structure Execution where
  number : Nat
  job : Job
  started : Int
  attempt : Nat
  lastReason : Option String
  phase : Phase
  deriving DecidableEq, Repr

/-- What a piece of an `#execute` leaves: the execution, and the outcome it reports. -/
abbrev Advance := Execution × Option JobOutcome

/-- `#report`, and the return that follows it. -/
def Execution.report (x : Execution) (result : JobResult) (now : Int) (reason : Option String) : Advance :=
  ({ x with phase := .returned },
    some { job := x.job, result, attempts := x.attempt, durationMs := now - x.started, reason })

/-- The head of the loop, down to the run it awaits. -/
def Execution.loop (maxAttempts : Nat) (aborted : Bool) (now : Int) (x : Execution) : Advance :=
  if x.attempt ≤ maxAttempts then
    if aborted then x.report .cancelled now x.lastReason
    else ({ x with phase := .running false }, none)
  else ({ x with phase := .returned }, none)

/-- The run resolves. -/
def Execution.onResolved (now : Int) (x : Execution) : Option Advance :=
  match x.phase with
  | .running _ => some (x.report .succeeded now none)
  | _ => none

/-- The run rejects. -/
def Execution.onRejected (maxAttempts : Nat) (aborted : Bool) (now : Int) (x : Execution) : Option Advance :=
  match x.phase with
  | .running timedOut =>
    if (aborted || timedOut) && !timedOut then some (x.report .cancelled now x.lastReason)
    else
      let lastReason := some (if timedOut then "job timeout" else "job failed")
      if x.attempt = maxAttempts then some (x.report (if timedOut then .timedOut else .abandoned) now lastReason)
      else some ({ x with phase := .sleeping, lastReason }, none)
  | _ => none

/-- The timer of the attempt fires; the abort of the shutdown clears it. -/
def Execution.onTimeout (aborted : Bool) (x : Execution) : Option Advance :=
  match x.phase with
  | .running false => if aborted then none else some ({ x with phase := .running true }, none)
  | _ => none

/-- The sleep resolves, and the loop goes on. -/
def Execution.onWoken (maxAttempts : Nat) (aborted : Bool) (now : Int) (x : Execution) : Option Advance :=
  match x.phase with
  | .sleeping => some (Execution.loop maxAttempts aborted now { x with attempt := x.attempt + 1 })
  | _ => none

/-- The sleep rejects. -/
def Execution.onSleepCut (now : Int) (x : Execution) : Option Advance :=
  match x.phase with
  | .sleeping => some (x.report .cancelled now x.lastReason)
  | _ => none

/-! ## The scheduler -/

/-- `Scheduler`: its fields, the jobs it has started so far and the outcomes it has reported, each under the number of
its execution. -/
structure Scheduler where
  queue : List Job
  lanes : List String
  queuedKeys : List String
  inFlight : List Execution
  aborted : Bool
  draining : Bool
  rejected : Nat
  deduplicated : Nat
  starts : List Job
  outcomes : List (Nat × JobOutcome)
  deriving DecidableEq, Repr

def Scheduler.new : Scheduler where
  queue := []
  lanes := []
  queuedKeys := []
  inFlight := []
  aborted := false
  draining := false
  rejected := 0
  deduplicated := 0
  starts := []
  outcomes := []

structure SchedulerStats where
  queued : Nat
  active : Nat
  draining : Bool
  rejectedForBackpressure : Nat
  deduplicated : Nat
  deriving DecidableEq, Repr

def Scheduler.stats (s : Scheduler) : SchedulerStats where
  queued := s.queue.length
  active := s.lanes.length
  draining := s.draining
  rejectedForBackpressure := s.rejected
  deduplicated := s.deduplicated

section Steps

variable (options : SchedulerOptions)

/-- `submit`: refused while draining, a duplicate of work that is pending or running, or refused by a full queue. -/
def submit (s : Scheduler) (job : Job) : SubmitResult × Scheduler :=
  if s.draining then (.rejectedDraining, s)
  else if s.queuedKeys.contains (jobKey job) || s.lanes.contains job.deploymentId then
    (.duplicate, { s with deduplicated := s.deduplicated + 1 })
  else if s.queue.length ≥ options.queueLimit then (.rejectedBackpressure, { s with rejected := s.rejected + 1 })
  else (.queued, { s with queue := s.queue ++ [job], queuedKeys := s.queuedKeys ++ [jobKey job] })

/-- No execution holds the lane of the job. -/
def Scheduler.free (s : Scheduler) (job : Job) : Bool := !s.lanes.contains job.deploymentId

/-- One turn of the loop of `pump`: the first job of the queue whose lane is free is started. -/
def startNext (now : Int) (s : Scheduler) : Option Scheduler :=
  if s.lanes.length < options.maxConcurrency then
    (s.queue.find? s.free).map fun job =>
      let x := Execution.loop options.maxAttempts s.aborted now
        { number := s.starts.length, job, started := now, attempt := 1, lastReason := none, phase := .sleeping }
      { s with
        queue := s.queue.eraseP s.free
        queuedKeys := s.queuedKeys.erase (jobKey job)
        lanes := s.lanes ++ [job.deploymentId]
        inFlight := s.inFlight ++ [x.1]
        starts := s.starts ++ [job]
        outcomes := s.outcomes ++ x.2.toList.map (s.starts.length, ·) }
  else none

/-- Turns of the loop, as many as there are jobs at most: each takes one from the queue. -/
def pumpTurns (now : Int) : Nat → Scheduler → Scheduler
  | 0, s => s
  | turns + 1, s => match startNext options now s with
    | none => s
    | some s' => pumpTurns now turns s'

def pump (now : Int) (s : Scheduler) : Scheduler := pumpTurns options now s.queue.length s

/-- An execution goes on. -/
def advance (s : Scheduler) (number : Nat) (piece : Execution → Option Advance) : Scheduler :=
  match (s.inFlight.find? (·.number = number)).bind piece with
  | none => s
  | some (x, outcome) =>
    { s with
      inFlight := s.inFlight.map fun y => if y.number = number then x else y
      outcomes := s.outcomes ++ outcome.toList.map (number, ·) }

/-- The `finally` of an execution: its lane is free again, and the next jobs are started. -/
def finish (now : Int) (s : Scheduler) (x : Execution) : Scheduler :=
  let s : Scheduler :=
    { s with
      lanes := s.lanes.erase x.job.deploymentId
      inFlight := s.inFlight.filter (·.number ≠ x.number) }
  if !s.draining then pump options now s else s

/-- The synchronous part of `shutdown`. -/
def shutdown (s : Scheduler) : Scheduler := { s with draining := true, queue := [], queuedKeys := [] }

/-- One piece of code that the event loop runs. -/
inductive SchedulerEvent where
  | submitted (job : Job)
  | pumped (now : Int)
  | resolved (number : Nat) (now : Int)
  | rejected (number : Nat) (now : Int)
  | timedOut (number : Nat)
  | woken (number : Nat) (now : Int)
  | sleepCut (number : Nat) (now : Int)
  | finished (number : Nat) (now : Int)
  | shutDown
  | graceElapsed
  deriving DecidableEq, Repr

/-- What an event does; one that cannot happen does nothing. -/
def schedulerStep (s : Scheduler) : SchedulerEvent → Scheduler
  | .submitted job => (submit options s job).2
  | .pumped now => pump options now s
  | .resolved number now => advance s number (Execution.onResolved now)
  | .rejected number now => advance s number (Execution.onRejected options.maxAttempts s.aborted now)
  | .timedOut number => advance s number (Execution.onTimeout s.aborted)
  | .woken number now => advance s number (Execution.onWoken options.maxAttempts s.aborted now)
  | .sleepCut number now => advance s number (Execution.onSleepCut now)
  | .finished number now =>
    match s.inFlight.find? fun x => x.number = number && x.phase = .returned with
    | none => s
    | some x => finish options now s x
  | .shutDown => shutdown s
  | .graceElapsed => if s.draining then { s with aborted := true } else s

/-- The scheduler after a history, from its construction on. -/
def schedulerAfter (history : List SchedulerEvent) : Scheduler := history.foldl (schedulerStep options) .new

end Steps

end IcttSentinel.Agent
