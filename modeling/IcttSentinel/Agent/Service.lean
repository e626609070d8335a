/-
The agent over its life, apps/agent/src/daemon.ts: it is hydrated from what was stored, then ticks, drains alerts and
mirrors evidence, and answers its probes meanwhile. "`UNKNOWN` never counts as ready": whatever happened before, an agent
that is ready stands on the last tick that answered, or on the rows it was hydrated from. The store may change between
any two events.
-/
import IcttSentinel.Agent.Tick

namespace IcttSentinel.Agent

open IcttSentinel.Domain IcttSentinel.Lib IcttSentinel.Replay IcttSentinel.Storage

/-! ## The service -/

structure AgentService where
  startedAtMs : Int
  databaseReachable : Bool
  schemaCurrent : Bool
  memory : TickMemory
  health : DeploymentHealth
  alertingDegraded : Bool
  hostedIngestDegraded : Bool

/-- `snapshot`: what the probes are answered from. -/
def AgentService.state (s : AgentService) : AgentState where
  startedAtMs := s.startedAtMs
  databaseReachable := s.databaseReachable
  schemaCurrent := s.schemaCurrent
  deployments := [s.health]
  alertingDegraded := s.alertingDegraded
  hostedIngestDegraded := s.hostedIngestDegraded

section Service

variable {κ : Type} (plan : DeploymentPlan)

def createAgentService (startedAtMs : Int) : AgentService where
  startedAtMs
  databaseReachable := false
  schemaCurrent := false
  memory := .new
  health := { deploymentId := plan.deploymentId, lastSuccessAtMs := none, lastVerdict := none, consecutiveFailures := 0 }
  alertingDegraded := false
  hostedIngestDegraded := false

/-- A stored text that is no verdict counts as `UNKNOWN`. -/
def verdictOf (text : String) : Verdict :=
  if text = "OK" then .ok else if text = "WARN" then .warn else if text = "CRITICAL" then .critical else .unknown

/-- The stored projections of the plan's chains, as far as there are any. -/
def storedRows (db : Db) : List CompletenessRow :=
  plan.chains.filterMap fun chain => storedCompleteness db plan.deploymentId chain.chainKey

def hydratedVerdict (rows : List CompletenessRow) : Verdict :=
  combineVerdicts (rows.map fun row => { verdict := verdictOf row.verdict, requirement := .required })

/-- `Math.min(...successes)`; a plan has one chain at least. -/
def earliestSuccess (rows : List CompletenessRow) : Int := ((rows.map fun row => row.lastSuccessAt.getD 0).min?).getD 0

def hydrate (schemaReady : Bool) (db : Db) (s : AgentService) : AgentService :=
  let s := { s with schemaCurrent := schemaReady, databaseReachable := schemaReady }
  if !schemaReady then s
  else
    let present := storedRows plan db
    if present.length ≠ plan.chains.length then s
    else
      let verdict := hydratedVerdict present
      let last := earliestSuccess present
      { s with
        memory :=
          { previousVerdict := Function.update s.memory.previousVerdict plan.deploymentId (some verdict)
            lastSuccessAt :=
              if last > 0 then Function.update s.memory.lastSuccessAt plan.deploymentId (some last)
              else s.memory.lastSuccessAt }
        health :=
          { s.health with lastSuccessAtMs := if last > 0 then some last else none, lastVerdict := some verdict } }

variable [LinearOrder κ]

/-- `evaluate`: one tick. `selectOne` says whether the database answers once the tick has failed. -/
def evaluate (deps : TickDeps κ) (now : Int) (selectOne : Bool) (s : AgentService) (db : Db) : AgentService × Db :=
  let tick := runDeploymentTick deps plan now s.memory db
  match tick.result with
  | .ok report =>
    ({ s with
        memory := tick.memory
        databaseReachable := true
        schemaCurrent := true
        health :=
          { s.health with
            lastSuccessAtMs := (tick.memory.lastSuccessAt report.deploymentId).or s.health.lastSuccessAtMs
            lastVerdict := some report.verdict
            consecutiveFailures := 0 } }, tick.db)
  | .error _ =>
    ({ s with
        memory := tick.memory
        databaseReachable := selectOne
        health := { s.health with consecutiveFailures := s.health.consecutiveFailures + 1 } }, tick.db)

/-- What happens to an agent: `drain` and `mirror` report on deliveries, and others write to the store. -/
inductive AgentEvent (κ : Type) where
  | evaluate (deps : TickDeps κ) (now : Int) (selectOne : Bool)
  | drain (degraded : Bool)
  | mirror (degraded : Bool)
  | written (db : Db)

structure AgentRun where
  service : AgentService
  db : Db

def agentStep (run : AgentRun) : AgentEvent κ → AgentRun
  | .evaluate deps now selectOne =>
    { service := (evaluate plan deps now selectOne run.service run.db).1
      db := (evaluate plan deps now selectOne run.service run.db).2 }
  | .drain degraded => { run with service := { run.service with alertingDegraded := degraded } }
  | .mirror degraded => { run with service := { run.service with hostedIngestDegraded := degraded } }
  | .written db => { run with db }

def agentAfter (run : AgentRun) (events : List (AgentEvent κ)) : AgentRun := events.foldl (agentStep plan) run

/-- `startAgent`: an agent is hydrated before its first tick. -/
def startAgent (startedAtMs : Int) (schemaReady : Bool) (db : Db) : AgentRun where
  service := hydrate plan schemaReady db (createAgentService plan startedAtMs)
  db

/-! ## The last answer -/

/-- A tick that answered, with what it started from. -/
structure Answer (κ : Type) [LinearOrder κ] (plan : DeploymentPlan) where
  deps : TickDeps κ
  now : Int
  memory : TickMemory
  db : Db
  report : TickReport
  answered : (runDeploymentTick deps plan now memory db).result = .ok report

def tickAnswer (run : AgentRun) : AgentEvent κ → Option (Answer κ plan)
  | .evaluate deps now _ =>
    match h : (runDeploymentTick deps plan now run.service.memory run.db).result with
    | .ok report => some ⟨deps, now, run.service.memory, run.db, report, h⟩
    | .error _ => none
  | _ => none

/-- The last tick of a history that answered. -/
def lastAnswer (run : AgentRun) : List (AgentEvent κ) → Option (Answer κ plan)
  | [] => none
  | event :: events => (lastAnswer (agentStep plan run event) events).or (tickAnswer plan run event)

end Service

/-! ## What an event leaves of the health -/

section Health

variable {κ : Type} [LinearOrder κ] {plan : DeploymentPlan}

theorem evaluate_answered {deps : TickDeps κ} {now : Int} {selectOne : Bool} {s : AgentService} {db : Db}
    {report : TickReport} (h : (runDeploymentTick deps plan now s.memory db).result = .ok report) :
    (evaluate plan deps now selectOne s db).1.health.lastVerdict = some report.verdict ∧
      (evaluate plan deps now selectOne s db).1.health.lastSuccessAtMs =
        ((runDeploymentTick deps plan now s.memory db).memory.lastSuccessAt report.deploymentId).or
          s.health.lastSuccessAtMs := by
  unfold evaluate
  dsimp only
  rw [h]
  exact ⟨rfl, rfl⟩

theorem evaluate_failed {deps : TickDeps κ} {now : Int} {selectOne : Bool} {s : AgentService} {db : Db}
    {failure : TickFailure} (h : (runDeploymentTick deps plan now s.memory db).result = .error failure) :
    (evaluate plan deps now selectOne s db).1.health.lastVerdict = s.health.lastVerdict ∧
      (evaluate plan deps now selectOne s db).1.health.lastSuccessAtMs = s.health.lastSuccessAtMs := by
  unfold evaluate
  dsimp only
  rw [h]
  exact ⟨rfl, rfl⟩

/-- The health of a deployment tells of the given answer. -/
def Tells (health : DeploymentHealth) (answer : Answer κ plan) : Prop :=
  health.lastVerdict = some answer.report.verdict ∧
    (answer.report.verdict = .ok → health.lastSuccessAtMs = some answer.now)

/-- One event: a tick that answers is what the health tells of from then on; everything else leaves verdict and success
as they were. -/
theorem agentStep_health (run : AgentRun) (event : AgentEvent κ) :
    (∀ a, tickAnswer plan run event = some a → Tells (agentStep plan run event).service.health a) ∧
      (tickAnswer plan run event = none →
        (agentStep plan run event).service.health.lastVerdict = run.service.health.lastVerdict ∧
          (agentStep plan run event).service.health.lastSuccessAtMs = run.service.health.lastSuccessAtMs) := by
  cases event with
  | evaluate deps now selectOne =>
    unfold tickAnswer
    dsimp only
    split
    · rename_i report h
      refine ⟨fun a ha => ?_, fun hnone => (by cases hnone)⟩
      obtain rfl := Option.some.inj ha
      obtain ⟨hverdict, hsuccess⟩ := evaluate_answered h
      refine ⟨hverdict, fun hok => hsuccess.trans ?_⟩
      rw [(runDeploymentTick_verdict h).1, (runDeploymentTick_backed h hok).1]
      rfl
    · rename_i failure h
      exact ⟨fun a ha => (by cases ha), fun _ => evaluate_failed h⟩
  | drain degraded => exact ⟨fun a ha => (by cases ha), fun _ => ⟨rfl, rfl⟩⟩
  | mirror degraded => exact ⟨fun a ha => (by cases ha), fun _ => ⟨rfl, rfl⟩⟩
  | written db => exact ⟨fun a ha => (by cases ha), fun _ => ⟨rfl, rfl⟩⟩

/-- A whole history: the health tells of the last answer, or of what there was before any. -/
theorem agentAfter_health (run : AgentRun) (events : List (AgentEvent κ)) :
    (∀ a, lastAnswer plan run events = some a → Tells (agentAfter plan run events).service.health a) ∧
      (lastAnswer plan run events = none →
        (agentAfter plan run events).service.health.lastVerdict = run.service.health.lastVerdict ∧
          (agentAfter plan run events).service.health.lastSuccessAtMs = run.service.health.lastSuccessAtMs) := by
  induction events generalizing run with
  | nil => exact ⟨fun a ha => (by cases ha), fun _ => ⟨rfl, rfl⟩⟩
  | cons event events ih =>
    obtain ⟨hlater, hnone⟩ := ih (agentStep plan run event)
    obtain ⟨htick, hquiet⟩ := agentStep_health run event
    have hafter : agentAfter plan run (event :: events) = agentAfter plan (agentStep plan run event) events := rfl
    rw [hafter]
    unfold lastAnswer
    cases hlast : lastAnswer plan (agentStep plan run event) events with
    | some a =>
      rw [Option.some_or]
      exact ⟨fun b hb => Option.some.inj hb ▸ hlater a hlast, fun h => by cases h⟩
    | none =>
      rw [Option.none_or]
      obtain ⟨hverdict, hsuccess⟩ := hnone hlast
      refine ⟨fun a ha => ?_, fun h => ?_⟩
      · obtain ⟨htold, hat⟩ := htick a ha
        exact ⟨hverdict.trans htold, fun hok => hsuccess.trans (hat hok)⟩
      · obtain ⟨hsame, hsame'⟩ := hquiet h
        exact ⟨hverdict.trans hsame, hsuccess.trans hsame'⟩

end Health

/-! ## Hydration -/

section Hydration

variable {plan : DeploymentPlan} {db : Db}

theorem le_earliestSuccess {rows : List CompletenessRow} (hpos : 0 < earliestSuccess rows) {row : CompletenessRow}
    (hrow : row ∈ rows) : ∃ t, row.lastSuccessAt = some t ∧ earliestSuccess rows ≤ t := by
  have hle : earliestSuccess rows ≤ row.lastSuccessAt.getD 0 := by
    unfold earliestSuccess
    cases hmin : (rows.map fun row => row.lastSuccessAt.getD 0).min? with
    | none =>
      rw [List.min?_eq_none_iff, List.map_eq_nil_iff] at hmin
      rw [hmin] at hrow
      cases hrow
    | some m => exact (List.min?_eq_some_iff.1 hmin).2 _ (List.mem_map_of_mem hrow)
  cases hlast : row.lastSuccessAt with
  | none =>
    rw [hlast] at hle
    exact absurd hle (not_le.2 hpos)
  | some t =>
    rw [hlast] at hle
    exact ⟨t, rfl, hle⟩

/-- An agent that is told of a success by its hydration found a row for every chain, each with a success as late. -/
theorem startAgent_health {startedAtMs last : Int} {schemaReady : Bool}
    (h : (startAgent plan startedAtMs schemaReady db).service.health.lastSuccessAtMs = some last) :
    schemaReady = true ∧
      (startAgent plan startedAtMs schemaReady db).service.health.lastVerdict = some (hydratedVerdict (storedRows plan db)) ∧
      ∀ chain ∈ plan.chains, ∃ row, storedCompleteness db plan.deploymentId chain.chainKey = some row ∧
        ∃ t, row.lastSuccessAt = some t ∧ last ≤ t := by
  unfold startAgent hydrate at h ⊢
  dsimp only at h ⊢
  cases schemaReady with
  | false => cases h
  | true =>
    simp only [Bool.not_true, Bool.false_eq_true, if_false] at h ⊢
    split at h
    · cases h
    · rename_i hlength
      rw [if_neg hlength]
      dsimp only at h ⊢
      split at h
      · rename_i hpos
        obtain rfl := Option.some.inj h
        refine ⟨trivial, rfl, fun chain hchain => ?_⟩
        rw [ne_eq, not_not] at hlength
        obtain ⟨row, hrow⟩ := Option.isSome_iff_exists.1 (List.filterMap_length_eq_length.1 hlength chain hchain)
        exact ⟨row, hrow, le_earliestSuccess hpos (List.mem_filterMap.2 ⟨chain, hchain, hrow⟩)⟩
      · cases h

end Hydration

/-! ## Readiness -/

/-- "`UNKNOWN` never counts as ready", over every history of ticks that answer or fail anywhere, of drains, mirrors and
writes of others: an agent that is ready stands on its last answer, which is an `OK` within the age with every lane
backed; or no tick has answered yet, and it was hydrated from rows of every chain whose verdict is not `UNKNOWN` and whose
successes are no older. -/
theorem ready_backed {κ : Type} [LinearOrder κ] (plan : DeploymentPlan) (startedAtMs : Int) (schemaReady : Bool) (db : Db)
    (events : List (AgentEvent κ)) (nowMs : Int) (maxEvaluationAgeSeconds : Nat)
    (h : (evaluateHealth (agentAfter plan (startAgent plan startedAtMs schemaReady db) events).service.state nowMs
      maxEvaluationAgeSeconds).ready = true) :
    (∃ a, lastAnswer plan (startAgent plan startedAtMs schemaReady db) events = some a ∧ a.report.verdict = .ok ∧
        WithinAge maxEvaluationAgeSeconds a.now nowMs ∧ TickBacked a.deps plan a.now) ∨
      (lastAnswer plan (startAgent plan startedAtMs schemaReady db) events = none ∧ schemaReady = true ∧
        hydratedVerdict (storedRows plan db) ≠ .unknown ∧
        ∃ last, WithinAge maxEvaluationAgeSeconds last nowMs ∧ ∀ chain ∈ plan.chains,
          ∃ row, storedCompleteness db plan.deploymentId chain.chainKey = some row ∧
            ∃ t, row.lastSuccessAt = some t ∧ last ≤ t) := by
  obtain ⟨-, -, -, hestablished⟩ := evaluateHealth_ready.1 h
  obtain ⟨⟨last, hlast, hwithin⟩, hknown⟩ := hestablished _ (List.mem_singleton.2 rfl)
  obtain ⟨htells, hbefore⟩ := agentAfter_health (startAgent plan startedAtMs schemaReady db) events
  cases hanswer : lastAnswer plan (startAgent plan startedAtMs schemaReady db) events with
  | some a =>
    obtain ⟨hverdict, hsuccess⟩ := htells a hanswer
    have hok : a.report.verdict = .ok := by
      have hstands := (runDeploymentTick_verdict a.answered).2.2
      split at hstands
      · exact hstands
      · exact absurd (hverdict.trans (congrArg some hstands)) hknown
    refine Or.inl ⟨a, rfl, hok, ?_, (runDeploymentTick_backed a.answered hok).2⟩
    rwa [Option.some.inj (hlast.symm.trans (hsuccess hok))] at hwithin
  | none =>
    obtain ⟨hverdict, hsuccess⟩ := hbefore hanswer
    obtain ⟨hready, htold, hrows⟩ := startAgent_health (hsuccess.symm.trans hlast)
    exact Or.inr ⟨rfl, hready, fun hunknown => hknown (hverdict.trans (htold.trans (congrArg some hunknown))), last, hwithin,
      hrows⟩

/-- The sample agent is ready a minute after the tick that answered, whatever became of the alerts. -/
theorem ready_backed_sample :
    let start := startAgent samplePlan 0 true sampleDb
    let events : List (AgentEvent (List Nat)) := [.evaluate sampleDeps 7 true, .drain true]
    ∃ a, lastAnswer samplePlan start events = some a ∧ a.report.verdict = .ok ∧ WithinAge 60 a.now 60007 ∧
      TickBacked a.deps samplePlan a.now := by
  have hready : (evaluateHealth (agentAfter samplePlan (startAgent samplePlan 0 true sampleDb)
      [.evaluate sampleDeps 7 true, .drain true]).service.state 60007 60).ready = true := by decide +kernel
  rcases ready_backed samplePlan 0 true sampleDb [.evaluate sampleDeps 7 true, .drain true] 60007 60 hready with
    hanswered | ⟨-, -, hhydrated, -⟩
  · exact hanswered
  · exact absurd (by decide) hhydrated

end IcttSentinel.Agent
