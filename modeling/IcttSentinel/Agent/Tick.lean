/-
One watch tick of a deployment, apps/agent/src/runtime.ts: every chain is replayed, the verdicts are combined, age is
applied last, and the evaluation is recorded before it is alerted on. What a tick answers comes down to two cases, and
an `OK` to replays that each covered their window.
The log source, the hints, the abort signal and the two writes of an evaluation are given to the tick, chain by chain.
-/
import IcttSentinel.Agent.Freshness
import IcttSentinel.Agent.Plan
import IcttSentinel.Alerts.Raise
import IcttSentinel.Domain.Finality
import IcttSentinel.Replay.Soundness

namespace IcttSentinel.Agent

open IcttSentinel.Alerts IcttSentinel.Domain IcttSentinel.Lib IcttSentinel.Replay IcttSentinel.Storage

/-! ## The evaluation -/

structure ChainReport where
  chainKey : String
  report : ReplayReport
  deriving DecidableEq, Repr

/-- The text of a status in the store and in digests. -/
def statusText : ReplayStatus → String
  | .pending => "pending"
  | .complete => "complete"
  | .gap => "gap"
  | .stale => "stale"
  | .divergent => "divergent"
  | .blocked => "blocked"

structure EvaluationObservation where
  deploymentId : String
  verdict : Verdict
  rawVerdict : Verdict
  stale : Bool
  reportable : Bool
  ageSeconds : Int
  reasons : List String
  reasonCodes : List String
  chains : List ChainReport
  observationDigest : String
  deriving DecidableEq, Repr

structure TickReport extends EvaluationObservation where
  evaluationId : Option String
  alerted : Bool

def acceptedStateSupersededReason : String := "ACCEPTED_STATE_SUPERSEDED"

/-- The lanes whose finality basis does not stand at the tick's clock. -/
def supersededLanes (plan : DeploymentPlan) (now : Int) : List String :=
  (plan.chains.filter fun chain =>
    !finalityBasisStands chain.finality.text ⟨chain.evmChainId, chain.blockchainId⟩ (now / 1000)).map (·.chainKey)

/-- One line of the digest: what a chain came back with. -/
def observationPart (chain : ChainReport) : String :=
  chain.chainKey ++ ":" ++ (chain.report.checkpointAfter.map toString).getD "none" ++ ":" ++
    statusText chain.report.status ++ ":" ++ ",".intercalate (sortStrings (chain.report.reasons.map (·.text)))

section Evaluation

variable {κ : Type} [LinearOrder κ] (collate : String → κ) (sha256 : String → String)

def observationText (deploymentId : String) (chains : List ChainReport) : String :=
  "|".intercalate (deploymentId :: (sortOn (fun c => collate c.chainKey) chains).map observationPart)

def observationDigest (deploymentId : String) (chains : List ChainReport) : String :=
  digest sha256 "ictt-sentinel/observation/v1" (observationText collate deploymentId chains)

/-- The verdicts of the chains, and one more `UNKNOWN` for every superseded lane. -/
def tickJudgements (plan : DeploymentPlan) (now : Int) (chains : List ChainReport) : List Judgement :=
  chains.map (fun c => { verdict := c.report.verdict, requirement := .required }) ++
    (supersededLanes plan now).map fun _ => { verdict := .unknown, requirement := .required }

def tickReasons (plan : DeploymentPlan) (now : Int) (chains : List ChainReport) : List String :=
  sortStrings (chains.flatMap (fun c => c.report.reasons.map (·.text)) ++
    if (supersededLanes plan now).length > 0 then [acceptedStateSupersededReason] else []).eraseDups

/-- `complete`: the tick counts as a success. -/
def isComplete (chains : List ChainReport) : Bool :=
  decide (chains.length > 0) && chains.all fun c => c.report.status = .complete

/-- What a tick remembers of the ones before it; each map is keyed by deployment. -/
structure TickMemory where
  previousVerdict : String → Option Verdict
  lastSuccessAt : String → Option Int

def TickMemory.new : TickMemory where
  previousVerdict _ := none
  lastSuccessAt _ := none

/-- `lastSuccessAt` once the chains have been replayed. -/
def rememberSuccess (plan : DeploymentPlan) (now : Int) (chains : List ChainReport) (memory : TickMemory) : TickMemory :=
  if isComplete chains then
    { memory with lastSuccessAt := Function.update memory.lastSuccessAt plan.deploymentId (some now) }
  else memory

def DeploymentPlan.freshness (plan : DeploymentPlan) : FreshnessPolicy where
  maxAgeSeconds := plan.maxAgeSeconds
  expiresAfterSeconds := plan.expiresAfterSeconds

/-- The evaluation of a tick: the verdicts combined, then aged from the last success on. -/
def evaluateTick (plan : DeploymentPlan) (now : Int) (memory : TickMemory) (chains : List ChainReport) :
    EvaluationObservation :=
  let rawVerdict := combineVerdicts (tickJudgements plan now chains)
  let observedAtMs := (memory.lastSuccessAt plan.deploymentId).getD 0
  let fresh := applyFreshness rawVerdict observedAtMs now plan.freshness
  { deploymentId := plan.deploymentId
    verdict := fresh.verdict
    rawVerdict
    stale := fresh.stale
    reportable := fresh.reportable
    ageSeconds := fresh.ageSeconds
    reasons := tickReasons plan now chains
    reasonCodes := tickReasons plan now chains ++ fresh.reasonCodes
    chains
    observationDigest := observationDigest collate sha256 plan.deploymentId chains }

end Evaluation

/-! ## The tick -/

inductive TickFailure where
  | aborted
  | hints (message : String)
  | replay (failure : ReplayFailure)
  | recordEvaluation (message : String)
  | raiseAlert (message : String)

/-- What a tick is given; the arguments of type `Nat` are positions in the plan. -/
structure TickDeps (κ : Type) where
  collate : String → κ
  sha256 : String → String
  toISOString : Int → String
  source : Nat → LogSourcePort
  aborted : Nat → Bool
  readHints : Nat → Except String (List PriorityHint)
  markHintsConsumed : Nat → Except String Unit
  recordEvaluation : EvaluationObservation → Except String (Option String)
  raiseAlert : AlertSignal → Except String Bool
  evidenceSchemaVersion : String

/-- How a tick ends: the store and the memory it leaves, and its report. -/
structure TickEnd where
  db : Db
  memory : TickMemory
  result : Except TickFailure TickReport

section Tick

variable {κ : Type} (deps : TickDeps κ) (plan : DeploymentPlan) (now : Int)

/-- One chain: its pending hints are read, its history is replayed, and the hints have done their job. -/
def replayChain (i : Nat) (chain : ChainPlan) : Awaits StoreCall Db TickFailure ChainReport := do
  if deps.aborted i then Awaits.throw .aborted
  else
    let hints ← .ofExcept ((deps.readHints i).mapError .hints)
    let report ← .mapError .replay (runReplay deps.sha256 (deps.source i) chain.config now hints)
    .ofExcept ((if hints.length > 0 then deps.markHintsConsumed i else .ok ()).mapError .hints)
    return { chainKey := chain.chainKey, report }

/-- The chains of the plan, in their order, from the given position on. -/
def replayChains : Nat → List ChainPlan → Awaits StoreCall Db TickFailure (List ChainReport)
  | _, [] => return []
  | i, chain :: chains => do
    let report ← replayChain deps now i chain
    let reports ← replayChains (i + 1) chains
    return report :: reports

variable [LinearOrder κ]

/-- The signal a tick raises. -/
def signalOf (memory : TickMemory) (evaluation : EvaluationObservation) (evaluationId : Option String) : AlertSignal :=
  tickSignal (memory.previousVerdict plan.deploymentId) deps.evidenceSchemaVersion
    { deploymentId := plan.deploymentId
      evaluationId
      reasons := evaluation.reasons
      reasonCodes := evaluation.reasonCodes
      verdict := evaluation.verdict
      stale := evaluation.stale
      observationDigest := evaluation.observationDigest
      observedAt := deps.toISOString ((memory.lastSuccessAt plan.deploymentId).getD 0)
      expiresAt := deps.toISOString (now + plan.expiresAfterSeconds * 1000) }

/-- What follows the replays: the evaluation is recorded, then raised, then remembered. -/
def concludeTick (memory : TickMemory) (chains : List ChainReport) : TickMemory × Except TickFailure TickReport :=
  let memory := rememberSuccess plan now chains memory
  let evaluation := evaluateTick deps.collate deps.sha256 plan now memory chains
  match deps.recordEvaluation evaluation with
  | .error message => (memory, .error (.recordEvaluation message))
  | .ok evaluationId =>
    match deps.raiseAlert (signalOf deps plan now memory evaluation evaluationId) with
    | .error message => (memory, .error (.raiseAlert message))
    | .ok alerted =>
      ({ memory with
          previousVerdict := Function.update memory.previousVerdict plan.deploymentId (some evaluation.verdict) },
        .ok { evaluation with evaluationId, alerted })

def runDeploymentTick (memory : TickMemory) (db : Db) : TickEnd :=
  match (replayChains deps now 0 plan.chains db).result with
  | .error failure => { db := (replayChains deps now 0 plan.chains db).state, memory, result := .error failure }
  | .ok chains =>
    { db := (replayChains deps now 0 plan.chains db).state
      memory := (concludeTick deps plan now memory chains).1
      result := (concludeTick deps plan now memory chains).2 }

end Tick

/-! ## What a replay hands to its tick -/

section Replays

variable {sha256 : String → String} {port : LogSourcePort} {config : ReplayConfig} {now : Int} {hints : List PriorityHint}
  {db : Db}

/-- A report is `OK` when its window is complete, and `UNKNOWN` when it is not. -/
def Assessed (report : ReplayReport) : Prop := report.verdict = if report.status = .complete then .ok else .unknown

theorem assessCompleteness_assessed (input : CompletenessInput) :
    (assessCompleteness input).verdict = if (assessCompleteness input).status = .complete then .ok else .unknown := by
  unfold assessCompleteness
  dsimp only
  split
  · rfl
  split
  · rfl
  split
  · rfl
  split
  · rfl
  · split <;> rfl

/-- The replay of a lane covered its window up to the agreed head with ranges that a quorum answered, left nothing
outstanding, and its last success is within its time to live. -/
structure LaneBacked (sha256 : String → String) (port : LogSourcePort) (config : ReplayConfig) (now : Int)
    (report : ReplayReport) (run : Ended StoreCall Db ReplayFailure ReplayReport) : Prop where
  head : port.agreedAcceptedHead config.chainKey = .ok report.acceptedHead
  covered : ∀ b, config.startBlock ≤ b → b ≤ report.acceptedHead → Covered (laneRanges config run.state) b
  committed : ∀ x ∈ run.trail, CommittedByQuorum sha256 port config x
  settled : ∀ reason ∈ report.reasons, reason.isBlocking = false ∧ reason ≠ .providerDivergence
  fresh : ∃ row t, storedCompleteness run.state config.deploymentId config.chainKey = some row ∧
    row.lastSuccessAt = some t ∧ now - t ≤ config.freshnessTtlMs

/-- Whatever the store, the source and the hints: the report of a run is assessed, and an `OK` one is backed. -/
theorem runReplay_report {report : ReplayReport} (h : (runReplay sha256 port config now hints db).result = .ok report) :
    Assessed report ∧
      (report.verdict = .ok → LaneBacked sha256 port config now report (runReplay sha256 port config now hints db)) := by
  have hread : ∀ x : Awaited StoreCall Db, x.op ≠ .ingestTransaction → CommittedByQuorum sha256 port config x :=
    fun x hop => committedByQuorum_of_ne fun heq => absurd heq hop
  have hassessed : ∀ head checkpointBefore pass db', (conclude config now head checkpointBefore pass db').Meets
      (fun _ => True) (fun report _ => Assessed report) fun _ _ => True := fun head checkpointBefore pass db' =>
    meets_conclude trivial (fun _ _ _ _ => ⟨trivial, trivial⟩) fun committed row db'' _ _ _ =>
      ⟨trivial, trivial, assessCompleteness_assessed _⟩
  have hrun : (runReplay sha256 port config now hints db).Meets (CommittedByQuorum sha256 port config)
      (fun report db' => Assessed report ∧ port.agreedAcceptedHead config.chainKey = .ok report.acceptedHead ∧
        ∃ pass, report.verdict = .ok → Backed config now pass report db') fun _ _ => True := by
    refine meets_runReplay (fun op hop => hread _ hop) (fun _ _ => trivial) (fun _ _ _ _ => trivial) ?_
    intro head planned hhead _
    unfold serveQueue
    refine Awaits.meets_bind (Awaits.meets_loop (I := fun p _ => PassSound sha256 port config now (laneSuccess config db) p)
      (fun pass db h => serveNext_sound db h) (PassSound.initial _ _)) fun pass s' _ => ?_
    refine ((conclude_backed hread).and (hassessed head _ pass s')).mono (fun _ hx => hx.1) ?_ fun _ _ _ => trivial
    rintro report db' ⟨⟨hacceptedHead, -, -, hbacked⟩, hverdict⟩
    exact ⟨hverdict, by rw [hacceptedHead]; exact hhead, pass, hbacked⟩
  obtain ⟨hverdict, hhead, pass, hbacked⟩ := hrun.ok report h
  refine ⟨hverdict, fun hok => ?_⟩
  obtain ⟨hcovered, hsettled, hreasons, ⟨t, ht, hfresh⟩, row, hrow, hlast⟩ := hbacked hok
  exact ⟨hhead, hcovered, hrun.trail, fun reason hr => hsettled reason (hreasons ▸ hr), row, t, hrow, hlast.trans ht, hfresh⟩

theorem Assessed.ok_iff {report : ReplayReport} (h : Assessed report) : report.verdict = .ok ↔ report.status = .complete := by
  unfold Assessed at h
  rw [h]
  split
  · rename_i hcomplete
    exact iff_of_true rfl hcomplete
  · rename_i hcomplete
    exact iff_of_false (by decide) hcomplete

theorem Assessed.le_unknown {report : ReplayReport} (h : Assessed report) : report.verdict ≤ .unknown := by
  unfold Assessed at h
  rw [h]
  split <;> decide

end Replays

/-! ## The chains of a tick -/

section Chains

variable {κ : Type} {deps : TickDeps κ} {now : Int}

/-- The reports of a tick are those of the replays of its chains, one for each, in the order of the plan. -/
inductive Replayed (deps : TickDeps κ) (now : Int) : Nat → List ChainPlan → List ChainReport → Prop where
  | nil (i : Nat) : Replayed deps now i [] []
  | cons {i : Nat} {chain : ChainPlan} {chains : List ChainPlan} {report : ReplayReport} {reports : List ChainReport}
      (hints : List PriorityHint) (before : Db)
      (replayed : (runReplay deps.sha256 (deps.source i) chain.config now hints before).result = .ok report)
      (rest : Replayed deps now (i + 1) chains reports) :
      Replayed deps now i (chain :: chains) ({ chainKey := chain.chainKey, report } :: reports)

theorem meets_replayChain {i : Nat} {chain : ChainPlan} {db : Db} :
    (replayChain deps now i chain db).Meets (fun _ => True)
      (fun c _ => c.chainKey = chain.chainKey ∧ ∃ hints before,
        (runReplay deps.sha256 (deps.source i) chain.config now hints before).result = .ok c.report)
      fun _ _ => True := by
  unfold replayChain
  split
  · exact Awaits.meets_throw trivial
  · refine Awaits.meets_bind (Q := fun _ _ => True) (Awaits.meets_ofExcept (fun _ _ => trivial) fun _ _ => trivial)
      fun hints before _ => ?_
    refine Awaits.meets_bind (Q := fun report _ =>
      (runReplay deps.sha256 (deps.source i) chain.config now hints before).result = .ok report)
      (Awaits.meets_mapError ⟨fun _ _ => trivial, fun report h => h, fun _ _ => trivial⟩) fun report s hreport => ?_
    refine Awaits.meets_bind (Q := fun _ _ => True) (Awaits.meets_ofExcept (fun _ _ => trivial) fun _ _ => trivial)
      fun _ _ _ => ?_
    exact Awaits.meets_pure ⟨rfl, hints, before, hreport⟩

theorem meets_replayChains (deps : TickDeps κ) (now : Int) (i : Nat) (chains : List ChainPlan) (db : Db) :
    (replayChains deps now i chains db).Meets (fun _ => True) (fun reports _ => Replayed deps now i chains reports)
      fun _ _ => True := by
  induction chains generalizing i db with
  | nil => exact Awaits.meets_pure (.nil i)
  | cons chain chains ih =>
    unfold replayChains
    refine Awaits.meets_bind meets_replayChain fun c s hc => ?_
    obtain ⟨hkey, hints, before, hreport⟩ := hc
    refine Awaits.meets_bind (ih (i + 1) s) fun reports s' hreports => ?_
    refine Awaits.meets_pure ?_
    obtain ⟨chainKey, report⟩ := c
    dsimp only at hkey hreport
    subst hkey
    exact .cons hints before hreport hreports

/-- Every chain of the plan stands behind one report, its own. -/
theorem Replayed.at {i : Nat} {chains : List ChainPlan} {reports : List ChainReport} (h : Replayed deps now i chains reports) :
    reports.length = chains.length ∧ ∀ (j : Nat) (chain : ChainPlan) (c : ChainReport), chains[j]? = some chain →
      reports[j]? = some c → c.chainKey = chain.chainKey ∧ ∃ hints before,
        (runReplay deps.sha256 (deps.source (i + j)) chain.config now hints before).result = .ok c.report := by
  induction h with
  | nil i => exact ⟨rfl, fun j chain c hchain => by simp at hchain⟩
  | cons hints before replayed rest ih =>
    refine ⟨by simp [ih.1], fun j chain c hchain hc => ?_⟩
    cases j with
    | zero =>
      simp only [List.getElem?_cons_zero, Option.some.injEq] at hchain hc
      subst hchain hc
      exact ⟨rfl, hints, before, replayed⟩
    | succ j =>
      rw [List.getElem?_cons_succ] at hchain hc
      have hrest := ih.2 j chain c hchain hc
      rwa [Nat.add_right_comm, Nat.add_assoc] at hrest

theorem Replayed.assessed {i : Nat} {chains : List ChainPlan} {reports : List ChainReport}
    (h : Replayed deps now i chains reports) : ∀ c ∈ reports, Assessed c.report := by
  induction h with
  | nil i => simp
  | cons hints before replayed rest ih =>
    intro c hc
    rcases List.mem_cons.1 hc with rfl | hc
    · exact (runReplay_report replayed).1
    · exact ih c hc

end Chains

/-! ## What a tick answers -/

section Answers

variable {κ : Type} [LinearOrder κ] {collate : String → κ} {sha256 : String → String} {plan : DeploymentPlan} {now : Int}
  {memory : TickMemory} {chains : List ChainReport}

/-- Every chain came back complete, and every lane rests on a finality basis that stands. -/
def Stands (plan : DeploymentPlan) (now : Int) (chains : List ChainReport) : Prop :=
  isComplete chains = true ∧ supersededLanes plan now = []

instance (plan : DeploymentPlan) (now : Int) (chains : List ChainReport) : Decidable (Stands plan now chains) :=
  inferInstanceAs (Decidable (_ ∧ _))

theorem isComplete_iff : isComplete chains = true ↔ chains ≠ [] ∧ ∀ c ∈ chains, c.report.status = .complete := by
  simp [isComplete, List.length_pos_iff]

theorem countsAs_required (v : Verdict) : Judgement.countsAs { verdict := v, requirement := .required } = v := by
  simp [Judgement.countsAs]

theorem map_countsAs_tickJudgements : (tickJudgements plan now chains).map Judgement.countsAs =
    chains.map (·.report.verdict) ++ (supersededLanes plan now).map fun _ => .unknown := by
  simp only [tickJudgements, List.map_append, List.map_map]
  congr 1
  exact List.map_congr_left fun c _ => countsAs_required _

/-- Assessed chains combine to `OK` when the tick stands, and to `UNKNOWN` when it does not. -/
theorem combineVerdicts_tick (plan : DeploymentPlan) (now : Int) (hassessed : ∀ c ∈ chains, Assessed c.report) :
    combineVerdicts (tickJudgements plan now chains) = if Stands plan now chains then .ok else .unknown := by
  by_cases hnil : tickJudgements plan now chains = []
  · have hchains : chains = [] := by simpa using (List.append_eq_nil_iff.1 hnil).1
    rw [hnil, if_neg fun h => (isComplete_iff.1 h.1).1 hchains]
    rfl
  rw [combineVerdicts_eq hnil, map_countsAs_tickJudgements]
  by_cases h : Stands plan now chains
  · obtain ⟨hcomplete, hlanes⟩ := h
    rw [if_pos ⟨hcomplete, hlanes⟩, hlanes, List.map_nil, List.append_nil]
    refine le_antisymm (worst_le_iff.2 fun v hv => ?_) (Verdict.ok_le _)
    obtain ⟨c, hc, rfl⟩ := List.mem_map.1 hv
    exact le_of_eq ((hassessed c hc).ok_iff.2 ((isComplete_iff.1 hcomplete).2 c hc))
  · rw [if_neg h]
    refine le_antisymm (worst_le_iff.2 fun v hv => ?_) ?_
    · rcases List.mem_append.1 hv with hv | hv
      · obtain ⟨c, hc, rfl⟩ := List.mem_map.1 hv
        exact (hassessed c hc).le_unknown
      · obtain ⟨lane, -, rfl⟩ := List.mem_map.1 hv
        exact le_rfl
    -- a superseded lane or an incomplete chain is the `UNKNOWN` that the rest cannot outweigh
    · by_cases hlanes : supersededLanes plan now = []
      · have hsome : chains ≠ [] := fun hchains => hnil (by simp [tickJudgements, hchains, hlanes])
        have hincomplete : ¬ ∀ c ∈ chains, c.report.status = .complete :=
          fun hall => h ⟨isComplete_iff.2 ⟨hsome, hall⟩, hlanes⟩
        push Not at hincomplete
        obtain ⟨c, hc, hstatus⟩ := hincomplete
        have hverdict : c.report.verdict = .unknown := (hassessed c hc).trans (if_neg hstatus)
        exact hverdict ▸ le_worst (List.mem_append_left _ (List.mem_map_of_mem hc))
      · obtain ⟨lane, hlane⟩ := List.exists_mem_of_ne_nil _ hlanes
        exact le_worst (List.mem_append_right _ (List.mem_map_of_mem hlane))

theorem rememberSuccess_lastSuccessAt :
    (rememberSuccess plan now chains memory).lastSuccessAt plan.deploymentId =
      if isComplete chains then some now else memory.lastSuccessAt plan.deploymentId := by
  unfold rememberSuccess
  split
  · exact Function.update_self ..
  · rfl

/-- The age an evaluation has in the tick that makes it: none if the tick is complete. -/
theorem evaluateTick_stale (collate : String → κ) (sha256 : String → String) :
    (evaluateTick collate sha256 plan now (rememberSuccess plan now chains memory) chains).stale = true ↔
      isComplete chains = false ∧
        ¬ WithinAge plan.maxAgeSeconds ((memory.lastSuccessAt plan.deploymentId).getD 0) now := by
  unfold evaluateTick
  rw [applyFreshness_stale, rememberSuccess_lastSuccessAt]
  cases isComplete chains with
  | true => exact iff_of_false (fun h => h (withinAge_self _ _)) (by simp)
  | false => exact ⟨fun h => ⟨rfl, h⟩, fun h => h.2⟩

/-- Age never moves the verdict of a tick: one that would be `OK` is fresh, and every other is `UNKNOWN` already. -/
theorem evaluateTick_verdict (collate : String → κ) (sha256 : String → String) (plan : DeploymentPlan) (now : Int)
    (memory : TickMemory) (hassessed : ∀ c ∈ chains, Assessed c.report) :
    let evaluation := evaluateTick collate sha256 plan now (rememberSuccess plan now chains memory) chains
    evaluation.verdict = evaluation.rawVerdict ∧
      evaluation.verdict = if Stands plan now chains then .ok else .unknown := by
  have hraw := combineVerdicts_tick plan now hassessed
  unfold evaluateTick
  dsimp only
  rw [applyFreshness_verdict, hraw, rememberSuccess_lastSuccessAt]
  by_cases h : Stands plan now chains
  · rw [if_pos h, if_pos h.1, Option.getD_some, if_pos (Or.inl (withinAge_self _ _))]
    exact ⟨rfl, rfl⟩
  · rw [if_neg h, ite_self]
    exact ⟨rfl, rfl⟩

end Answers

/-! ## A whole tick -/

section Whole

variable {κ : Type} [LinearOrder κ] {deps : TickDeps κ} {plan : DeploymentPlan} {now : Int} {memory : TickMemory} {db : Db}

/-- The memory a tick leaves: the success is remembered as soon as the chains are replayed, the verdict last. -/
theorem concludeTick_memory (chains : List ChainReport) :
    (concludeTick deps plan now memory chains).1.lastSuccessAt = (rememberSuccess plan now chains memory).lastSuccessAt := by
  unfold concludeTick
  dsimp only
  split
  · rfl
  · split <;> rfl

theorem concludeTick_ok {chains : List ChainReport} {report : TickReport}
    (h : (concludeTick deps plan now memory chains).2 = .ok report) :
    report.toEvaluationObservation =
        evaluateTick deps.collate deps.sha256 plan now (rememberSuccess plan now chains memory) chains ∧
      (concludeTick deps plan now memory chains).1.previousVerdict plan.deploymentId = some report.verdict := by
  unfold concludeTick at h ⊢
  dsimp only at h ⊢
  cases hrecorded : deps.recordEvaluation (evaluateTick deps.collate deps.sha256 plan now
    (rememberSuccess plan now chains memory) chains) with
  | error message =>
    rw [hrecorded] at h
    cases h
  | ok evaluationId =>
    rw [hrecorded] at h
    dsimp only at h ⊢
    cases hraised : deps.raiseAlert (signalOf deps plan now (rememberSuccess plan now chains memory)
      (evaluateTick deps.collate deps.sha256 plan now (rememberSuccess plan now chains memory) chains) evaluationId) with
    | error message =>
      rw [hraised] at h
      cases h
    | ok alerted =>
      rw [hraised] at h
      cases h
      exact ⟨rfl, Function.update_self ..⟩

/-- A tick that answers has replayed every chain of its plan. -/
theorem runDeploymentTick_ok {report : TickReport} (h : (runDeploymentTick deps plan now memory db).result = .ok report) :
    ∃ chains, Replayed deps now 0 plan.chains chains ∧
      report.toEvaluationObservation =
        evaluateTick deps.collate deps.sha256 plan now (rememberSuccess plan now chains memory) chains ∧
      (runDeploymentTick deps plan now memory db).memory.lastSuccessAt =
        (rememberSuccess plan now chains memory).lastSuccessAt ∧
      (runDeploymentTick deps plan now memory db).memory.previousVerdict plan.deploymentId = some report.verdict := by
  have hreplays := meets_replayChains deps now 0 plan.chains db
  unfold runDeploymentTick at h ⊢
  split at h
  · cases h
  · rename_i chains hchains
    obtain ⟨hreport, hprevious⟩ := concludeTick_ok h
    exact ⟨chains, hreplays.ok chains hchains, hreport, concludeTick_memory chains, hprevious⟩

/-- The verdict of a tick that answers: `OK` where it stands, `UNKNOWN` otherwise. -/
theorem runDeploymentTick_verdict {report : TickReport} (h : (runDeploymentTick deps plan now memory db).result = .ok report) :
    report.deploymentId = plan.deploymentId ∧ report.verdict = report.rawVerdict ∧
      report.verdict = if Stands plan now report.chains then .ok else .unknown := by
  obtain ⟨chains, hreplayed, hreport, -⟩ := runDeploymentTick_ok h
  have hchains : report.chains = chains := congrArg EvaluationObservation.chains hreport
  obtain ⟨hraw, hverdict⟩ := evaluateTick_verdict deps.collate deps.sha256 plan now memory hreplayed.assessed
  refine ⟨congrArg EvaluationObservation.deploymentId hreport, ?_, ?_⟩
  · exact (congrArg EvaluationObservation.verdict hreport).trans
      (hraw.trans (congrArg EvaluationObservation.rawVerdict hreport).symm)
  · rw [hchains, ← hverdict]
    exact congrArg EvaluationObservation.verdict hreport

/-- Every lane of the plan rests on a finality basis that stands, and was replayed to the end of its window. -/
structure TickBacked (deps : TickDeps κ) (plan : DeploymentPlan) (now : Int) : Prop where
  watches : plan.chains ≠ []
  stands : ∀ chain ∈ plan.chains,
    finalityBasisStands chain.finality.text ⟨chain.evmChainId, chain.blockchainId⟩ (now / 1000) = true
  lanes : ∀ (j : Nat) (chain : ChainPlan), plan.chains[j]? = some chain → ∃ replay hints before,
    (runReplay deps.sha256 (deps.source j) chain.config now hints before).result = .ok replay ∧
      LaneBacked deps.sha256 (deps.source j) chain.config now replay
        (runReplay deps.sha256 (deps.source j) chain.config now hints before)

omit [LinearOrder κ] in
/-- Replays that came back complete back their lanes. -/
theorem Replayed.backed {chains : List ChainReport} (h : Replayed deps now 0 plan.chains chains)
    (hstands : Stands plan now chains) : TickBacked deps plan now := by
  obtain ⟨hcomplete, hlanes⟩ := hstands
  obtain ⟨hsome, hall⟩ := isComplete_iff.1 hcomplete
  obtain ⟨hlength, hat⟩ := h.at
  refine ⟨fun hnil => hsome (List.length_eq_zero_iff.1 (by rw [hlength, hnil]; rfl)), fun chain hchain => ?_,
    fun j chain hchain => ?_⟩
  · by_contra hnot
    have hlane : chain.chainKey ∈ supersededLanes plan now :=
      List.mem_map_of_mem (List.mem_filter.2 ⟨hchain, by simpa using hnot⟩)
    rw [hlanes] at hlane
    cases hlane
  · have hj : j < chains.length := hlength ▸ (List.getElem?_eq_some_iff.1 hchain).1
    obtain ⟨-, hints, before, hreplay⟩ := hat j chain _ hchain (List.getElem?_eq_getElem hj)
    rw [Nat.zero_add] at hreplay
    obtain ⟨hassessed, hbacked⟩ := runReplay_report hreplay
    exact ⟨_, hints, before, hreplay, hbacked (hassessed.ok_iff.2 (hall _ (List.getElem_mem hj)))⟩

/-- A tick that answers `OK` is a success of its own time, and backed. -/
theorem runDeploymentTick_backed {report : TickReport} (h : (runDeploymentTick deps plan now memory db).result = .ok report)
    (hok : report.verdict = .ok) :
    (runDeploymentTick deps plan now memory db).memory.lastSuccessAt plan.deploymentId = some now ∧
      TickBacked deps plan now := by
  obtain ⟨chains, hreplayed, hreport, hmemory, -⟩ := runDeploymentTick_ok h
  have hchains : report.chains = chains := congrArg EvaluationObservation.chains hreport
  have hstands : Stands plan now chains := by
    by_contra hnot
    have hverdict := (runDeploymentTick_verdict h).2.2
    rw [hchains, if_neg hnot, hok] at hverdict
    cases hverdict
  refine ⟨?_, hreplayed.backed hstands⟩
  rw [hmemory, rememberSuccess_lastSuccessAt, if_pos hstands.1]

/-- What a tick answers, for every store, source, memory and clock, and whatever is hinted: `OK` where every chain of
the plan came back complete on a finality basis that stands, and `UNKNOWN` otherwise. Combining and ageing never change
that, and only an `UNKNOWN` is ever stale. -/
theorem tick_verdict (deps : TickDeps κ) (plan : DeploymentPlan) (now : Int) (memory : TickMemory) (db : Db)
    (report : TickReport) (h : (runDeploymentTick deps plan now memory db).result = .ok report) :
    report.chains.map (·.chainKey) = plan.chains.map (·.chainKey) ∧
      report.verdict = (if Stands plan now report.chains then .ok else .unknown) ∧ report.verdict = report.rawVerdict ∧
      (report.stale = true ↔ isComplete report.chains = false ∧
        ¬ WithinAge plan.maxAgeSeconds ((memory.lastSuccessAt plan.deploymentId).getD 0) now) := by
  obtain ⟨-, hraw, hverdict⟩ := runDeploymentTick_verdict h
  obtain ⟨chains, hreplayed, hreport, -⟩ := runDeploymentTick_ok h
  have hchains : report.chains = chains := congrArg EvaluationObservation.chains hreport
  refine ⟨?_, hverdict, hraw, ?_⟩
  · rw [hchains]
    obtain ⟨hlength, hat⟩ := hreplayed.at
    refine List.ext_getElem? fun j => ?_
    rw [List.getElem?_map, List.getElem?_map]
    cases hc : chains[j]? with
    | none =>
      rw [List.getElem?_eq_none_iff] at hc
      rw [List.getElem?_eq_none (hlength ▸ hc)]
      rfl
    | some c =>
      have hj : j < plan.chains.length := hlength ▸ (List.getElem?_eq_some_iff.1 hc).1
      rw [List.getElem?_eq_getElem hj]
      exact congrArg some (hat j _ c (List.getElem?_eq_getElem hj) hc).1
  · rw [hchains, ← evaluateTick_stale deps.collate deps.sha256]
    exact Eq.congr (congrArg EvaluationObservation.stale hreport) rfl

end Whole

/-! ## A sample tick -/

def samplePlan : DeploymentPlan where
  deploymentId := "dep"
  maxHints := 32
  maxAgeSeconds := 60
  expiresAfterSeconds := 300
  chains := [{ chainKey := "home", evmChainId := 43114, blockchainId := "0xhome", finality := .settledQuorum, config := sampleConfig }]

def sampleDeps : TickDeps (List Nat) where
  collate := codeUnits
  sha256 := Replay.sampleSha256
  toISOString := toString
  source _ := sampleLane 1 []
  aborted _ := false
  readHints _ := .ok []
  markHintsConsumed _ := .ok ()
  recordEvaluation _ := .ok none
  raiseAlert _ := .ok false
  evidenceSchemaVersion := "ictt-sentinel/evidence/v1"

theorem sampleTick_ok : ∃ report, (runDeploymentTick sampleDeps samplePlan 7 .new sampleDb).result = .ok report ∧
    report.verdict = .ok := by
  have hverdict : ((runDeploymentTick sampleDeps samplePlan 7 .new sampleDb).result.toOption.map (·.verdict)) = some .ok := by
    decide +kernel
  cases hresult : (runDeploymentTick sampleDeps samplePlan 7 .new sampleDb).result with
  | error failure =>
    rw [hresult] at hverdict
    cases hverdict
  | ok report =>
    rw [hresult] at hverdict
    exact ⟨report, rfl, Option.some.inj hverdict⟩

theorem tick_verdict_sample : ∃ report, (runDeploymentTick sampleDeps samplePlan 7 .new sampleDb).result = .ok report ∧
    Stands samplePlan 7 report.chains := by
  obtain ⟨report, hreport, hok⟩ := sampleTick_ok
  obtain ⟨-, hverdict, -⟩ := tick_verdict sampleDeps samplePlan 7 .new sampleDb report hreport
  refine ⟨report, hreport, ?_⟩
  by_contra hnot
  rw [if_neg hnot, hok] at hverdict
  cases hverdict

end IcttSentinel.Agent
