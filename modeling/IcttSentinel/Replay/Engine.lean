/-
Replay orchestration, packages/replay/src/engine.ts. A run asks its port for the agreed head, plans
from the stored checkpoint, and serves the planned ranges one by one: a range is collected from
every provider group, split or given up inside its budget, and committed once the groups agree; then
the recorded ranges are assessed as a whole.

The port is an oracle: each fetch may answer by how many fetches the run has awaited before it, and
any port call may reject. `Pass` is the state of the loop of `runReplay`.
-/
import IcttSentinel.Replay.Agreement
import IcttSentinel.Replay.Completeness
import IcttSentinel.Replay.Hints

namespace IcttSentinel.Replay

open IcttSentinel.Domain IcttSentinel.Lib IcttSentinel.Storage

/-! ## Ports and configuration -/

inductive FetchOutcome where
  | ok (observation : RangeObservation)
  | failed (reason : ReplayReason) (providerGroup : String)
  deriving DecidableEq, Repr

/-- `LogSourcePort`. A rejected call carries its message; the number is that of the fetches so far. -/
structure LogSourcePort where
  agreedAcceptedHead : String → Except String Int
  providerGroups : Nat → String → List String
  maxRangeBlocks : String → String → Int
  fetchRange : Nat → String → String → BlockRange → Except String FetchOutcome

/-- The configuration of a lane; the manifest and policy schemas admit no negative block or age. -/
structure ReplayConfig where
  deploymentId : String
  chainKey : String
  startBlock : Int
  agreement : AgreementPolicy
  retryBudget : Nat
  freshnessTtlMs : Int
  maxHintsConsidered : Nat
  startBlock_nonneg : 0 ≤ startBlock
  freshnessTtlMs_nonneg : 0 ≤ freshnessTtlMs

structure RangeReport where
  range : BlockRange
  status : ReplayStatus
  reason : Option ReplayReason
  providerGroups : List String
  digest : Option String
  deriving DecidableEq, Repr

structure ReplayReport where
  ranges : List RangeReport
  acceptedHead : Int
  checkpointBefore : Option Int
  checkpointAfter : Option Int
  gapCount : Nat
  status : ReplayStatus
  verdict : Verdict
  reasons : List ReplayReason
  integrityConflict : Bool
  deriving DecidableEq, Repr

inductive ReplayFailure where
  | port (message : String)
  | rangeError (message : String)
  | noWitness (message : String)
  | storage (failure : StorageFailure)
  deriving DecidableEq, Repr

/-! ## Collecting one range -/

section Collect

variable (sha256 : String → String) (port : LogSourcePort) (config : ReplayConfig)

/-- The answers of the groups to one attempt: all classified, or the first failure. -/
inductive Answers where
  | results (results : List RangeResult)
  | failure (reason : ReplayReason) (group : String)
  deriving DecidableEq, Repr

/-- The inner loop of `collectRange`, over the provider groups. -/
def askGroups (range : BlockRange) : List String → Nat → List RangeResult → Except String (Answers × Nat)
  | [], clock, results => .ok (.results results, clock)
  | group :: groups, clock, results =>
    match port.fetchRange clock config.chainKey group range with
    | .error message => .error message
    | .ok (.failed reason providerGroup) => .ok (.failure reason providerGroup, clock + 1)
    | .ok (.ok observation) =>
      match classifyObservation sha256 observation with
      | .failed reason providerGroup => .ok (.failure reason providerGroup, clock + 1)
      | .ok result => askGroups range groups (clock + 1) (results ++ [result])

inductive Collected where
  | agreed (results : List RangeResult) (digest : String)
  | split (lower upper : BlockRange)
  | blocked (reason : ReplayReason) (group : Option String)
  deriving DecidableEq, Repr

/-- One attempt: the agreed witnesses, or what stands against them. -/
def attemptRange (range : BlockRange) (clock : Nat) :
    Except String ((List RangeResult × String ⊕ ReplayReason × String) × Nat) :=
  match askGroups sha256 port config range (port.providerGroups clock config.chainKey) clock [] with
  | .error message => .error message
  | .ok (.failure reason group, clock) => .ok (.inr (reason, group), clock)
  | .ok (.results results, clock) =>
    match agree results config.agreement with
    | .agreed digest witnesses => .ok (.inl (witnesses, digest), clock)
    | .blocked reason _ => .ok (.inr (reason, ""), clock)

def collectRange (range : BlockRange) (attempts clock : Nat) : Except String (Collected × Nat) :=
  match attemptRange sha256 port config range clock with
  | .error message => .error message
  | .ok (.inl (results, digest), clock) => .ok (.agreed results digest, clock)
  | .ok (.inr (reason, group), clock) =>
    match _hstep : nextStep { range, attempts, retryBudget := config.retryBudget } reason with
    | .retry _ attempts => collectRange range attempts clock
    | .split lower upper => .ok (.split lower upper, clock)
    | .giveUp reason => .ok (.blocked reason (if group = "" then none else some group), clock)
termination_by config.retryBudget - attempts
decreasing_by
  obtain ⟨hattempts, hspare⟩ := nextStep_retry _hstep
  dsimp only at hattempts hspare
  omega

end Collect

/-! ## Serving the queue -/

structure Pass where
  queue : List BlockRange
  clock : Nat
  reports : List RangeReport
  reasons : List ReplayReason
  integrityConflict : Bool
  lastSuccessAt : Option Int
  deriving DecidableEq, Repr

section Serve

variable (sha256 : String → String) (port : LogSourcePort) (config : ReplayConfig) (now : Int)

def rangeText (r : BlockRange) : String :=
  config.deploymentId ++ "|" ++ config.chainKey ++ "|" ++ toString r.fromBlock ++ "|" ++ toString r.toBlock

def rangeId (r : BlockRange) : String := sha256 (rangeText config r)

def incidentId (r : BlockRange) (reason : ReplayReason) : String := sha256 (rangeText config r ++ "|" ++ reason.text)

/-- The status row of a range of the lane. -/
def statusRow (r : BlockRange) (status : ReplayStatus) (reasonCode providerGroup : Option String) : RangeStatusRow where
  rangeId := rangeId sha256 config r
  deploymentId := config.deploymentId
  chainKey := config.chainKey
  fromBlock := r.fromBlock
  toBlock := r.toBlock
  status
  reasonCode
  providerGroup

/-- A range that cannot be trusted: its incident and its status, and the pass ends. -/
def blockRange (pass : Pass) (range : BlockRange) (rest : List BlockRange) (clock : Nat) (reason : ReplayReason)
    (group : Option String) : Awaits StoreCall Db ReplayFailure (Awaits.Next Pass Pass) := do
  let status := if reason = .providerDivergence then .divergent else .blocked
  let incident :=
    { incidentId := incidentId sha256 config range reason
      deploymentId := config.deploymentId
      chainKey := config.chainKey
      reasonCode := reason.text
      fromBlock := range.fromBlock
      toBlock := range.toBlock
      providerGroup := group
      runbook := reason.metadata.runbook
      detail := .obj [("summary", .str reason.metadata.summary), ("span", .str (toString (spanOf range)))] }
  .mapError .storage (awaitStatement .recordDataQualityIncident (recordDataQualityIncident incident))
  .mapError .storage (awaitStatement .upsertRangeStatus
    (upsertRangeStatus (statusRow sha256 config range status (some reason.text) group)))
  return .done
    { pass with
      queue := rest
      clock
      reasons := pass.reasons ++ [reason]
      reports := pass.reports ++ [{ range, status, reason := some reason, providerGroups := [], digest := none }] }

/-- The batch an agreed range is committed as: the facts of its first witness, and its end. -/
def batchOf (range : BlockRange) (witness : RangeResult) : IngestBatch where
  deploymentId := config.deploymentId
  chainKey := config.chainKey
  blocks := witness.blocks
  logs := witness.logs
  observations := []
  checkpoint := some
    { deploymentId := config.deploymentId
      chainKey := config.chainKey
      lastBlockNumber := range.toBlock
      lastBlockHash := witness.endBlockHash }

/-- An agreed range: facts and checkpoint in one transaction, then its status. -/
def commitRange (pass : Pass) (range : BlockRange) (rest : List BlockRange) (clock : Nat) (results : List RangeResult)
    (digest : String) : Awaits StoreCall Db ReplayFailure (Awaits.Next Pass Pass) :=
  match results, provenanceOf digest results config.agreement with
  | witness :: _, some provenance => do
    let ingested ← .attempt (ingestBatch sha256 (batchOf config range witness))
    match ingested with
    | .error (.acceptedHashConflict ..) =>
      return .done
        { pass with
          queue := rest
          clock
          integrityConflict := true
          reasons := pass.reasons ++ [.providerDivergence]
          reports := pass.reports ++
            [{ range, status := .blocked, reason := none, providerGroups := [], digest := none }] }
    | .error failure => .throw (.storage failure)
    | .ok _ => do
      .mapError .storage (awaitStatement .upsertRangeStatus (upsertRangeStatus
        (statusRow sha256 config range .complete none (some (",".intercalate provenance.providerGroups)))))
      return .again
        { pass with
          queue := rest
          clock
          lastSuccessAt := some now
          reports := pass.reports ++
            [{ range, status := .complete, reason := none, providerGroups := provenance.providerGroups,
               digest := some digest }] }
  | _, _ => .throw (.noWitness "an agreed range must carry at least one witness")

/-- One iteration of the loop over the queue. -/
def serveNext (pass : Pass) : Awaits StoreCall Db ReplayFailure (Awaits.Next Pass Pass) :=
  match pass.queue with
  | [] => .pure (.done pass)
  | range :: rest =>
    match collectRange sha256 port config range 0 pass.clock with
    | .error message => .throw (.port message)
    | .ok (.split lower upper, clock) => .pure (.again { pass with queue := lower :: upper :: rest, clock })
    | .ok (.blocked reason group, clock) => blockRange sha256 config pass range rest clock reason group
    | .ok (.agreed results digest, clock) => commitRange sha256 config now pass range rest clock results digest

variable {sha256 port config now}

/-- What an iteration does: leave an empty queue, fail with the port, or split, give up or commit the
range in front. -/
theorem meets_serveNext {pass : Pass} {db : Db} {C : Awaited StoreCall Db → Prop}
    {Q : Awaits.Next Pass Pass → Db → Prop} {E : ReplayFailure → Db → Prop}
    (hempty : pass.queue = [] → Q (.done pass) db)
    (hport : ∀ range rest message, pass.queue = range :: rest →
      collectRange sha256 port config range 0 pass.clock = .error message → E (.port message) db)
    (hsplit : ∀ range rest lower upper clock, pass.queue = range :: rest →
      collectRange sha256 port config range 0 pass.clock = .ok (.split lower upper, clock) →
      Q (.again { pass with queue := lower :: upper :: rest, clock }) db)
    (hblocked : ∀ range rest reason group clock, pass.queue = range :: rest →
      collectRange sha256 port config range 0 pass.clock = .ok (.blocked reason group, clock) →
      (blockRange sha256 config pass range rest clock reason group db).Meets C Q E)
    (hagreed : ∀ range rest results digest clock, pass.queue = range :: rest →
      collectRange sha256 port config range 0 pass.clock = .ok (.agreed results digest, clock) →
      (commitRange sha256 config now pass range rest clock results digest db).Meets C Q E) :
    (serveNext sha256 port config now pass db).Meets C Q E := by
  unfold serveNext
  cases hqueue : pass.queue with
  | nil => exact Awaits.meets_pure (hempty hqueue)
  | cons range rest =>
    dsimp only
    cases hcollect : collectRange sha256 port config range 0 pass.clock with
    | error message => exact Awaits.meets_throw (hport range rest message hqueue hcollect)
    | ok answer =>
      obtain ⟨collected, clock⟩ := answer
      cases collected with
      | split lower upper => exact Awaits.meets_pure (hsplit range rest lower upper clock hqueue hcollect)
      | blocked reason group => exact hblocked range rest reason group clock hqueue hcollect
      | agreed results digest => exact hagreed range rest results digest clock hqueue hcollect

/-- The statements a run awaits, under the run's failures. -/
theorem meets_statement {op : StoreCall} {statement : Db → Except Violation (Unit × Db)} {db : Db}
    {C : Awaited StoreCall Db → Prop} {Q : Unit → Db → Prop} {E : ReplayFailure → Db → Prop}
    (hok : ∀ db', statement db = .ok ((), db') → C { op, ok := true, after := db' } ∧ Q () db')
    (herror : ∀ violation, statement db = .error violation →
      C { op, ok := false, after := db } ∧ E (.storage (.violation violation)) db) :
    ((Awaits.mapError ReplayFailure.storage (awaitStatement op statement)) db).Meets C Q E :=
  Awaits.meets_mapError (Awaits.meets_mapError (Awaits.meets_await (fun _ db' h => hok db' h) herror))

/-- The store after a range was given up: at most an incident, and a status that is not complete. -/
inductive GaveUp (sha256 : String → String) (config : ReplayConfig) (range : BlockRange) (db : Db) : Db → Prop where
  | incident (dataQualityIncidents) : GaveUp sha256 config range db { db with dataQualityIncidents }
  | status (dataQualityIncidents) (status : ReplayStatus) (reasonCode providerGroup : Option String)
      (hstatus : status ≠ .complete) :
      GaveUp sha256 config range db
        { db with
          dataQualityIncidents
          replayRanges := db.replayRanges.upsert
            (mergedRow db (statusRow sha256 config range status reasonCode providerGroup)) }

/-- Giving up a range ends the pass, with the range reported as not complete. -/
theorem meets_blockRange {pass : Pass} {range : BlockRange} {rest : List BlockRange} {clock : Nat}
    {reason : ReplayReason} {group : Option String} {db : Db} {C : Awaited StoreCall Db → Prop}
    {Q : Awaits.Next Pass Pass → Db → Prop} {E : ReplayFailure → Db → Prop}
    (hawaited : ∀ x : Awaited StoreCall Db, x.op ≠ .ingestTransaction → GaveUp sha256 config range db x.after → C x)
    (hfailed : ∀ e db', GaveUp sha256 config range db db' → E e db')
    (hdone : ∀ db' report, GaveUp sha256 config range db db' → report.range = range → report.status ≠ .complete →
      Q (.done { pass with
        queue := rest, clock, reasons := pass.reasons ++ [reason], reports := pass.reports ++ [report] }) db') :
    (blockRange sha256 config pass range rest clock reason group db).Meets C Q E := by
  have hstatus : (if reason = .providerDivergence then ReplayStatus.divergent else .blocked) ≠ .complete := by
    split <;> simp
  unfold blockRange
  refine Awaits.meets_bind (Q := fun _ s => ∃ dataQualityIncidents, s = { db with dataQualityIncidents })
    (meets_statement (fun db' h => ?_) fun violation _ => ?_) fun _ s hs => ?_
  · obtain ⟨dataQualityIncidents, rfl⟩ := recordDataQualityIncident_ok h
    exact ⟨hawaited _ (by simp) (.incident _), dataQualityIncidents, rfl⟩
  · exact ⟨hawaited _ (by simp) (.incident db.dataQualityIncidents), hfailed _ _ (.incident db.dataQualityIncidents)⟩
  · obtain ⟨dataQualityIncidents, rfl⟩ := hs
    refine Awaits.meets_bind (Q := fun _ s => ∃ status reasonCode providerGroup, status ≠ .complete ∧ s =
      { db with
        dataQualityIncidents
        replayRanges := db.replayRanges.upsert
          (mergedRow db (statusRow sha256 config range status reasonCode providerGroup)) })
      (meets_statement (fun db' h => ?_) fun violation _ => ?_) fun _ s hs => ?_
    · rw [upsertRangeStatus_ok h]
      exact ⟨hawaited _ (by simp) (.status _ _ _ _ hstatus), _, _, _, hstatus, rfl⟩
    · exact ⟨hawaited _ (by simp) (.incident _), hfailed _ _ (.incident _)⟩
    · obtain ⟨status, reasonCode, providerGroup, hne, rfl⟩ := hs
      exact Awaits.meets_pure (hdone _ _ (.status _ _ _ _ hne) rfl hstatus)

/-- The commit of a range was refused: the agreement has no witness, or the transaction of one failed. -/
def Refused (sha256 : String → String) (config : ReplayConfig) (range : BlockRange) (results : List RangeResult)
    (db : Db) : Prop :=
  results = [] ∨ ∃ witness ∈ results, ∃ violation,
    ingestTransaction sha256 (batchOf config range witness) db = .error violation

/-- Committing a range: a refused batch leaves an integrity incident at most and ends the pass or the
run; a committed one is followed by the range's status. -/
theorem meets_commitRange {pass : Pass} {range : BlockRange} {rest : List BlockRange} {clock : Nat}
    {results : List RangeResult} {digest : String} {db : Db} {C : Awaited StoreCall Db → Prop}
    {Q : Awaits.Next Pass Pass → Db → Prop} {E : ReplayFailure → Db → Prop}
    (hrefused : ∀ x : Awaited StoreCall Db, (x.op = .ingestTransaction → x.ok = false) →
      (∃ integrityIncidents, x.after = { db with integrityIncidents }) → C x)
    (hfailed : ∀ e integrityIncidents, Refused sha256 config range results db → E e { db with integrityIncidents })
    (hconflict : ∀ report integrityIncidents, Refused sha256 config range results db → report.status ≠ .complete →
      report.range = range → Q (.done { pass with
        queue := rest, clock, integrityConflict := true, reasons := pass.reasons ++ [.providerDivergence],
        reports := pass.reports ++ [report] }) { db with integrityIncidents })
    (hcommitted : ∀ witness ∈ results, ∀ outcome db',
      ingestTransaction sha256 (batchOf config range witness) db = .ok (outcome, db') →
      C { op := .ingestTransaction, ok := true, after := db' } ∧ ∀ providerGroup,
        (∀ violation, upsertRangeStatus (statusRow sha256 config range .complete none providerGroup) db' =
          .error violation →
            C { op := .upsertRangeStatus, ok := false, after := db' } ∧ E (.storage (.violation violation)) db') ∧
        ∀ db'', upsertRangeStatus (statusRow sha256 config range .complete none providerGroup) db' = .ok ((), db'') →
          C { op := .upsertRangeStatus, ok := true, after := db'' } ∧
          ∀ report, report.range = range → report.status = .complete → report.digest = some digest →
            Q (.again { pass with
              queue := rest, clock, lastSuccessAt := some now, reports := pass.reports ++ [report] }) db'') :
    (commitRange sha256 config now pass range rest clock results digest db).Meets C Q E := by
  unfold commitRange
  cases results with
  | nil => exact Awaits.meets_throw (hfailed _ db.integrityIncidents (Or.inl rfl))
  | cons witness witnesses =>
    obtain ⟨provenance, hprovenance⟩ :
        ∃ provenance, provenanceOf digest (witness :: witnesses) config.agreement = some provenance := ⟨_, rfl⟩
    rw [hprovenance]
    dsimp only
    -- what the ingest of the witness leaves behind: its facts, or only an incident
    let R : Except StorageFailure IngestOutcome → Db → Prop
      | .ok outcome, db' => ingestTransaction sha256 (batchOf config range witness) db = .ok (outcome, db')
      | .error _, db' => (∃ integrityIncidents, db' = { db with integrityIncidents }) ∧
          Refused sha256 config range (witness :: witnesses) db
    have hingest : ((Awaits.attempt (ingestBatch sha256 (batchOf config range witness)) :
        Awaits StoreCall Db ReplayFailure _) db).Meets C R E :=
      Awaits.meets_attempt (meets_ingestBatch (fun outcome db' h => ⟨(hcommitted witness (by simp) outcome db' h).1, h⟩)
        hrefused fun e integrityIncidents h => ⟨⟨integrityIncidents, rfl⟩, Or.inr ⟨witness, by simp, h⟩⟩)
    refine Awaits.meets_bind hingest fun ingested s hs => ?_
    cases ingested with
    | ok outcome =>
      obtain ⟨-, hnext⟩ := hcommitted witness (by simp) outcome s hs
      refine Awaits.meets_bind (Q := fun _ s' => upsertRangeStatus (statusRow sha256 config range .complete none
        (some (",".intercalate provenance.providerGroups))) s = .ok ((), s')) (meets_statement (fun db' h => ?_)
          fun violation h => ?_) fun _ s' hs' => ?_
      · exact ⟨((hnext _).2 db' h).1, h⟩
      · exact (hnext _).1 violation h
      · exact Awaits.meets_pure (((hnext _).2 s' hs').2 _ rfl rfl rfl)
    | error failure =>
      obtain ⟨⟨integrityIncidents, rfl⟩, hviolated⟩ := hs
      cases failure with
      | violation v => exact Awaits.meets_throw (hfailed _ _ hviolated)
      | acceptedHashConflict c n s o => exact Awaits.meets_pure (hconflict _ _ hviolated (by simp) rfl)

end Serve

/-! ## The queue runs dry -/

section Work

variable {sha256 : String → String} {port : LogSourcePort} {config : ReplayConfig} {now : Int}

/-- What a range can still cost: every split of it, and serving every block of it. -/
def workOf (r : BlockRange) : Nat := max 1 (2 * spanOf r - 1).toNat

def work (queue : List BlockRange) : Nat := (queue.map workOf).sum

theorem work_split {range lower upper : BlockRange} (rest : List BlockRange)
    (h : splitRange range = some (lower, upper)) : work (lower :: upper :: rest) < work (range :: rest) := by
  obtain ⟨hfrom, hlower, hmiddle, hupper, hto⟩ := splitRange_eq_some h
  simp only [work, List.map_cons, List.sum_cons, workOf, spanOf]
  omega

theorem work_rest (range : BlockRange) (rest : List BlockRange) : work rest < work (range :: rest) := by
  simp only [work, List.map_cons, List.sum_cons, workOf]
  omega

/-- A range is only split where it has two halves. -/
theorem collectRange_split {range lower upper : BlockRange} {attempts clock clock' : Nat}
    (h : collectRange sha256 port config range attempts clock = .ok (.split lower upper, clock')) :
    splitRange range = some (lower, upper) := by
  fun_induction collectRange sha256 port config range attempts clock with
  | case1 => cases h
  | case2 => cases h
  | case3 attempts clock reason group clock₁ _ _ attempts' _ ih => exact ih h
  | case4 attempts clock reason group clock₁ _ lower' upper' hstep =>
    cases h
    exact nextStep_split hstep
  | case5 => cases h

/-- An iteration that goes on leaves less work. -/
theorem serveNext_work (pass : Pass) (db : Db) (pass' : Pass)
    (h : (serveNext sha256 port config now pass db).result = .ok (.again pass')) :
    work pass'.queue < work pass.queue := by
  let R : Awaits.Next Pass Pass → Db → Prop
    | .again p, _ => work p.queue < work pass.queue
    | .done _, _ => True
  have hmeets : (serveNext sha256 port config now pass db).Meets (fun _ => True) R fun _ _ => True := by
    refine meets_serveNext (fun _ => trivial) (fun _ _ _ _ _ => trivial) ?_ ?_ ?_
    · intro range rest lower upper clock hqueue hcollect
      change work (lower :: upper :: rest) < work pass.queue
      rw [hqueue]
      exact work_split rest (collectRange_split hcollect)
    · intro range rest reason group clock _ _
      exact meets_blockRange (fun _ _ _ => trivial) (fun _ _ _ => trivial) fun _ _ _ _ _ => trivial
    · intro range rest results digest clock hqueue _
      have hless : work rest < work pass.queue := by
        rw [hqueue]
        exact work_rest range rest
      exact meets_commitRange (fun _ _ _ => trivial) (fun _ _ _ => trivial) (fun _ _ _ _ _ => trivial)
        fun _ _ _ _ _ => ⟨trivial, fun _ => ⟨fun _ _ => ⟨trivial, trivial⟩, fun _ _ => ⟨trivial, fun _ _ _ _ => hless⟩⟩⟩
  exact hmeets.ok _ h

end Work

/-! ## A run -/

section Run

variable (sha256 : String → String) (port : LogSourcePort) (config : ReplayConfig) (now : Int)

/-- The loop over the queue, with the work left as its variant. -/
def servePass : Awaits.Body StoreCall Db ReplayFailure Pass Pass where
  run := serveNext sha256 port config now
  measure pass := work pass.queue
  decreasing := serveNext_work

/-- Resume one block past the checkpoint, or at the manifest's start. -/
def resumeFrom (checkpointBefore : Option Int) : Int :=
  match checkpointBefore with
  | none => config.startBlock
  | some n => if n + 1 > config.startBlock then n + 1 else config.startBlock

def maxSafeInteger : Int := 2 ^ 53 - 1

/-- The narrowest capability of the provider groups. -/
def planWidth (groups : List String) : Int :=
  let width := (groups.map (port.maxRangeBlocks config.chainKey)).foldl min maxSafeInteger
  if width = maxSafeInteger then 1 else width

def planOf (checkpointBefore : Option Int) (head : Int) : PlanInput where
  startBlock := resumeFrom config checkpointBefore
  agreedHead := head
  maxRangeBlocks := planWidth port config (port.providerGroups 0 config.chainKey)
  retryBudget := config.retryBudget

/-- The loop state a run starts in. -/
def firstPass (queue : List BlockRange) (lastSuccessAt : Option Int) : Pass where
  queue
  clock := 0
  reports := []
  reasons := []
  integrityConflict := false
  lastSuccessAt

def completenessInput (head : Int) (pass : Pass) (committed : List BlockRange) : CompletenessInput where
  window := { fromBlock := config.startBlock, toBlock := head }
  committed
  lastSuccessAt := pass.lastSuccessAt
  freshnessTtlMs := config.freshnessTtlMs
  openReasons := pass.reasons
  now

def completenessRow (head : Int) (pass : Pass) (assessment : CompletenessResult) : CompletenessRow where
  deploymentId := config.deploymentId
  chainKey := config.chainKey
  status := assessment.status
  verdict := assessment.verdict.text
  windowFrom := config.startBlock
  windowTo := head
  gapCount := assessment.gaps.length
  reasons := assessment.reasons.map (·.text)
  lastSuccessAt := pass.lastSuccessAt
  evaluatedAt := now

def reportOf (head : Int) (checkpointBefore checkpointAfter : Option Int) (pass : Pass)
    (assessment : CompletenessResult) : ReplayReport where
  ranges := pass.reports
  acceptedHead := head
  checkpointBefore
  checkpointAfter
  gapCount := assessment.gaps.length
  status := assessment.status
  verdict := assessment.verdict
  reasons := assessment.reasons
  integrityConflict := pass.integrityConflict

/-- What follows the loop: the recorded ranges are assessed and the projection is written. -/
def conclude (head : Int) (checkpointBefore : Option Int) (pass : Pass) :
    Awaits StoreCall Db ReplayFailure ReplayReport := do
  let committed ← .mapError .storage (readCommittedRanges config.deploymentId config.chainKey)
  let assessment := assessCompleteness (completenessInput config now head pass committed)
  .mapError .storage (awaitStatement .upsertCompleteness
    (upsertCompleteness (completenessRow config now head pass assessment)))
  let after ← .mapError .storage (readCheckpoint config.deploymentId config.chainKey)
  return reportOf head checkpointBefore (after.map (·.lastBlockNumber)) pass assessment

/-- The queue is served, then assessed. -/
def serveQueue (head : Int) (checkpointBefore : Option Int) (pass : Pass) :
    Awaits StoreCall Db ReplayFailure ReplayReport := do
  let pass ← Awaits.loop (servePass sha256 port config now) pass
  conclude config now head checkpointBefore pass

def runReplay (hints : List PriorityHint) : Awaits StoreCall Db ReplayFailure ReplayReport := do
  let head ← .ofExcept ((port.agreedAcceptedHead config.chainKey).mapError .port)
  let checkpoint ← .mapError .storage (readCheckpoint config.deploymentId config.chainKey)
  let priorCompleteness ← .mapError .storage (readCompleteness config.deploymentId config.chainKey)
  let checkpointBefore := checkpoint.map (·.lastBlockNumber)
  let planned ← .ofExcept ((planRanges (planOf port config checkpointBefore head)).mapError .rangeError)
  let queue := prioritise planned (hints.take config.maxHintsConsidered)
  let lastSuccessAt := priorCompleteness.bind (·.lastSuccessAt)
  serveQueue sha256 port config now head checkpointBefore (firstPass queue lastSuccessAt)

/-! ## The lane in the store -/

/-- The checkpoint of the lane. -/
def laneCheckpoint (db : Db) : Option Int := checkpointHeight db config.deploymentId config.chainKey

/-- The complete ranges of the lane. -/
def laneRanges (db : Db) : List BlockRange := completeRanges db config.deploymentId config.chainKey

/-- The last success stored for the lane. -/
def laneSuccess (db : Db) : Option Int :=
  (storedCompleteness db config.deploymentId config.chainKey).bind (·.lastSuccessAt)

variable {sha256 port config now}

/-- The end of a run: the ranges of the lane are assessed, and the assessment is stored or refused. -/
theorem meets_conclude {head : Int} {checkpointBefore : Option Int} {pass : Pass} {db : Db}
    {C : Awaited StoreCall Db → Prop} {Q : ReplayReport → Db → Prop} {E : ReplayFailure → Db → Prop}
    (hread : C { op := .readCommittedRanges, ok := true, after := db })
    (hrefused : ∀ committed violation, (∀ r, r ∈ committed ↔ r ∈ laneRanges config db) →
      upsertCompleteness (completenessRow config now head pass
        (assessCompleteness (completenessInput config now head pass committed))) db = .error violation →
      C { op := .upsertCompleteness, ok := false, after := db } ∧ E (.storage (.violation violation)) db)
    (hwritten : ∀ committed row db', (∀ r, r ∈ committed ↔ r ∈ laneRanges config db) →
      row = completenessRow config now head pass
        (assessCompleteness (completenessInput config now head pass committed)) →
      db' = { db with replayCompleteness := db.replayCompleteness.upsert row } →
      C { op := .upsertCompleteness, ok := true, after := db' } ∧ C { op := .readCheckpoint, ok := true, after := db' } ∧
        Q (reportOf head checkpointBefore (laneCheckpoint config db') pass
          (assessCompleteness (completenessInput config now head pass committed))) db') :
    (conclude config now head checkpointBefore pass db).Meets C Q E := by
  unfold conclude
  refine Awaits.meets_bind (Q := fun committed s => s = db ∧ ∀ r, r ∈ committed ↔ r ∈ laneRanges config db)
    (Awaits.meets_mapError (Awaits.meets_read hread ⟨rfl, fun r => mem_sortOn⟩)) ?_
  rintro committed s ⟨rfl, hcommitted⟩
  dsimp only
  refine Awaits.meets_bind (Q := fun _ s' => s' = { s with
      replayCompleteness := s.replayCompleteness.upsert (completenessRow config now head pass
        (assessCompleteness (completenessInput config now head pass committed))) })
    (meets_statement (fun db' h => ?_) fun violation h => hrefused committed violation hcommitted h) ?_
  -- the row that is written is the one computed from the committed ranges
  · have hdb' := upsertCompleteness_ok h
    exact ⟨(hwritten committed _ db' hcommitted rfl hdb').1, hdb'⟩
  rintro _ s' hs'
  obtain ⟨-, hreread, hreport⟩ := hwritten committed _ s' hcommitted rfl hs'
  refine Awaits.meets_bind (Q := fun after s'' => s'' = s' ∧ after.map (·.lastBlockNumber) = laneCheckpoint config s')
    (Awaits.meets_mapError (Awaits.meets_read hreread ⟨rfl, rfl⟩)) ?_
  rintro after s'' ⟨rfl, hafter⟩
  rw [hafter]
  exact Awaits.meets_pure hreport

/-- A run reads its lane, and then fails with its port, fails to plan, or serves its plan. -/
theorem meets_runReplay {hints : List PriorityHint} {db : Db} {C : Awaited StoreCall Db → Prop}
    {Q : ReplayReport → Db → Prop} {E : ReplayFailure → Db → Prop}
    (hread : ∀ op, op ≠ .ingestTransaction → C { op, ok := true, after := db })
    (hhead : ∀ message, port.agreedAcceptedHead config.chainKey = .error message → E (.port message) db)
    (hplan : ∀ head message, port.agreedAcceptedHead config.chainKey = .ok head →
      planRanges (planOf port config (laneCheckpoint config db) head) = .error message → E (.rangeError message) db)
    (hserve : ∀ head planned, port.agreedAcceptedHead config.chainKey = .ok head →
      planRanges (planOf port config (laneCheckpoint config db) head) = .ok planned →
      (serveQueue sha256 port config now head (laneCheckpoint config db)
        (firstPass (prioritise planned (hints.take config.maxHintsConsidered)) (laneSuccess config db)) db).Meets C Q E) :
    (runReplay sha256 port config now hints db).Meets C Q E := by
  unfold runReplay
  refine Awaits.meets_bind (Q := fun head s => s = db ∧ port.agreedAcceptedHead config.chainKey = .ok head)
    (Awaits.meets_ofExcept (fun head h => ?_) fun failure h => ?_) ?_
  · cases hport : port.agreedAcceptedHead config.chainKey with
    | error message => simp [hport, Except.mapError] at h
    | ok n =>
      rw [hport] at h
      exact ⟨rfl, congrArg _ (Except.ok.inj h)⟩
  · cases hport : port.agreedAcceptedHead config.chainKey with
    | ok n => simp [hport, Except.mapError] at h
    | error message =>
      rw [hport] at h
      cases h
      exact hhead message hport
  rintro head s ⟨rfl, hport⟩
  -- the two reads leave the store as it is
  refine Awaits.meets_bind (Q := fun checkpoint s' => s' = s ∧
      checkpoint.map (·.lastBlockNumber) = laneCheckpoint config s)
    (Awaits.meets_mapError (Awaits.meets_read (hread _ (by simp)) ⟨rfl, rfl⟩)) ?_
  rintro checkpoint s' ⟨rfl, hcheckpoint⟩
  refine Awaits.meets_bind (Q := fun row s'' => s'' = s' ∧ row.bind (·.lastSuccessAt) = laneSuccess config s')
    (Awaits.meets_mapError (Awaits.meets_read (hread _ (by simp)) ⟨rfl, rfl⟩)) ?_
  rintro row s'' ⟨rfl, hsuccess⟩
  dsimp only
  rw [hcheckpoint, hsuccess]
  refine Awaits.meets_bind (Q := fun planned s' => s' = s'' ∧
      planRanges (planOf port config (laneCheckpoint config s'') head) = .ok planned)
    (Awaits.meets_ofExcept (fun planned h => ?_) fun failure h => ?_) ?_
  · cases hplanned : planRanges (planOf port config (laneCheckpoint config s'') head) with
    | error message => simp [hplanned, Except.mapError] at h
    | ok ranges =>
      rw [hplanned] at h
      exact ⟨rfl, congrArg _ (Except.ok.inj h)⟩
  · cases hplanned : planRanges (planOf port config (laneCheckpoint config s'') head) with
    | ok ranges => simp [hplanned, Except.mapError] at h
    | error message =>
      rw [hplanned] at h
      cases h
      exact hplan head message hport hplanned
  rintro planned s' ⟨rfl, hplanned⟩
  exact hserve head planned hport hplanned

end Run

end IcttSentinel.Replay
