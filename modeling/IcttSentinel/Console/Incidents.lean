/-
Incidents of the console, apps/console/src/model/incidents.ts: a timeline of verdicts, sorted by the time of observation,
is folded into the runs of records that are not OK. The order `localeCompare` gives strings is that of a collation key.
-/
import IcttSentinel.Lib.Runs
import IcttSentinel.Lib.Sorting

namespace IcttSentinel.Console

open IcttSentinel.Lib

inductive ProtocolStatus where
  | ok
  | warn
  | unknown
  | critical
  deriving DecidableEq, Repr

/-- The part of an evidence record that the incidents are derived from. -/
structure EvidenceRecord where
  evidenceDigest : String
  protocolStatus : ProtocolStatus
  observedAt : String
  deriving DecidableEq, Repr

structure Incident where
  id : String
  firstSeen : String
  lastSeen : String
  occurrences : Nat
  peak : ProtocolStatus
  current : ProtocolStatus
  recovered : Bool
  recoveredAt : Option String
  evidenceDigests : List String
  deriving DecidableEq, Repr

def SEVERITY : ProtocolStatus → Nat
  | .ok => 0
  | .warn => 1
  | .unknown => 2
  | .critical => 3

def worse (a b : ProtocolStatus) : ProtocolStatus := if SEVERITY a ≥ SEVERITY b then a else b

/-! ## The fold -/

structure OpenIncident where
  id : String
  firstSeen : String
  lastSeen : String
  occurrences : Nat
  peak : ProtocolStatus
  current : ProtocolStatus
  digests : List String

/-- The incidents that are closed, and the one that is open. -/
structure Walk where
  incidents : List Incident
  opened : Option OpenIncident

def OpenIncident.close (o : OpenIncident) (recoveredAt : Option String) : Incident where
  id := o.id
  firstSeen := o.firstSeen
  lastSeen := o.lastSeen
  occurrences := o.occurrences
  peak := o.peak
  current := if recoveredAt.isNone then o.current else .ok
  recovered := recoveredAt.isSome
  recoveredAt := recoveredAt
  evidenceDigests := o.digests.reverse

def Walk.close (w : Walk) (recoveredAt : Option String) : Walk :=
  match w.opened with
  | none => w
  | some o => { incidents := w.incidents ++ [o.close recoveredAt], opened := none }

/-- The incident a record opens. -/
def EvidenceRecord.opens (record : EvidenceRecord) : OpenIncident where
  id := record.evidenceDigest
  firstSeen := record.observedAt
  lastSeen := record.observedAt
  occurrences := 1
  peak := record.protocolStatus
  current := record.protocolStatus
  digests := [record.evidenceDigest]

/-- The open incident after one more record. -/
def OpenIncident.fold (o : OpenIncident) (record : EvidenceRecord) : OpenIncident :=
  { o with
    lastSeen := record.observedAt
    occurrences := o.occurrences + 1
    peak := worse o.peak record.protocolStatus
    current := record.protocolStatus
    digests := o.digests ++ [record.evidenceDigest] }

def Walk.step (w : Walk) (record : EvidenceRecord) : Walk :=
  if record.protocolStatus = .ok then w.close (some record.observedAt)
  else
    match w.opened with
    | none => { w with opened := some record.opens }
    | some o => { w with opened := some (o.fold record) }

def Walk.start : Walk := ⟨[], none⟩

/-- `deriveIncidents`, newest incident first. -/
def deriveIncidents {κ : Type} [LinearOrder κ] (collationKey : String → κ) (timeline : List EvidenceRecord) :
    List Incident :=
  let oldestFirst := sortOn (fun r => collationKey r.observedAt) timeline
  ((oldestFirst.foldl Walk.step .start).close none).incidents.reverse

/-! ## Runs -/

def EvidenceRecord.notOk (record : EvidenceRecord) : Bool := record.protocolStatus ≠ .ok

/-- The incident tells of a run of records, oldest first, and of the record that ended it. -/
structure Incident.TellsOf (i : Incident) (run : List EvidenceRecord) (next : Option EvidenceRecord) : Prop where
  id : run.head?.map EvidenceRecord.evidenceDigest = some i.id
  firstSeen : run.head?.map EvidenceRecord.observedAt = some i.firstSeen
  lastSeen : run.getLast?.map EvidenceRecord.observedAt = some i.lastSeen
  occurrences : i.occurrences = run.length
  evidenceDigests : i.evidenceDigests = (run.map EvidenceRecord.evidenceDigest).reverse
  peak_mem : i.peak ∈ run.map EvidenceRecord.protocolStatus
  peak_worst : ∀ r ∈ run, SEVERITY r.protocolStatus ≤ SEVERITY i.peak
  current : i.current = if next.isSome then .ok else ((run.getLast?.map EvidenceRecord.protocolStatus).getD .ok)
  recovered : i.recovered = next.isSome
  recoveredAt : i.recoveredAt = next.map EvidenceRecord.observedAt

/-- The open incident holds what was seen of the run that is open. -/
structure OpenIncident.Holds (o : OpenIncident) (run : List EvidenceRecord) : Prop where
  id : run.head?.map EvidenceRecord.evidenceDigest = some o.id
  firstSeen : run.head?.map EvidenceRecord.observedAt = some o.firstSeen
  lastSeen : run.getLast?.map EvidenceRecord.observedAt = some o.lastSeen
  occurrences : o.occurrences = run.length
  digests : o.digests = run.map EvidenceRecord.evidenceDigest
  peak_mem : o.peak ∈ run.map EvidenceRecord.protocolStatus
  peak_worst : ∀ r ∈ run, SEVERITY r.protocolStatus ≤ SEVERITY o.peak
  current : run.getLast?.map EvidenceRecord.protocolStatus = some o.current

theorem worse_cases (a b : ProtocolStatus) :
    (worse a b = a ∨ worse a b = b) ∧ SEVERITY a ≤ SEVERITY (worse a b) ∧ SEVERITY b ≤ SEVERITY (worse a b) := by
  cases a <;> cases b <;> decide

theorem opens_holds (record : EvidenceRecord) : record.opens.Holds [record] :=
  ⟨rfl, rfl, rfl, rfl, rfl, by simp [EvidenceRecord.opens], by simp [EvidenceRecord.opens], rfl⟩

theorem OpenIncident.Holds.fold {o : OpenIncident} {run : List EvidenceRecord} (h : o.Holds run)
    (record : EvidenceRecord) : (o.fold record).Holds (run ++ [record]) := by
  obtain ⟨a, rest, rfl⟩ : ∃ a rest, run = a :: rest := by
    cases run with
    | nil => cases h.id
    | cons a rest => exact ⟨a, rest, rfl⟩
  obtain ⟨hpick, hleft, hright⟩ := worse_cases o.peak record.protocolStatus
  have hlast : (a :: rest ++ [record]).getLast? = some record := List.getLast?_concat
  refine ⟨h.id, h.firstSeen, by rw [hlast]; rfl, ?_, ?_, ?_, ?_, by rw [hlast]; rfl⟩
  · simp [OpenIncident.fold, h.occurrences]
  · simp [OpenIncident.fold, h.digests]
  · show worse o.peak record.protocolStatus ∈ _
    rw [List.map_append, List.mem_append]
    rcases hpick with hpick | hpick
    · rw [hpick]
      exact Or.inl h.peak_mem
    · rw [hpick]
      exact Or.inr (by simp)
  · intro r hr
    show SEVERITY r.protocolStatus ≤ SEVERITY (worse o.peak record.protocolStatus)
    rcases List.mem_append.1 hr with hr | hr
    · exact (h.peak_worst r hr).trans hleft
    · rwa [List.mem_singleton.1 hr]

/-- Closing an incident tells of the run it holds. -/
theorem OpenIncident.Holds.close {o : OpenIncident} {run : List EvidenceRecord} (h : o.Holds run)
    (next : Option EvidenceRecord) : (o.close (next.map EvidenceRecord.observedAt)).TellsOf run next := by
  refine ⟨h.id, h.firstSeen, h.lastSeen, h.occurrences, ?_, h.peak_mem, h.peak_worst, ?_, ?_, rfl⟩
  · show o.digests.reverse = _
    rw [h.digests]
  · rw [h.current]
    cases next <;> rfl
  · show (next.map EvidenceRecord.observedAt).isSome = _
    cases next <;> rfl

/-- What is open holds the run that is open; nothing is open before one begins. -/
def Matches (opened : Option OpenIncident) (run : List EvidenceRecord) : Prop :=
  match opened with
  | none => run = []
  | some o => o.Holds run

/-- Closing reports the open run, if there is one. -/
theorem close_matches {w : Walk} {run : List EvidenceRecord} (h : Matches w.opened run) (next : Option EvidenceRecord) :
    ∃ told, (w.close (next.map EvidenceRecord.observedAt)) = ⟨w.incidents ++ told, none⟩ ∧
      List.Forall₂ (fun i r => i.TellsOf r.1 r.2) told (closed run next) := by
  obtain ⟨incidents, opened⟩ := w
  cases opened with
  | none =>
    obtain rfl : run = [] := h
    exact ⟨[], by simp [Walk.close], List.Forall₂.nil⟩
  | some o =>
    have h : o.Holds run := h
    have hopen : closed run next = [(run, next)] := by
      cases run with
      | nil => cases h.id
      | cons a run => rfl
    rw [hopen]
    exact ⟨[o.close (next.map EvidenceRecord.observedAt)], rfl, List.Forall₂.cons (h.close next) List.Forall₂.nil⟩

/-- The walk reports the runs of what is still to come, the open one first. -/
theorem walk_reports {w : Walk} {run : List EvidenceRecord} (h : Matches w.opened run) (l : List EvidenceRecord) :
    ∃ told, ((l.foldl Walk.step w).close none).incidents = w.incidents ++ told ∧
      List.Forall₂ (fun i r => i.TellsOf r.1 r.2) told (runsFrom EvidenceRecord.notOk run l) := by
  induction l generalizing w run with
  | nil =>
    obtain ⟨told, hclose, htold⟩ := close_matches h none
    exact ⟨told, congrArg Walk.incidents hclose, htold⟩
  | cons r l ih =>
    rw [List.foldl_cons, runsFrom]
    by_cases hok : r.protocolStatus = .ok
    · -- the record ends the open run
      obtain ⟨told, hclose, htold⟩ := close_matches h (some r)
      have hstep : w.step r = ⟨w.incidents ++ told, none⟩ := by
        rw [Walk.step, if_pos hok]
        exact hclose
      have hnone : Matches (w.step r).opened [] := by
        rw [hstep]
        rfl
      obtain ⟨rest, hrest, htells⟩ := ih hnone
      refine ⟨told ++ rest, ?_, ?_⟩
      · rw [hrest, hstep, List.append_assoc]
      · rw [if_neg (by simp [EvidenceRecord.notOk, hok])]
        exact List.rel_append htold htells
    -- the record joins the open run, or opens one
    · have hstep : Matches (w.step r).opened (run ++ [r]) ∧ (w.step r).incidents = w.incidents := by
        obtain ⟨incidents, opened⟩ := w
        cases opened with
        | none =>
          obtain rfl : run = [] := h
          rw [Walk.step, if_neg hok]
          exact ⟨opens_holds r, rfl⟩
        | some o =>
          rw [Walk.step, if_neg hok]
          exact ⟨OpenIncident.Holds.fold h r, rfl⟩
      obtain ⟨rest, hrest, htells⟩ := ih hstep.1
      rw [if_pos (by simp [EvidenceRecord.notOk, hok])]
      exact ⟨rest, by rw [hrest, hstep.2], htells⟩

/-! ## The incidents of a timeline -/

/-- The incidents are the maximal runs of records that are not OK, newest first: every such record is in one of them. -/
structure MaximalRunsOf (oldestFirst : List EvidenceRecord) (incidents : List Incident) : Prop where
  runs : ∃ runs : List (List EvidenceRecord × Option EvidenceRecord),
    List.Forall₂ (fun i r => i.TellsOf r.1 r.2) incidents.reverse runs ∧
      (∀ run next, (run, next) ∈ runs ↔ MaximalRun EvidenceRecord.notOk oldestFirst run next) ∧
      runs.flatMap Prod.fst = oldestFirst.filter EvidenceRecord.notOk

section Timeline

variable {κ τ : Type} [LinearOrder κ] [LinearOrder τ] {collationKey : String → κ} {time : String → τ}
  {timeline : List EvidenceRecord}

/-- Where texts of times are in the order of the times, sorting by the one is sorting by the other. -/
theorem sortOn_time (hclock : ∀ a ∈ timeline, ∀ b ∈ timeline,
      (collationKey a.observedAt ≤ collationKey b.observedAt ↔ time a.observedAt ≤ time b.observedAt)) :
    sortOn (fun r : EvidenceRecord => collationKey r.observedAt) timeline = sortOn (fun r => time r.observedAt) timeline := by
  have hmap := List.map_insertionSort
    (fun a b : EvidenceRecord => collationKey a.observedAt ≤ collationKey b.observedAt)
    (fun a b => time a.observedAt ≤ time b.observedAt) id timeline hclock
  rw [List.map_id, List.map_id] at hmap
  exact hmap

theorem deriveIncidents_maximal : MaximalRunsOf (sortOn (fun r => collationKey r.observedAt) timeline)
    (deriveIncidents collationKey timeline) := by
  have hnone : Matches Walk.start.opened [] := rfl
  obtain ⟨told, hwalk, htold⟩ := walk_reports hnone (sortOn (fun r => collationKey r.observedAt) timeline)
  refine ⟨⟨runsFrom EvidenceRecord.notOk [] (sortOn (fun r => collationKey r.observedAt) timeline), ?_, ?_, ?_⟩⟩
  · rw [deriveIncidents, List.reverse_reverse, hwalk]
    exact htold
  · intro run next
    exact mem_runsFrom (by simp)
  · exact flatMap_runsFrom _ _ _

/-- The incidents of a timeline whose times are distinct, in whatever order it comes, are the maximal runs of its records
in the order of time, newest first. -/
theorem deriveIncidents_exact (collationKey : String → κ) (time : String → τ) (timeline : List EvidenceRecord)
    (hdistinct : (timeline.map fun r => time r.observedAt).Nodup)
    (hclock : ∀ a ∈ timeline, ∀ b ∈ timeline,
      (collationKey a.observedAt ≤ collationKey b.observedAt ↔ time a.observedAt ≤ time b.observedAt)) :
    let oldestFirst := sortOn (fun r => time r.observedAt) timeline
    oldestFirst.Perm timeline ∧ (oldestFirst.Pairwise fun a b => time a.observedAt < time b.observedAt) ∧
      MaximalRunsOf oldestFirst (deriveIncidents collationKey timeline) ∧
      ∀ timeline', timeline'.Perm timeline →
        deriveIncidents collationKey timeline' = deriveIncidents collationKey timeline := by
  refine ⟨sortOn_perm _ _, pairwise_lt_sortOn hdistinct, ?_, fun timeline' hperm => ?_⟩
  · rw [← sortOn_time hclock]
    exact deriveIncidents_maximal
  · have hclock' : ∀ a ∈ timeline', ∀ b ∈ timeline',
        (collationKey a.observedAt ≤ collationKey b.observedAt ↔ time a.observedAt ≤ time b.observedAt) :=
      fun a ha b hb => hclock a (hperm.mem_iff.1 ha) b (hperm.mem_iff.1 hb)
    have hdistinct' : (timeline'.map fun r => time r.observedAt).Nodup := (hperm.map _).nodup_iff.2 hdistinct
    have hsorted : sortOn (fun r : EvidenceRecord => time r.observedAt) timeline' =
        sortOn (fun r => time r.observedAt) timeline :=
      sortOn_eq_of_perm (fun a ha b hb heq => List.inj_on_of_nodup_map hdistinct' ha hb heq) hperm
    rw [deriveIncidents, deriveIncidents, sortOn_time hclock, sortOn_time hclock', hsorted]

end Timeline

def sampleRecord (evidenceDigest observedAt : String) (protocolStatus : ProtocolStatus) : EvidenceRecord where
  evidenceDigest
  protocolStatus
  observedAt

/-- Three records that are not OK between two that are, and one more that is still open, out of order. -/
def sampleTimeline : List EvidenceRecord :=
  [sampleRecord "05" "2026-06-01T05:00:00.000Z" .ok, sampleRecord "03" "2026-06-01T03:00:00.000Z" .critical,
    sampleRecord "06" "2026-06-01T06:00:00.000Z" .unknown, sampleRecord "04" "2026-06-01T04:00:00.000Z" .warn,
    sampleRecord "02" "2026-06-01T02:00:00.000Z" .warn, sampleRecord "01" "2026-06-01T01:00:00.000Z" .ok]

/-- The hour of a time on one day. -/
def hourOf (observedAt : String) : Nat := Nat.ofDigitChars 10 ((observedAt.toList.drop 11).take 2) 0

theorem deriveIncidents_exact_sample :
    let oldestFirst := sortOn (fun r => hourOf r.observedAt) sampleTimeline
    oldestFirst.Perm sampleTimeline ∧ (oldestFirst.Pairwise fun a b => hourOf a.observedAt < hourOf b.observedAt) ∧
      MaximalRunsOf oldestFirst (deriveIncidents codeUnits sampleTimeline) ∧
      ∀ timeline', timeline'.Perm sampleTimeline →
        deriveIncidents codeUnits timeline' = deriveIncidents codeUnits sampleTimeline :=
  deriveIncidents_exact codeUnits hourOf sampleTimeline (by decide +kernel) (by decide +kernel)

example : (deriveIncidents codeUnits sampleTimeline).map (fun i => (i.evidenceDigests, i.peak, i.recoveredAt)) =
    [(["06"], .unknown, none), (["04", "03", "02"], .critical, some "2026-06-01T05:00:00.000Z")] := by
  decide +kernel

end IcttSentinel.Console
