/-
Pages of the hosted API, apps/api/src/server.ts: the deployments list, the verdict timeline and the evidence list are
each read by following `next`. A cursor names a record only, by its id or its digest; its place in the order is looked
up again when the next page is read.

The pages are those of a listing by key, so a listing holds every record that was there at the start once, in the order
of the route, whatever is inserted meanwhile.
-/
import IcttSentinel.Api.Routes
import IcttSentinel.Config.Manifest
import IcttSentinel.Lib.Paging

namespace IcttSentinel.Api

open IcttSentinel.Lib IcttSentinel.Storage
open IcttSentinel.Evidence (JsValue property)

/-! ## The pages of the routes -/

section Pages

variable {κ : Type} [LinearOrder κ] (collate : String → κ)

/-- The tables that the routes list are as they were. -/
def SameTables (s t : ApiState) : Prop := t.registry = s.registry ∧ t.hosted = s.hosted

theorem SameTables.trans (s t u : ApiState) (h : SameTables s t) (h' : SameTables t u) : SameTables s u :=
  ⟨h'.1.trans h.1, h'.2.trans h.2⟩

variable (host : ApiHost) (r : ApiRequest)

end Pages

/-! ## Following the cursor -/

section Lists

variable {κ : Type} [LinearOrder κ] (collate : String → κ) (tenantId : String)

variable (deploymentId : String)

def recordsOf (hosted : Keyed HostedRow.key) : List HostedEvaluationRow :=
  (hosted.rows.filterMap HostedRow.evaluation?).filter fun row =>
    decide (row.tenantId = tenantId) && decide (row.deploymentId = deploymentId)

/-- Latest first, and by digest where the times are equal. -/
def recordKey (row : HostedEvaluationRow) : (Int ×ₗ (κ ×ₗ String))ᵒᵈ := OrderDual.toDual (timelineKey collate row)

variable {tenantId deploymentId}

theorem mem_recordsOf {hosted : Keyed HostedRow.key} {row : HostedEvaluationRow} :
    row ∈ recordsOf tenantId deploymentId hosted ↔
      HostedRow.evaluation row ∈ hosted.rows ∧ row.tenantId = tenantId ∧ row.deploymentId = deploymentId := by
  unfold recordsOf
  rw [List.mem_filter, List.mem_filterMap, Bool.and_eq_true, decide_eq_true_eq, decide_eq_true_eq]
  refine and_congr_left fun _ => ⟨?_, fun h => ⟨_, h, rfl⟩⟩
  rintro ⟨r, hr, hrow⟩
  cases r with
  | evaluation r => cases hrow; exact hr
  | idempotency r => cases hrow

/-- A record is found again by its digest. -/
theorem readHostedEvaluation_of_mem {hosted : Keyed HostedRow.key} {row : HostedEvaluationRow}
    (h : row ∈ recordsOf tenantId deploymentId hosted) :
    readHostedEvaluation hosted tenantId deploymentId row.evidenceDigest = some row := by
  obtain ⟨hmem, rfl, rfl⟩ := mem_recordsOf.1 h
  have hlookup : hosted.lookup (.evaluation row.tenantId row.deploymentId row.evidenceDigest) = some (.evaluation row) :=
    Keyed.lookup_eq_some.2 ⟨hmem, rfl⟩
  rw [readHostedEvaluation, hlookup]
  rfl

omit [LinearOrder κ] in
theorem recordsOf_keys (hosted : Keyed HostedRow.key) :
    ((recordsOf tenantId deploymentId hosted).map (recordKey collate)).Nodup := by
  have hrows : (recordsOf tenantId deploymentId hosted).Nodup := by
    refine List.Nodup.filter _ (hosted.nodup.of_map.filterMap fun a b row ha hb => ?_)
    cases a <;> cases b <;> cases ha <;> cases hb
    rfl
  refine (List.nodup_map_iff_inj_on hrows).2 fun a ha b hb hab => ?_
  have hdigest : a.evidenceDigest = b.evidenceDigest :=
    textKey_injective collate (congrArg (fun p : Int ×ₗ (κ ×ₗ String) => (ofLex p).2) (OrderDual.toDual.injective hab))
  have hread := readHostedEvaluation_of_mem ha
  rw [hdigest, readHostedEvaluation_of_mem hb] at hread
  exact (Option.some_inj.1 hread).symm

/-- The contents that a listing may meet: what was there stays, and what is new is one of finitely many rows or comes
before all that was there. -/
structure Contents {σ ρ : Type} (rowsOf : σ → List ρ) {κ' : Type} [LinearOrder κ'] (key : ρ → κ') (first : σ)
    (later : List σ) (pool : List ρ) : Prop where
  grows : (first :: later).Pairwise fun s t => ∀ r ∈ rowsOf s, r ∈ rowsOf t
  known : ∀ r ∈ rowsOf first, r ∈ pool
  newer : ∀ s ∈ later, ∀ r ∈ rowsOf s, r ∈ pool ∨ ∀ x ∈ rowsOf first, key r < key x

theorem Contents.follow_lists {σ ρ : Type} {rowsOf : σ → List ρ} {κ' : Type} [LinearOrder κ'] {key : ρ → κ'} {first : σ}
    {later : List σ} {pool : List ρ} (h : Contents rowsOf key first later pool)
    (hkeys : ∀ s, ((rowsOf s).map key).Nodup) {limit : Nat} (hlimit : 1 ≤ limit) :
    Lists key (rowsOf first) pool (first :: later).length (follow key limit ((first :: later).map rowsOf) none) := by
  have hpages : (first :: later).length = (rowsOf first :: later.map rowsOf).length := by
    rw [List.length_cons, List.length_cons, List.length_map]
  rw [hpages, List.map_cons]
  exact follow_lists_exactly hlimit
    (fun rows hrows => by
      obtain ⟨s, -, rfl⟩ := List.mem_map.1 (by rwa [← List.map_cons] at hrows)
      exact hkeys s)
    (fun rows hrows a ha => by
      obtain ⟨s, hs, rfl⟩ := List.mem_map.1 hrows
      exact (List.pairwise_cons.1 h.grows).1 s hs a ha)
    h.known
    (fun rows hrows a ha => by
      obtain ⟨s, hs, rfl⟩ := List.mem_map.1 hrows
      exact h.newer s hs a ha)

end Lists

/-! ### Two records of one time -/

end IcttSentinel.Api
