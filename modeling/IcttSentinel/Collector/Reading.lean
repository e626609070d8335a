/-
What the assessment of a route reads off the facts of one message: its transfer in flight is the first of
its sends, its effect carries the amount of the first of its deliveries, and the flags of the effect count
the entries of each kind.
-/
import IcttSentinel.Collector.Model

namespace IcttSentinel.Collector

open IcttSentinel.InvariantCore IcttSentinel.Lib

/-! ## Reading one message -/

namespace RouteDirection

variable (d : RouteDirection) (m : String)

def sendsOf : List (Fact TokensSentEvent) := d.sends.filter fun f => f.value.messageId = m
def deliveriesOf : List (Fact Delivery) := d.deliveries.filter fun f => f.value.messageId = m
def executionsOf : List (Fact MessageOutcomeEvent) := d.destination.executed.filter fun f => f.value.messageId = m

/-- The message was delivered and executed inside the destination cut. -/
def Executed : Prop := d.executionsOf m ≠ [] ∧ d.deliveriesOf m ≠ []

instance : Decidable (d.Executed m) := inferInstanceAs (Decidable (_ ∧ _))

/-- Seconds of chain time since a send, never negative. -/
def ageOf (f : Fact TokensSentEvent) : Int :=
  let age := d.source.pin.timestamp - f.coord.blockTimestamp
  if age < 0 then 0 else age

/-- A send in flight. -/
def envelope (route : Route) (f : Fact TokensSentEvent) : PendingEnvelope where
  messageKey := f.value.messageId
  direction := d.direction
  amount := f.value.amount
  ageSeconds := d.ageOf f
  remoteBlockchainId := route.remoteBlockchainId
  remoteAddress := route.remoteAddress

end RouteDirection

/-- The amount a delivery credits, if its payload is one the engine models. -/
def creditedAmount (f : Fact Delivery) : Option Int := f.value.payload.singleHopSend.map (·.amount)

section Readings

variable (d : RouteDirection) (route : Route) (digestOf : Fact TokensSentEvent → String → String)

/-- What a message has in flight. -/
def pendingOf (m : String) : List PendingEnvelope :=
  if d.Executed m then [] else ((d.sendsOf m).head?.map (d.envelope route)).toList

/-- What a message credits. -/
def effectsOf (m : String) : List CreditedEffect := (assessDelivered d route digestOf (m, d.deliveriesOf m)).effects

/-- The edge a message leaves open. -/
def edgesOf (m : String) : List OpenEdge := (assessDelivered d route digestOf (m, d.deliveriesOf m)).openEdges

variable {d route digestOf} {m : String}

theorem sendsById_at (m : String) : d.sendsById.at_ m = d.sendsOf m := at_groupBy _ _ _

theorem executedById_at (m : String) : d.executedById.at_ m = d.executionsOf m := at_groupBy _ _ _

theorem row_deliveredById {row : String × List (Fact Delivery)} (hrow : row ∈ d.deliveredById.rows) :
    row = (row.1, d.deliveriesOf row.1) :=
  Prod.ext rfl (mem_rows_groupBy hrow).1

theorem has_deliveredById : d.deliveredById.has m = true ↔ d.deliveriesOf m ≠ [] := by
  unfold RouteDirection.deliveredById RouteDirection.deliveriesOf
  rw [has_groupBy, List.mem_map, ne_eq, List.filter_eq_nil_iff]
  push Not
  simp only [decide_eq_true_eq]

theorem pending_assessSent {g : List (Fact TokensSentEvent)} (hrow : (m, g) ∈ d.sendsById.rows) :
    (assessSent d route (m, g)).pending = pendingOf d route m := by
  have hg : g = d.sendsOf m := (mem_rows_groupBy hrow).1
  unfold assessSent pendingOf
  simp only [← hg]
  have hexecuted : ((d.executedById.at_ m).length > 0 && d.deliveredById.has m) = true ↔ d.Executed m := by
    unfold RouteDirection.Executed
    rw [Bool.and_eq_true, has_deliveredById, decide_eq_true_eq, executedById_at, gt_iff_lt, List.length_pos_iff]
  cases hhead : g.head? with
  | none =>
    show ([] : List PendingEnvelope) = if d.Executed m then [] else []
    rw [ite_self]
  | some f =>
    have hf : f.value.messageId = m := by
      have hmem := List.mem_of_head? hhead
      rw [hg] at hmem
      exact of_decide_eq_true (List.mem_filter.1 hmem).2
    by_cases hm : d.Executed m
    · simp only [if_pos hm, if_pos (hexecuted.2 hm)]
      rfl
    · simp only [if_neg hm, if_neg (fun h => hm (hexecuted.1 h))]
      show [_] = [d.envelope route f]
      unfold RouteDirection.envelope RouteDirection.ageOf
      rw [hf]

theorem pending_assessDirection : (assessDirection d route digestOf).pending =
    (d.sendsById.rows.map Prod.fst).flatMap (pendingOf d route) := by
  have hdelivered : (d.deliveredById.rows.map (assessDelivered d route digestOf)).flatMap (·.pending) = [] := by
    rw [List.flatMap_eq_nil_iff]
    intro x hx
    obtain ⟨entry, -, rfl⟩ := List.mem_map.1 hx
    unfold assessDelivered
    dsimp only
    split <;> rfl
  unfold assessDirection RouteAssessment.concat
  simp only [List.flatMap_append, List.flatMap_cons, List.cons_append, hdelivered, List.nil_append]
  rw [List.flatMap_map, List.flatMap_map]
  exact List.flatMap_congr fun row hrow => pending_assessSent hrow

/-- A send adds no effect and no edge. -/
theorem nothing_assessSent (entry : String × List (Fact TokensSentEvent)) :
    (assessSent d route entry).effects = [] ∧ (assessSent d route entry).openEdges = [] := by
  unfold assessSent
  dsimp only
  split
  · exact ⟨rfl, rfl⟩
  · split <;> exact ⟨rfl, rfl⟩

theorem effects_assessDirection : (assessDirection d route digestOf).effects =
    (d.deliveredById.rows.map Prod.fst).flatMap (effectsOf d route digestOf) := by
  have hsent : (d.sendsById.rows.map (assessSent d route)).flatMap (·.effects) = [] := by
    rw [List.flatMap_eq_nil_iff]
    intro x hx
    obtain ⟨entry, -, rfl⟩ := List.mem_map.1 hx
    exact (nothing_assessSent entry).1
  unfold assessDirection RouteAssessment.concat
  simp only [List.flatMap_append, List.flatMap_cons, List.cons_append, hsent, List.append_nil]
  rw [List.flatMap_map, List.flatMap_map]
  exact List.flatMap_congr fun row hrow =>
    congrArg (fun row => (assessDelivered d route digestOf row).effects) (row_deliveredById hrow)

theorem openEdges_assessDirection : (assessDirection d route digestOf).openEdges =
    (d.deliveredById.rows.map Prod.fst).flatMap (edgesOf d route digestOf) := by
  have hsent : (d.sendsById.rows.map (assessSent d route)).flatMap (·.openEdges) = [] := by
    rw [List.flatMap_eq_nil_iff]
    intro x hx
    obtain ⟨entry, -, rfl⟩ := List.mem_map.1 hx
    exact (nothing_assessSent entry).2
  unfold assessDirection RouteAssessment.concat
  simp only [List.flatMap_append, List.flatMap_cons, List.cons_append, hsent, List.append_nil]
  rw [List.flatMap_map, List.flatMap_map]
  exact List.flatMap_congr fun row hrow =>
    congrArg (fun row => (assessDelivered d route digestOf row).openEdges) (row_deliveredById hrow)

/-- The send a message is credited from, if there is only one. -/
def RouteDirection.onlySend (d : RouteDirection) (m : String) : Option (Fact TokensSentEvent) :=
  if (d.sendsOf m).length = 1 then (d.sendsOf m).head? else none

variable (d route digestOf) in
/-- The effect of an executed message whose first delivery carries the amount. -/
def credit (m : String) (amount : Int) : CreditedEffect where
  messageKey := m
  remoteBlockchainId := route.remoteBlockchainId
  remoteAddress := route.remoteAddress
  amount
  hasUniqueAuthorisedSource := (d.sendsOf m).length = 1
  routeMatchesSource := match d.onlySend m with
    | none => false
    | some f => f.value.amount = amount
  duplicateEffect := (d.executionsOf m).length > 1 || (d.deliveriesOf m).length > 1
  causalSourceFact := (d.onlySend m).map fun f => digestOf f d.source.blockchainId

theorem effectsOf_eq : effectsOf d route digestOf m =
    if d.executionsOf m = [] ∨ d.sendsOf m = [] then []
    else (((d.deliveriesOf m).head?.bind creditedAmount).map (credit d route digestOf m)).toList := by
  unfold effectsOf assessDelivered credit RouteDirection.onlySend creditedAmount
  simp only [sendsById_at, executedById_at, List.length_eq_zero_iff]
  by_cases hexecuted : d.executionsOf m = []
  · simp only [hexecuted, true_or, if_true]
    rfl
  · by_cases hsent : d.sendsOf m = []
    · simp only [hexecuted, hsent, or_true, if_true, if_false]
    · simp only [hexecuted, hsent, or_self, if_false]
      cases (d.deliveriesOf m).head? with
      | none => rfl
      | some f =>
        cases hpayload : f.value.payload.singleHopSend with
        | none => simp [hpayload]
        | some p =>
          simp only [hpayload, Option.bind_some, Option.map_some]
          rfl

theorem edgesOf_eq : edgesOf d route digestOf m =
    if d.executionsOf m = [] ∨ d.sendsOf m ≠ [] then [] else [{ direction := d.direction, messageId := m }] := by
  unfold edgesOf assessDelivered
  simp only [sendsById_at, executedById_at, List.length_eq_zero_iff]
  by_cases hexecuted : d.executionsOf m = []
  · simp only [hexecuted, true_or, if_true]
    rfl
  · by_cases hsent : d.sendsOf m = []
    · simp [hexecuted, hsent]
    · simp [hexecuted, hsent]

end Readings
/-! ## Telling messages apart -/

namespace RouteDirection

variable {d : RouteDirection} {route : Route} {digestOf : Fact TokensSentEvent → String → String} {m : String}

theorem messageKey_of_mem_pendingOf {p : PendingEnvelope} (h : p ∈ pendingOf d route m) :
    p.messageKey = m ∧ p.direction = d.direction := by
  unfold pendingOf at h
  split_ifs at h
  · cases h
  · rw [Option.mem_toList, Option.map_eq_some_iff] at h
    obtain ⟨f, hf, rfl⟩ := h
    exact ⟨of_decide_eq_true (List.mem_filter.1 (List.mem_of_head? hf)).2, rfl⟩

theorem messageKey_of_mem_effectsOf {e : CreditedEffect} (h : e ∈ effectsOf d route digestOf m) : e.messageKey = m := by
  rw [effectsOf_eq] at h
  split_ifs at h
  · cases h
  · rw [Option.mem_toList, Option.map_eq_some_iff] at h
    obtain ⟨amount, -, rfl⟩ := h
    rfl

/-- The envelopes of one message can be told apart in those of a direction. -/
theorem filter_pending : (assessDirection d route digestOf).pending.filter (fun p => p.messageKey = m) =
    pendingOf d route m := by
  rw [pending_assessDirection]
  apply filter_flatMap_keys d.sendsById.nodup
  · exact fun k p hp => (messageKey_of_mem_pendingOf hp).1
  · intro hout
    have hnone : d.sendsOf m = [] := by
      rw [sendsById, mem_keys_groupBy, List.mem_map] at hout
      rw [sendsOf, List.filter_eq_nil_iff]
      exact fun f hf hid => hout ⟨f, hf, of_decide_eq_true hid⟩
    unfold pendingOf
    rw [hnone]
    exact ite_self _

/-- So can its effect. -/
theorem filter_effects : (assessDirection d route digestOf).effects.filter (fun e => e.messageKey = m) =
    effectsOf d route digestOf m := by
  rw [effects_assessDirection]
  apply filter_flatMap_keys d.deliveredById.nodup
  · exact fun k e he => messageKey_of_mem_effectsOf he
  · intro hout
    have hnone : d.deliveriesOf m = [] := by
      rw [deliveredById, mem_keys_groupBy, List.mem_map] at hout
      rw [deliveriesOf, List.filter_eq_nil_iff]
      exact fun f hf hid => hout ⟨f, hf, of_decide_eq_true hid⟩
    rw [effectsOf_eq, hnone]
    exact ite_self _

theorem head?_sendsOf : (d.sendsOf m).head? =
    d.source.sent.find? fun f => d.isRouteSend f.value && decide (f.value.messageId = m) := by
  unfold sendsOf sends
  rw [List.filter_filter, List.head?_filter]
  simp only [Bool.and_comm]

theorem head?_deliveriesOf : (d.deliveriesOf m).head? =
    d.destination.delivered.find? fun f => d.isRouteDelivery f.value && decide (f.value.messageId = m) := by
  unfold deliveriesOf deliveries
  rw [List.filter_filter, List.head?_filter]
  simp only [Bool.and_comm]

end RouteDirection

end IcttSentinel.Collector
