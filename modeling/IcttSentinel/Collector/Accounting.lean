/-
The accounting identity of a route at two unsynchronised pins. Each ledger is the sum of what its
side sent and executed up to its pin; a direction's pending amount is what was sent inside the
source cut and not executed inside the destination cut. With no open edge every execution inside
the cut has its send inside the cut too, and the two views agree: `D - S` is what is pending.
-/
import IcttSentinel.Collector.History
import IcttSentinel.Lib.Counting

namespace IcttSentinel.Collector

open IcttSentinel.InvariantCore IcttSentinel.Lib BridgeEvent

/-! ## The ledgers as sums -/

section Ledger

variable {route : Route} {amountOf : String → Int}

/-- A ledger at a pin: the sends and executions of its side up to the pin, with opposite signs, and
every delivered payload in the inbox with the amount of its message. -/
theorem ledgerAt_spec {history : List BridgeEvent} (h : History route history)
    (ha : ∀ s f, .sent s f ∈ history → f.value.amount = amountOf f.value.messageId) (side : Side) (pin : Int) :
    (ledgerAt history side pin).balance = side.sign *
      ((((cut history side pin).filterMap sentFact).map (·.value.amount)).sum -
        (((cut history side pin).filterMap executedFact).map fun f => amountOf f.value.messageId).sum) ∧
    ∀ g, .delivered side g ∈ history → g.coord.blockNumber ≤ pin →
      (ledgerAt history side pin).inbox.lookup g.value.messageId = some (amountOf g.value.messageId) := by
  induction h with
  | nil => exact ⟨by simp [ledgerAt, cut], fun g hg => by simp at hg⟩
  | @snoc past e hpast henabled ih =>
    obtain ⟨hbalance, hinbox⟩ := ih fun s f hf => ha s f (List.mem_append_left _ hf)
    by_cases hin : e.side = side ∧ e.height ≤ pin
    · have hledger : ledgerAt (past ++ [e]) side pin = (ledgerAt past side pin).step e := by
        simp [ledgerAt, cut_snoc, hin, List.foldl_append]
      rw [hledger, cut_snoc, if_pos hin]
      obtain ⟨rfl, hpin⟩ := hin
      cases e with
      | sent s f =>
        refine ⟨?_, fun g hg hle => hinbox g (by simpa using hg) hle⟩
        simp only [BridgeEvent.side] at hbalance ⊢
        simp only [Ledger.step, hbalance, List.filterMap_append, List.filterMap_cons, sentFact, executedFact,
          List.filterMap_nil, List.map_append, List.map_cons, List.map_nil, List.sum_append, List.sum_cons,
          List.sum_nil, List.append_nil]
        ring
      | delivered s f =>
        refine ⟨by simpa [Ledger.step, sentFact, executedFact, List.filterMap_cons] using hbalance,
          fun g hg hle => ?_⟩
        -- a delivered payload names the amount of its message, so the inbox records that amount
        obtain ⟨-, -, p, hp, hamount⟩ := (History.wellFormed (hpast.snoc henabled) ha).delivered s f (by simp)
        simp only [Ledger.step, hp, Option.map_some, Option.getD_some, hamount, List.lookup_cons]
        by_cases hid : g.value.messageId = f.value.messageId
        · simp [hid]
        · have hne : (g.value.messageId == f.value.messageId) = false := by simpa using hid
          rw [hne]
          refine hinbox g ?_ hle
          rcases List.mem_append.1 hg with hg | hg
          · exact hg
          · obtain ⟨-, rfl⟩ := BridgeEvent.delivered.inj (List.mem_singleton.1 hg)
            exact absurd rfl hid
      | failed s f =>
        exact ⟨by simpa [Ledger.step, sentFact, executedFact, List.filterMap_cons] using hbalance,
          fun g hg hle => hinbox g (by simpa using hg) hle⟩
      | executed s f =>
        refine ⟨?_, fun g hg hle => hinbox g (by simpa using hg) hle⟩
        obtain ⟨⟨g, hg, hid⟩, -⟩ := henabled.2
        -- an execution comes after its delivery, which the inbox therefore holds
        have hlookup := hinbox g hg (le_trans (henabled.1 _ hg rfl) hpin)
        rw [hid] at hlookup
        simp only [Ledger.step, BridgeEvent.side] at hlookup hbalance ⊢
        simp only [hlookup, Option.getD_some, hbalance, List.filterMap_append, List.filterMap_cons, sentFact,
          executedFact, List.filterMap_nil, List.map_append, List.map_cons, List.map_nil, List.sum_append,
          List.sum_cons, List.sum_nil, List.append_nil]
        ring
    -- an event of the other side or above the pin is not in the cut
    · have hcut : cut (past ++ [e]) side pin = cut past side pin := by rw [cut_snoc, if_neg hin, List.append_nil]
      have hledger : ledgerAt (past ++ [e]) side pin = ledgerAt past side pin := by rw [ledgerAt, hcut, ledgerAt]
      rw [hledger, hcut]
      refine ⟨hbalance, fun g hg hle => ?_⟩
      rcases List.mem_append.1 hg with hg | hg
      · exact hinbox g hg hle
      · rw [← List.mem_singleton.1 hg] at hin
        exact absurd ⟨rfl, hle⟩ hin

end Ledger

/-! ## One direction of a route -/

/-- The facts of one direction, cut at both ends from a history: every send and delivery is on the
route and happens once, amounts are those of their messages, and executions were delivered. -/
structure CanonicalCut (d : RouteDirection) (amountOf : String → Int) : Prop where
  sent : ∀ f ∈ d.source.sent, d.isRouteSend f.value = true ∧ f.value.amount = amountOf f.value.messageId
  sentOnce : (d.source.sent.map (·.value.messageId)).Nodup
  delivered : ∀ f ∈ d.destination.delivered, d.isRouteDelivery f.value = true ∧
    ∃ p, f.value.payload.singleHopSend = some p ∧ p.amount = amountOf f.value.messageId
  deliveredOnce : (d.destination.delivered.map (·.value.messageId)).Nodup
  executed : ∀ f ∈ d.destination.executed, f.value.messageId ∈ d.destination.delivered.map (·.value.messageId)
  executedOnce : (d.destination.executed.map (·.value.messageId)).Nodup

section Direction

variable {d : RouteDirection} {amountOf : String → Int} (route : Route)
  (digestOf : Fact TokensSentEvent → String → String)

theorem CanonicalCut.sends_eq (h : CanonicalCut d amountOf) : d.sends = d.source.sent :=
  List.filter_eq_self.2 fun f hf => (h.sent f hf).1

theorem CanonicalCut.deliveries_eq (h : CanonicalCut d amountOf) : d.deliveries = d.destination.delivered :=
  List.filter_eq_self.2 fun f hf => (h.delivered f hf).1

theorem CanonicalCut.sendsById_rows (h : CanonicalCut d amountOf) :
    d.sendsById.rows = d.source.sent.map fun f => (f.value.messageId, [f]) := by
  rw [RouteDirection.sendsById, h.sends_eq, rows_groupBy_of_nodup h.sentOnce]

theorem CanonicalCut.deliveredById_rows (h : CanonicalCut d amountOf) :
    d.deliveredById.rows = d.destination.delivered.map fun f => (f.value.messageId, [f]) := by
  rw [RouteDirection.deliveredById, h.deliveries_eq, rows_groupBy_of_nodup h.deliveredOnce]

theorem at_sendsById (h : CanonicalCut d amountOf) (id : String) :
    d.sendsById.at_ id = d.source.sent.filter fun f => f.value.messageId = id := by
  rw [RouteDirection.sendsById, h.sends_eq, at_groupBy]

theorem executedById_ne_nil (id : String) :
    (d.executedById.at_ id).length > 0 ↔ id ∈ d.destination.executed.map (·.value.messageId) := by
  rw [RouteDirection.executedById, at_groupBy, gt_iff_lt, List.length_pos_iff, filter_ne_nil]
  simp

/-- The send of a message, as the only one under its id. -/
theorem CanonicalCut.send_unique (h : CanonicalCut d amountOf) {f : Fact TokensSentEvent}
    (hf : f ∈ d.source.sent) :
    (d.source.sent.filter fun g => g.value.messageId = f.value.messageId) = [f] := by
  have hperm : (d.source.sent.filter fun g => decide (g.value.messageId = f.value.messageId)).Perm [f] := by
    refine (List.perm_ext_iff_of_nodup (h.sentOnce.of_map.filter _) (List.nodup_singleton f)).2 fun g => ?_
    rw [List.mem_filter, List.mem_singleton, decide_eq_true_eq]
    exact ⟨fun hg => List.inj_on_of_nodup_map h.sentOnce hg.1 hf hg.2, fun hg => by rw [hg]; exact ⟨hf, rfl⟩⟩
  exact List.perm_singleton.1 hperm

theorem pending_concat (parts : List RouteAssessment) :
    (RouteAssessment.concat parts).pending = parts.flatMap (·.pending) := rfl

/-- A direction's pending envelopes are the sends not executed inside the destination cut. -/
theorem CanonicalCut.pending_sum (h : CanonicalCut d amountOf) :
    ((assessDirection d route digestOf).pending.map (·.amount)).sum =
      ((d.source.sent.filter fun f =>
        !decide (f.value.messageId ∈ d.destination.executed.map (·.value.messageId))).map (·.value.amount)).sum := by
  have hdelivered : (d.deliveredById.rows.map (assessDelivered d route digestOf)).flatMap (·.pending) = [] := by
    rw [List.flatMap_eq_nil_iff]
    intro x hx
    obtain ⟨entry, -, rfl⟩ := List.mem_map.1 hx
    unfold assessDelivered
    dsimp only
    split <;> rfl
  have hsent : ∀ f ∈ d.source.sent, ((assessSent d route (f.value.messageId, [f])).pending.map (·.amount)) =
      if f.value.messageId ∈ d.destination.executed.map (·.value.messageId) then [] else [f.value.amount] := by
    intro f _
    unfold assessSent
    simp only [List.head?_cons]
    by_cases hex : f.value.messageId ∈ d.destination.executed.map (·.value.messageId)
    · have hhas : d.deliveredById.has f.value.messageId = true := by
        rw [RouteDirection.deliveredById, has_groupBy, h.deliveries_eq]
        obtain ⟨x, hx, hid⟩ := List.mem_map.1 hex
        rw [← hid]
        exact h.executed x hx
      rw [if_pos (by simp [hhas, executedById_ne_nil, hex] : _ = true), if_pos hex]
      rfl
    · rw [if_neg (by simp [executedById_ne_nil, hex] : ¬ _ = true), if_neg hex]
      rfl
  have hnothing : RouteAssessment.nothing.pending = [] := rfl
  unfold assessDirection
  simp only [pending_concat, List.flatMap_append, List.flatMap_cons, hdelivered, h.sendsById_rows, hnothing,
    List.nil_append, List.flatMap_map, List.cons_append]
  exact sum_flatMap_filter hsent

/-- With no open edge, every execution of the direction has its send inside the source cut. -/
theorem CanonicalCut.executed_sent (h : CanonicalCut d amountOf)
    (hclosed : (assessDirection d route digestOf).openEdges = []) {x : Fact MessageOutcomeEvent}
    (hx : x ∈ d.destination.executed) : x.value.messageId ∈ d.source.sent.map (·.value.messageId) := by
  obtain ⟨f, hf, hid⟩ := List.mem_map.1 (h.executed x hx)
  have hrow : (f.value.messageId, [f]) ∈ d.deliveredById.rows := by
    rw [h.deliveredById_rows]
    exact List.mem_map.2 ⟨f, hf, rfl⟩
  have hedge : (assessDelivered d route digestOf (f.value.messageId, [f])).openEdges = [] := by
    unfold assessDirection RouteAssessment.concat at hclosed
    rw [List.flatMap_eq_nil_iff] at hclosed
    exact hclosed _ (List.mem_append_left _ (List.mem_cons_of_mem _ (List.mem_map.2 ⟨_, hrow, rfl⟩)))
  have hexec : (d.executedById.at_ f.value.messageId).length > 0 := by
    rw [executedById_ne_nil, hid]
    exact List.mem_map.2 ⟨x, hx, rfl⟩
  unfold assessDelivered at hedge
  dsimp only at hedge
  rw [if_neg (by omega)] at hedge
  have hsend : d.sendsById.at_ f.value.messageId ≠ [] := by
    intro hnone
    rw [hnone] at hedge
    exact absurd hedge (by simp)
  rw [at_sendsById h, filter_ne_nil] at hsend
  obtain ⟨g, hg, hgid⟩ := hsend
  refine List.mem_map.2 ⟨g, hg, ?_⟩
  rw [← hid]
  simpa using hgid

/-- A closed direction has in flight what it sent less what it executed. -/
theorem CanonicalCut.pending_eq (h : CanonicalCut d amountOf)
    (hclosed : (assessDirection d route digestOf).openEdges = []) :
    ((assessDirection d route digestOf).pending.map (·.amount)).sum =
      (d.source.sent.map (·.value.amount)).sum -
        (d.destination.executed.map fun f => amountOf f.value.messageId).sum := by
  have hsplit := sum_filter_add_sum_filter_not d.source.sent
    (fun f => decide (f.value.messageId ∈ d.destination.executed.map (·.value.messageId))) (·.value.amount)
  have hmatched := sum_matched amountOf h.sentOnce h.executedOnce fun x hx => h.executed_sent route digestOf hclosed hx
  have hamount : ((d.source.sent.filter fun f =>
      decide (f.value.messageId ∈ d.destination.executed.map (·.value.messageId))).map (·.value.amount)) =
      ((d.source.sent.filter fun f =>
        decide (f.value.messageId ∈ d.destination.executed.map (·.value.messageId))).map
          fun f => amountOf f.value.messageId) :=
    List.map_congr_left fun f hf => (h.sent f (List.mem_filter.1 hf).1).2
  rw [h.pending_sum, ← hmatched, ← hsplit, hamount]
  omega

/-- Every effect of a direction is credited from one send of the same amount. -/
theorem CanonicalCut.effect_source (h : CanonicalCut d amountOf) {e : CreditedEffect}
    (he : e ∈ (assessDirection d route digestOf).effects) :
    ∃ f ∈ d.source.sent, f.value.messageId = e.messageKey ∧ f.value.amount = e.amount ∧
      e.hasUniqueAuthorisedSource = true ∧ e.routeMatchesSource = true := by
  unfold assessDirection RouteAssessment.concat at he
  obtain ⟨part, hpart, he⟩ := List.mem_flatMap.1 he
  rcases List.mem_append.1 hpart with hpart | hpart
  · rcases List.mem_cons.1 hpart with rfl | hpart
    · simp [RouteAssessment.nothing, RouteAssessment.concat] at he
    · rw [h.deliveredById_rows, List.map_map] at hpart
      obtain ⟨f, hf, rfl⟩ := List.mem_map.1 hpart
      obtain ⟨-, p, hp, hamount⟩ := h.delivered f hf
      simp only [Function.comp_apply, assessDelivered, List.head?_cons, Option.bind_some, hp, Option.map_some,
        at_sendsById h] at he
      split at he
      · simp [RouteAssessment.nothing, RouteAssessment.concat] at he
      · dsimp only at he
        split at he
        · simp at he
        · rename_i hsend
          obtain ⟨g, hg, hid⟩ := filter_ne_nil.1 fun hnil => hsend (by rw [hnil]; rfl)
          rw [decide_eq_true_eq] at hid
          -- the send behind the delivery is the only one of its message and has its amount
          have hunique := h.send_unique hg
          simp only [hid] at hunique
          have hge : g.value.amount = p.amount := by rw [(h.sent g hg).2, hamount, hid]
          rw [List.mem_singleton] at he
          subst he
          exact ⟨g, hg, hid, hge, by simp [hunique], by simp [hunique, hge]⟩
  · obtain ⟨entry, -, rfl⟩ := List.mem_map.1 hpart
    have hnone : (assessSent d route entry).effects = [] := by
      unfold assessSent
      dsimp only
      split
      · rfl
      · split <;> rfl
    rw [hnone] at he
    simp at he

end Direction

/-! ## The two directions over a history -/

section Route

variable {route : Route} {amountOf : String → Int} {history : List BridgeEvent}

/-- The facts a history gives about one direction are a canonical cut. -/
theorem WellFormed.canonicalCut (h : WellFormed route amountOf history) {d : RouteDirection} {side : Side}
    {sourceId destinationId : String} {sourcePin destinationPin : PinRef}
    (hsource : d.source = factsAt sourceId history side sourcePin)
    (hdestination : d.destination = factsAt destinationId history side.other destinationPin)
    (hsend : d.isRouteSend = sendOnRoute route side) (hdelivery : d.isRouteDelivery = deliveryOnRoute route side.other) :
    CanonicalCut d amountOf := by
  refine ⟨fun f hf => ?_, ?_, fun f hf => ?_, ?_, fun f hf => ?_, ?_⟩
  · rw [hsource] at hf
    rw [hsend]
    exact h.sent side f (mem_sent.1 hf).1
  · rw [hsource]
    exact h.sentOnce.sublist ((List.filter_sublist.filterMap sentFact).map _)
  · rw [hdestination] at hf
    obtain ⟨hroute, -, hp⟩ := h.delivered side.other f (mem_delivered.1 hf).1
    rw [hdelivery]
    exact ⟨hroute, hp⟩
  · rw [hdestination]
    exact h.deliveredOnce side.other _
  · rw [hdestination] at hf ⊢
    obtain ⟨hf, hpin⟩ := mem_executed.1 hf
    obtain ⟨g, hg, hid, hle⟩ := h.executed side.other f hf
    exact List.mem_map.2 ⟨g, mem_delivered.2 ⟨hg, le_trans hle hpin⟩, hid⟩
  · rw [hdestination]
    exact h.executedOnce side.other _

/-- A message id belongs to one send of one side. -/
theorem History.sent_inj (h : History route history) {s s' : Side} {f g : Fact TokensSentEvent}
    (hf : .sent s f ∈ history) (hg : .sent s' g ∈ history) (hid : f.value.messageId = g.value.messageId) :
    s = s' ∧ f = g := by
  induction h with
  | nil => simp at hf
  | @snoc past e _ henabled ih =>
    rcases List.mem_append.1 hf with hf | hf <;> rcases List.mem_append.1 hg with hg | hg
    · exact ih hf hg
    · rw [← List.mem_singleton.1 hg] at henabled
      exact absurd hid (henabled.2.2 s f hf)
    · rw [← List.mem_singleton.1 hf] at henabled
      exact absurd hid.symm (henabled.2.2 s' g hg)
    · exact BridgeEvent.sent.inj ((List.mem_singleton.1 hf).trans (List.mem_singleton.1 hg).symm)

end Route

/-- The sends of the route, of either direction, under a message id. -/
def authorisedSources (route : Route) (home remote : SideFacts) (messageId : String) : List (Fact TokensSentEvent) :=
  (home.sent.filter fun f => sendsToRemote route f.value && f.value.messageId = messageId) ++
    remote.sent.filter fun f => sendsToHome route f.value && f.value.messageId = messageId

/-- The sources of a send's message id: that send alone, whichever side it is on. -/
theorem authorisedSources_eq {route : Route} {history : List BridgeEvent} (h : History route history)
    (homeId remoteId : String) (homePin remotePin : PinRef) (side : Side) {f : Fact TokensSentEvent}
    (hf : f ∈ (match side with
      | .home => factsAt homeId history .home homePin
      | .remote => factsAt remoteId history .remote remotePin).sent) :
    authorisedSources route (factsAt homeId history .home homePin) (factsAt remoteId history .remote remotePin)
      f.value.messageId = [f] := by
  obtain ⟨amountOf, ha⟩ := exists_amountOf h
  have hw := h.wellFormed ha
  have honce : ∀ id s pin, ((factsAt id history s pin).sent.map (·.value.messageId)).Nodup := fun id s pin =>
    hw.sentOnce.sublist ((List.filter_sublist.filterMap sentFact).map _)
  -- the facts of one side under the id: the send itself if it is of this side, none otherwise
  have hown : ∀ id s pin, f ∈ (factsAt id history s pin).sent → (factsAt id history s pin).sent.filter
      (fun g => sendOnRoute route s g.value && g.value.messageId = f.value.messageId) = [f] := by
    intro id s pin hfs
    refine List.perm_singleton.1 ((List.perm_ext_iff_of_nodup ((honce id s pin).of_map.filter _)
      (List.nodup_singleton f)).2 fun g => ?_)
    rw [List.mem_filter, List.mem_singleton, Bool.and_eq_true, decide_eq_true_eq]
    constructor
    · rintro ⟨hg, -, hid⟩
      exact List.inj_on_of_nodup_map (honce id s pin) hg hfs hid
    · rintro rfl
      exact ⟨hfs, (hw.sent s g (mem_sent.1 hfs).1).1, rfl⟩
  have hother : ∀ id s pin, s ≠ side → .sent side f ∈ history → (factsAt id history s pin).sent.filter
      (fun g => sendOnRoute route s g.value && g.value.messageId = f.value.messageId) = [] := by
    intro id s pin hs hfs
    rw [List.filter_eq_nil_iff]
    intro g hg hand
    rw [Bool.and_eq_true, decide_eq_true_eq] at hand
    exact hs (h.sent_inj (mem_sent.1 hg).1 hfs hand.2).1
  cases side with
  | home =>
    have hremote := hother remoteId .remote remotePin (by decide) (mem_sent.1 hf).1
    unfold authorisedSources
    exact congrArg₂ _ (hown homeId .home homePin hf) hremote
  | remote =>
    have hhome := hother homeId .home homePin (by decide) (mem_sent.1 hf).1
    unfold authorisedSources
    exact congrArg₂ _ hhome (hown remoteId .remote remotePin hf)

/-- Over every history of single-hop transfers and at every two pins, once no edge is open the home's
accounted balance exceeds the remote's supply by what is pending, and each effect has one source. -/
theorem route_accounting_identity (route : Route) (digestOf : Fact TokensSentEvent → String → String)
    (homeId remoteId : String) (history : List BridgeEvent) (homePin remotePin : PinRef)
    (hvalid : History route history)
    (hclosed : (assessRoute route (factsAt homeId history .home homePin) (factsAt remoteId history .remote remotePin)
      digestOf).openEdges = []) :
    let home := factsAt homeId history .home homePin
    let remote := factsAt remoteId history .remote remotePin
    let assessment := assessRoute route home remote digestOf
    transferredBalanceAt history homePin.blockNumber - totalSupplyAt history remotePin.blockNumber =
        (assessment.pending.map (·.amount)).sum ∧
      ∀ e ∈ assessment.effects,
        (∃ source, authorisedSources route home remote e.messageKey = [source] ∧ source.value.amount = e.amount) ∧
          e.hasUniqueAuthorisedSource = true ∧ e.routeMatchesSource = true := by
  intro home remote assessment
  -- in a valid history a message id has one amount
  obtain ⟨amountOf, ha⟩ := exists_amountOf hvalid
  have hw := hvalid.wellFormed ha
  have hh2r : CanonicalCut (homeToRemote route home remote) amountOf :=
    hw.canonicalCut rfl rfl rfl rfl
  have hr2h : CanonicalCut (remoteToHome route home remote) amountOf :=
    hw.canonicalCut rfl rfl rfl rfl
  constructor
  · obtain ⟨hclosed₁, hclosed₂⟩ := List.append_eq_nil_iff.1 hclosed
    have hpending : assessment.pending = (assessDirection (homeToRemote route home remote) route digestOf).pending ++
        (assessDirection (remoteToHome route home remote) route digestOf).pending := rfl
    -- both ledgers in terms of the sends and executions of the two cuts
    have hhome := (ledgerAt_spec hvalid ha .home homePin.blockNumber).1
    have hremote := (ledgerAt_spec hvalid ha .remote remotePin.blockNumber).1
    rw [hpending, List.map_append, List.sum_append, hh2r.pending_eq route digestOf hclosed₁,
      hr2h.pending_eq route digestOf hclosed₂, transferredBalanceAt, totalSupplyAt, hhome, hremote]
    simp only [Side.sign, homeToRemote, remoteToHome, home, remote, factsAt]
    ring
  · intro e he
    rcases List.mem_append.1 he with he | he
    · obtain ⟨f, hf, hid, hamount, hunique, hmatches⟩ := hh2r.effect_source route digestOf he
      rw [← hid]
      exact ⟨⟨f, authorisedSources_eq hvalid homeId remoteId homePin remotePin .home hf, hamount⟩,
        hunique, hmatches⟩
    · obtain ⟨f, hf, hid, hamount, hunique, hmatches⟩ := hr2h.effect_source route digestOf he
      rw [← hid]
      exact ⟨⟨f, authorisedSources_eq hvalid homeId remoteId homePin remotePin .remote hf, hamount⟩,
        hunique, hmatches⟩

/-! ## A sample history -/

section Sample

private def sampleRoute : Route where
  homeBlockchainId := "0xaa"
  tokenHomeAddress := "0x1111"
  remoteBlockchainId := "0xbb"
  remoteAddress := "0x2222"

private def sampleAt (blockNumber : Int) : LogCoordinate where
  blockNumber
  blockHash := "0xb10c"
  txHash := "0x7a"
  logIndex := 0
  blockTimestamp := blockNumber

private def sampleSend (messageId chain address : String) (amount height : Int) : Fact TokensSentEvent where
  value :=
    { messageId, sender := "0x5e", destinationBlockchainId := chain, destinationTokenTransferrerAddress := address,
      recipient := "0x4e", multiHopFallback := "0x00", amount }
  coord := sampleAt height

private def sampleDelivery (messageId chain sender address : String) (amount height : Int) : Fact Delivery where
  value :=
    { messageId, sourceBlockchainId := chain, originSenderAddress := sender, destinationAddress := address,
      payload := { messageType := .singleHopSend, singleHopSend := some { recipient := "0x4e", amount } } }
  coord := sampleAt height

private def sampleOutcome (messageId chain : String) (height : Int) : Fact MessageOutcomeEvent where
  value := { messageId, sourceBlockchainId := chain }
  coord := sampleAt height

/-- The home sends 100, which the remote executes at the second attempt; the remote sends 30 back. -/
private def sampleHistory : List BridgeEvent :=
  [.sent .home (sampleSend "0x01" "0xbb" "0x2222" 100 5),
   .delivered .remote (sampleDelivery "0x01" "0xaa" "0x1111" "0x2222" 100 7),
   .failed .remote (sampleOutcome "0x01" "0xaa" 7),
   .executed .remote (sampleOutcome "0x01" "0xaa" 9),
   .sent .remote (sampleSend "0x02" "0xaa" "0x1111" 30 12)]

private theorem sampleHistory_valid : History sampleRoute sampleHistory := by
  have h₁ : History sampleRoute (sampleHistory.take 1) :=
    History.nil.snoc ⟨by simp, by decide +kernel, by simp⟩
  have h₂ : History sampleRoute (sampleHistory.take 2) := by
    refine h₁.snoc ⟨by decide +kernel, by decide +kernel, rfl, ⟨_, _, List.mem_singleton_self _, rfl, rfl, rfl⟩, ?_⟩
    simp [sampleHistory]
  have h₃ : History sampleRoute (sampleHistory.take 3) := by
    refine h₂.snoc ⟨by decide +kernel, ⟨_, List.mem_cons_of_mem _ (List.mem_singleton_self _), rfl⟩, ?_⟩
    simp [sampleHistory]
  have h₄ : History sampleRoute (sampleHistory.take 4) := by
    refine h₃.snoc ⟨by decide +kernel, ⟨_, List.mem_cons_of_mem _ (List.mem_cons_self ..), rfl⟩, ?_⟩
    simp [sampleHistory]
  refine h₄.snoc ⟨by decide +kernel, by decide +kernel, fun s g hg => ?_⟩
  simp only [sampleHistory, List.take, List.mem_cons, BridgeEvent.sent.injEq, reduceCtorEq, List.not_mem_nil,
    or_false] at hg
  rw [hg.2]
  decide +kernel

private def samplePin : PinRef where
  blockNumber := 20
  blockHash := "0xb10c"
  timestamp := 20

theorem route_accounting_identity_sample :
    let home := factsAt "0xaa" sampleHistory .home samplePin
    let remote := factsAt "0xbb" sampleHistory .remote samplePin
    let assessment := assessRoute sampleRoute home remote fun f id => id ++ f.coord.txHash
    transferredBalanceAt sampleHistory 20 - totalSupplyAt sampleHistory 20 = (assessment.pending.map (·.amount)).sum ∧
      ∀ e ∈ assessment.effects,
        (∃ source, authorisedSources sampleRoute home remote e.messageKey = [source] ∧
          source.value.amount = e.amount) ∧ e.hasUniqueAuthorisedSource = true ∧ e.routeMatchesSource = true :=
  route_accounting_identity sampleRoute (fun f id => id ++ f.coord.txHash) "0xaa" "0xbb" sampleHistory samplePin
    samplePin sampleHistory_valid (by decide +kernel)

example : transferredBalanceAt sampleHistory 20 - totalSupplyAt sampleHistory 20 = 30 := by decide +kernel

end Sample

end IcttSentinel.Collector
