/-
Redelivered facts. A provider may return one log several times, and providers return logs in orders of
their own. Where no log that counts is repeated, the assessment of a direction is that of its deduplicated
facts; and deduplicating changes the flags of its effects one way only.
-/
import IcttSentinel.Collector.Reading

namespace IcttSentinel.Collector

open IcttSentinel.InvariantCore IcttSentinel.Lib

/-! ## The deduplicated facts -/

section Deduplicated

variable {T : Type}

/-- What identifies a log on its chain. -/
def coordinate (f : Fact T) : String × String × Int := (f.coord.blockHash, f.coord.txHash, f.coord.logIndex)

/-- The second list holds the facts of the first one, each once, in some order. -/
structure Deduplicated (l l' : List (Fact T)) : Prop where
  mem : ∀ f, f ∈ l' ↔ f ∈ l
  once : (l'.map coordinate).Nodup

/-- Two different facts are in the list. -/
def Several (l : List (Fact T)) : Prop := ∃ f ∈ l, ∃ g ∈ l, f ≠ g

theorem Several.length {l : List (Fact T)} (h : Several l) : l.length > 1 := by
  obtain ⟨f, hf, g, hg, hne⟩ := h
  rcases l with _ | ⟨a, _ | ⟨b, l⟩⟩
  · cases hf
  · rw [List.mem_singleton] at hf hg
    exact absurd (hf.trans hg.symm) hne
  · simp

theorem several_iff {l : List (Fact T)} (h : l.Nodup) : Several l ↔ l.length > 1 := by
  constructor
  · exact Several.length
  · intro hlength
    rcases l with _ | ⟨a, _ | ⟨b, l⟩⟩
    · cases hlength
    · simp at hlength
    · refine ⟨a, by simp, b, by simp, ?_⟩
      rintro rfl
      exact (List.nodup_cons.1 h).1 List.mem_cons_self

theorem several_congr {l l' : List (Fact T)} (h : ∀ f, f ∈ l' ↔ f ∈ l) : Several l' ↔ Several l := by
  unfold Several
  simp only [h]

theorem eq_nil_congr {l l' : List (Fact T)} (h : ∀ f, f ∈ l' ↔ f ∈ l) : l' = [] ↔ l = [] := by
  rw [List.eq_nil_iff_forall_not_mem, List.eq_nil_iff_forall_not_mem]
  simp only [h]

/-- A list whose repetitions are all of different facts counts like the deduplicated one. -/
theorem length_gt_one_congr {l l' : List (Fact T)} (h : ∀ f, f ∈ l' ↔ f ∈ l) (hnodup : l'.Nodup)
    (hseveral : l.length > 1 → Several l) : l'.length > 1 ↔ l.length > 1 := by
  rw [← several_iff hnodup, several_congr h]
  exact ⟨Several.length, hseveral⟩

end Deduplicated

/-- One side with the facts of each kind deduplicated. -/
structure SideFacts.Deduplicated (s s' : SideFacts) : Prop where
  blockchainId : s'.blockchainId = s.blockchainId
  pin : s'.pin = s.pin
  sent : Collector.Deduplicated s.sent s'.sent
  unsupportedSends : Collector.Deduplicated s.unsupportedSends s'.unsupportedSends
  delivered : Collector.Deduplicated s.delivered s'.delivered
  executed : Collector.Deduplicated s.executed s'.executed
  failed : Collector.Deduplicated s.failed s'.failed

/-- A direction with the facts of both sides deduplicated. -/
structure RouteDirection.Deduplicated (d d' : RouteDirection) : Prop where
  direction : d'.direction = d.direction
  isRouteSend : d'.isRouteSend = d.isRouteSend
  isRouteDelivery : d'.isRouteDelivery = d.isRouteDelivery
  source : d.source.Deduplicated d'.source
  destination : d.destination.Deduplicated d'.destination

namespace RouteDirection

variable {d d' : RouteDirection} {route : Route} {digestOf : Fact TokensSentEvent → String → String} {m : String}

theorem Deduplicated.mem_sendsOf (h : d.Deduplicated d') (f : Fact TokensSentEvent) :
    f ∈ d'.sendsOf m ↔ f ∈ d.sendsOf m := by
  unfold sendsOf sends
  rw [List.mem_filter, List.mem_filter, List.mem_filter, List.mem_filter, h.isRouteSend, h.source.sent.mem]

theorem Deduplicated.mem_deliveriesOf (h : d.Deduplicated d') (f : Fact Delivery) :
    f ∈ d'.deliveriesOf m ↔ f ∈ d.deliveriesOf m := by
  unfold deliveriesOf deliveries
  rw [List.mem_filter, List.mem_filter, List.mem_filter, List.mem_filter, h.isRouteDelivery, h.destination.delivered.mem]

theorem Deduplicated.mem_executionsOf (h : d.Deduplicated d') (f : Fact MessageOutcomeEvent) :
    f ∈ d'.executionsOf m ↔ f ∈ d.executionsOf m := by
  unfold executionsOf
  rw [List.mem_filter, List.mem_filter, h.destination.executed.mem]

theorem Deduplicated.nodup_sendsOf (h : d.Deduplicated d') : (d'.sendsOf m).Nodup :=
  (h.source.sent.once.of_map.filter _).filter _

theorem Deduplicated.nodup_deliveriesOf (h : d.Deduplicated d') : (d'.deliveriesOf m).Nodup :=
  (h.destination.delivered.once.of_map.filter _).filter _

theorem Deduplicated.nodup_executionsOf (h : d.Deduplicated d') : (d'.executionsOf m).Nodup :=
  h.destination.executed.once.of_map.filter _

theorem Deduplicated.executed_iff (h : d.Deduplicated d') : d'.Executed m ↔ d.Executed m := by
  unfold Executed
  rw [ne_eq, ne_eq, eq_nil_congr h.mem_executionsOf, eq_nil_congr h.mem_deliveriesOf]

theorem Deduplicated.ageOf (h : d.Deduplicated d') (f : Fact TokensSentEvent) : d'.ageOf f = d.ageOf f := by
  unfold RouteDirection.ageOf
  rw [h.source.pin]

theorem Deduplicated.envelope (h : d.Deduplicated d') (f : Fact TokensSentEvent) :
    d'.envelope route f = d.envelope route f := by
  unfold RouteDirection.envelope
  rw [h.direction, h.ageOf]

/-! ## Facts that may be redelivered -/

variable (d) in
/-- A message credits an effect: it is executed, it has a source, and an amount was delivered. -/
def Credited (m : String) : Prop :=
  d.Executed m ∧ d.sendsOf m ≠ [] ∧ ∃ f ∈ d.deliveriesOf m, creditedAmount f ≠ none

variable (d) in
/-- No log that counts is repeated: the only send of a credited message is there once, and so are its
execution and its delivery if there is one of each. Where a message has different sends or deliveries,
whichever comes first reads the same. -/
structure Steady : Prop where
  inFlight : ∀ m, ¬ d.Executed m → ∀ f ∈ d.sendsOf m, ∀ g ∈ d.sendsOf m,
    f.value.amount = g.value.amount ∧ d.ageOf f = d.ageOf g
  amounts : ∀ m, d.executionsOf m ≠ [] → d.sendsOf m ≠ [] → ∀ f ∈ d.deliveriesOf m, ∀ g ∈ d.deliveriesOf m,
    creditedAmount f = creditedAmount g
  sends : ∀ m, d.Credited m → (d.sendsOf m).length > 1 → Several (d.sendsOf m)
  effects : ∀ m, d.Credited m → (d.executionsOf m).length > 1 ∨ (d.deliveriesOf m).length > 1 →
    Several (d.executionsOf m) ∨ Several (d.deliveriesOf m)

/-- The first of two lists with the same members reads as the first of the other, if all members read the
same. -/
theorem head?_map_congr {α β : Type} {f : α → β} {l l' : List α} (hmem : ∀ x, x ∈ l' ↔ x ∈ l)
    (hf : ∀ x ∈ l, ∀ y ∈ l, f x = f y) : l'.head?.map f = l.head?.map f := by
  cases l' with
  | nil =>
    cases l with
    | nil => rfl
    | cons x l => exact absurd ((hmem x).2 List.mem_cons_self) List.not_mem_nil
  | cons y l' =>
    cases l with
    | nil => exact absurd ((hmem y).1 List.mem_cons_self) List.not_mem_nil
    | cons x l => exact congrArg some (hf y ((hmem y).1 List.mem_cons_self) x List.mem_cons_self)

theorem Deduplicated.pendingOf_eq (h : d.Deduplicated d') (hd : d.Steady) : pendingOf d' route m = pendingOf d route m := by
  unfold pendingOf
  by_cases hm : d.Executed m
  · rw [if_pos hm, if_pos (h.executed_iff.2 hm)]
  · rw [if_neg hm, if_neg fun hm' => hm (h.executed_iff.1 hm')]
    have henvelope : d'.envelope route = d.envelope route := funext h.envelope
    rw [henvelope, head?_map_congr h.mem_sendsOf]
    intro f hf g hg
    obtain ⟨hamount, hage⟩ := hd.inFlight m hm f hf g hg
    have hid : f.value.messageId = g.value.messageId :=
      (of_decide_eq_true (List.mem_filter.1 hf).2).trans (of_decide_eq_true (List.mem_filter.1 hg).2).symm
    unfold RouteDirection.envelope
    rw [hid, hamount, hage]

theorem Deduplicated.onlySend_eq (h : d.Deduplicated d') (hsends : (d.sendsOf m).length > 1 → Several (d.sendsOf m)) :
    ((d'.sendsOf m).length = 1 ↔ (d.sendsOf m).length = 1) ∧ d'.onlySend m = d.onlySend m := by
  have hseveral := length_gt_one_congr h.mem_sendsOf h.nodup_sendsOf hsends
  have hnil : (d'.sendsOf m).length = 0 ↔ (d.sendsOf m).length = 0 := by
    rw [List.length_eq_zero_iff, List.length_eq_zero_iff]
    exact eq_nil_congr h.mem_sendsOf
  have hone : (d'.sendsOf m).length = 1 ↔ (d.sendsOf m).length = 1 := by omega
  refine ⟨hone, ?_⟩
  unfold onlySend
  by_cases hlength : (d.sendsOf m).length = 1
  · rw [if_pos hlength, if_pos (hone.2 hlength)]
    obtain ⟨f, hf⟩ := List.length_eq_one_iff.1 hlength
    obtain ⟨f', hf'⟩ := List.length_eq_one_iff.1 (hone.2 hlength)
    have hmem := (h.mem_sendsOf f').1 (by rw [hf']; exact List.mem_singleton_self f')
    rw [hf, List.mem_singleton] at hmem
    rw [hf, hf', hmem]
  · rw [if_neg hlength, if_neg fun hlength' => hlength (hone.1 hlength')]

theorem Deduplicated.effectsOf_eq (h : d.Deduplicated d') (hd : d.Steady) :
    effectsOf d' route digestOf m = effectsOf d route digestOf m := by
  rw [Collector.effectsOf_eq, Collector.effectsOf_eq]
  have hskips : (d'.executionsOf m = [] ∨ d'.sendsOf m = []) ↔ d.executionsOf m = [] ∨ d.sendsOf m = [] :=
    or_congr (eq_nil_congr h.mem_executionsOf) (eq_nil_congr h.mem_sendsOf)
  by_cases hskip : d.executionsOf m = [] ∨ d.sendsOf m = []
  · rw [if_pos hskip, if_pos (hskips.2 hskip)]
  rw [if_neg hskip, if_neg fun hskip' => hskip (hskips.1 hskip')]
  rw [not_or] at hskip
  -- the amount is read from the first delivery, and all of them name one amount
  have hamounts : (d'.deliveriesOf m).head?.bind creditedAmount = (d.deliveriesOf m).head?.bind creditedAmount := by
    have hheads := head?_map_congr h.mem_deliveriesOf (hd.amounts m hskip.1 hskip.2)
    have hjoin : ∀ o : Option (Fact Delivery), o.bind creditedAmount = (o.map creditedAmount).join := by
      rintro (_ | f) <;> rfl
    rw [hjoin, hjoin, hheads]
  rw [hamounts]
  cases hamount : (d.deliveriesOf m).head?.bind creditedAmount with
  | none => rfl
  | some amount =>
    obtain ⟨f, hf, hfamount⟩ := Option.bind_eq_some_iff.1 hamount
    have hf : f ∈ d.deliveriesOf m := List.mem_of_head? hf
    have hcredited : d.Credited m := by
      refine ⟨⟨hskip.1, List.ne_nil_of_mem hf⟩, hskip.2, f, hf, ?_⟩
      rw [hfamount]
      exact Option.some_ne_none amount
    obtain ⟨hone, honly⟩ := h.onlySend_eq (hd.sends m hcredited)
    have hduplicate : ((d'.executionsOf m).length > 1 ∨ (d'.deliveriesOf m).length > 1) ↔
        (d.executionsOf m).length > 1 ∨ (d.deliveriesOf m).length > 1 := by
      rw [← several_iff h.nodup_executionsOf, ← several_iff h.nodup_deliveriesOf, several_congr h.mem_executionsOf,
        several_congr h.mem_deliveriesOf]
      exact ⟨Or.imp Several.length Several.length, hd.effects m hcredited⟩
    show [credit d' route digestOf m amount] = [credit d route digestOf m amount]
    unfold credit
    rw [honly, h.source.blockchainId]
    simp only [hone, ← Bool.decide_or, hduplicate]

theorem Deduplicated.edgesOf_eq (h : d.Deduplicated d') : edgesOf d' route digestOf m = edgesOf d route digestOf m := by
  rw [Collector.edgesOf_eq, Collector.edgesOf_eq, h.direction]
  have hskips : (d'.executionsOf m = [] ∨ d'.sendsOf m ≠ []) ↔ d.executionsOf m = [] ∨ d.sendsOf m ≠ [] :=
    or_congr (eq_nil_congr h.mem_executionsOf) (not_congr (eq_nil_congr h.mem_sendsOf))
  simp only [hskips]

theorem Deduplicated.pending_perm (h : d.Deduplicated d') (hd : d.Steady) :
    (assessDirection d route digestOf).pending.Perm (assessDirection d' route digestOf).pending := by
  rw [pending_assessDirection, pending_assessDirection]
  refine flatMap_keys_perm d.sendsById.nodup d'.sendsById.nodup (fun m => ?_) fun m _ => (h.pendingOf_eq hd).symm
  unfold sendsById sends
  rw [mem_keys_groupBy, mem_keys_groupBy, List.mem_map, List.mem_map]
  simp only [List.mem_filter, h.isRouteSend, h.source.sent.mem]

theorem Deduplicated.mem_deliveredKeys (h : d.Deduplicated d') (m : String) :
    m ∈ d.deliveredById.rows.map Prod.fst ↔ m ∈ d'.deliveredById.rows.map Prod.fst := by
  unfold deliveredById deliveries
  rw [mem_keys_groupBy, mem_keys_groupBy, List.mem_map, List.mem_map]
  simp only [List.mem_filter, h.isRouteDelivery, h.destination.delivered.mem]

theorem Deduplicated.effects_perm (h : d.Deduplicated d') (hd : d.Steady) :
    (assessDirection d route digestOf).effects.Perm (assessDirection d' route digestOf).effects := by
  rw [effects_assessDirection, effects_assessDirection]
  exact flatMap_keys_perm d.deliveredById.nodup d'.deliveredById.nodup h.mem_deliveredKeys
    fun m _ => (h.effectsOf_eq hd).symm

theorem Deduplicated.openEdges_perm (h : d.Deduplicated d') :
    (assessDirection d route digestOf).openEdges.Perm (assessDirection d' route digestOf).openEdges := by
  rw [openEdges_assessDirection, openEdges_assessDirection]
  exact flatMap_keys_perm d.deliveredById.nodup d'.deliveredById.nodup h.mem_deliveredKeys fun m _ => h.edgesOf_eq.symm

variable (route digestOf) in
/-- Deduplicating takes effects' flags back only: whatever was a duplicate or ambiguous afterwards was so
before. -/
theorem Deduplicated.flags (h : d.Deduplicated d') (hsent : d.sendsOf m ≠ []) (amount : Int) :
    ((credit d' route digestOf m amount).duplicateEffect = true → (credit d route digestOf m amount).duplicateEffect = true) ∧
      ((credit d route digestOf m amount).hasUniqueAuthorisedSource = true →
        (credit d' route digestOf m amount).hasUniqueAuthorisedSource = true) := by
  unfold credit
  simp only [Bool.or_eq_true, decide_eq_true_eq]
  constructor
  · rw [← several_iff h.nodup_executionsOf, ← several_iff h.nodup_deliveriesOf, several_congr h.mem_executionsOf,
      several_congr h.mem_deliveriesOf]
    exact Or.imp Several.length Several.length
  · intro hone
    have hseveral : ¬ (d'.sendsOf m).length > 1 := by
      rw [← several_iff h.nodup_sendsOf, several_congr h.mem_sendsOf]
      intro hseveral
      have := hseveral.length
      omega
    have hpos : (d'.sendsOf m).length ≠ 0 := by
      rw [ne_eq, List.length_eq_zero_iff, eq_nil_congr h.mem_sendsOf]
      exact hsent
    omega

variable (route digestOf) in
/-- A message credits one effect or none, and so it does when the facts are deduplicated and its first
delivery stays first. -/
theorem Deduplicated.effectsOf_cases (h : d.Deduplicated d')
    (hhead : (d'.deliveriesOf m).head?.map creditedAmount = (d.deliveriesOf m).head?.map creditedAmount) :
    (effectsOf d route digestOf m = [] ∧ effectsOf d' route digestOf m = []) ∨
      ∃ amount, d.sendsOf m ≠ [] ∧ effectsOf d route digestOf m = [credit d route digestOf m amount] ∧
        effectsOf d' route digestOf m = [credit d' route digestOf m amount] := by
  rw [Collector.effectsOf_eq, Collector.effectsOf_eq]
  have hskips : (d'.executionsOf m = [] ∨ d'.sendsOf m = []) ↔ d.executionsOf m = [] ∨ d.sendsOf m = [] :=
    or_congr (eq_nil_congr h.mem_executionsOf) (eq_nil_congr h.mem_sendsOf)
  by_cases hskip : d.executionsOf m = [] ∨ d.sendsOf m = []
  · rw [if_pos hskip, if_pos (hskips.2 hskip)]
    exact Or.inl ⟨rfl, rfl⟩
  · rw [if_neg hskip, if_neg fun hskip' => hskip (hskips.1 hskip')]
    have hjoin : ∀ o : Option (Fact Delivery), o.bind creditedAmount = (o.map creditedAmount).join := by
      rintro (_ | f) <;> rfl
    rw [hjoin, hjoin, hhead]
    cases ((d.deliveriesOf m).head?.map creditedAmount).join with
    | none => exact Or.inl ⟨rfl, rfl⟩
    | some amount => exact Or.inr ⟨amount, fun hsent => hskip (Or.inr hsent), rfl, rfl⟩

variable (route digestOf) in
theorem Deduplicated.countP_effectsOf (h : d.Deduplicated d')
    (hhead : (d'.deliveriesOf m).head?.map creditedAmount = (d.deliveriesOf m).head?.map creditedAmount) :
    (effectsOf d' route digestOf m).countP (·.duplicateEffect) ≤
        (effectsOf d route digestOf m).countP (·.duplicateEffect) ∧
      (effectsOf d route digestOf m).countP (·.hasUniqueAuthorisedSource) ≤
        (effectsOf d' route digestOf m).countP (·.hasUniqueAuthorisedSource) := by
  rcases h.effectsOf_cases route digestOf hhead with ⟨hnone, hnone'⟩ | ⟨amount, hsent, hone, hone'⟩
  · rw [hnone, hnone']
    exact ⟨le_rfl, le_rfl⟩
  · obtain ⟨hduplicate, hunique⟩ := h.flags route digestOf hsent amount
    rw [hone, hone', List.countP_singleton, List.countP_singleton, List.countP_singleton, List.countP_singleton]
    constructor
    · split_ifs with hd' hd hd
      · exact le_rfl
      · exact absurd (hduplicate hd') hd
      · exact Nat.zero_le 1
      · exact le_rfl
    · split_ifs with hd hd' hd'
      · exact le_rfl
      · exact absurd (hunique hd) hd'
      · exact Nat.zero_le 1
      · exact le_rfl

end RouteDirection
end IcttSentinel.Collector
