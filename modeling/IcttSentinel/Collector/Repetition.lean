/-
Which repeated logs an assessment shows. Comparing the assessments of differently ordered deduplicated facts
tells whether the sends and deliveries of a message read the same, and counting the flags of the effects
tells whether one of its logs is repeated.
-/
import IcttSentinel.Collector.Redelivery

namespace IcttSentinel.Collector

open IcttSentinel.InvariantCore IcttSentinel.Lib

/-! ## Deduplicating -/

section Once

variable {T : Type} [DecidableEq T]

/-- The first of every repeated fact, of a list with the same facts. -/
theorem deduplicated_eraseDups {l l' : List (Fact T)} (h : Keyed.Determines coordinate l) (hmem : ∀ f, f ∈ l' ↔ f ∈ l) :
    Deduplicated l l'.eraseDups where
  mem f := by rw [List.mem_eraseDups, hmem]
  once := by
    refine (nodup_eraseDups l').map_on fun f hf g hg hfg => ?_
    rw [List.mem_eraseDups, hmem] at hf hg
    exact h f hf g hg hfg

omit [DecidableEq T] in
theorem mem_cons_self_iff {l : List (Fact T)} {f : Fact T} (hf : f ∈ l) (g : Fact T) : g ∈ f :: l ↔ g ∈ l := by
  rw [List.mem_cons, or_iff_right_iff_imp]
  rintro rfl
  exact hf

end Once

/-- Within each kind of facts of a side, the coordinates of a log identify the fact. -/
structure SideFacts.Identified (s : SideFacts) : Prop where
  sent : Keyed.Determines coordinate s.sent
  unsupportedSends : Keyed.Determines coordinate s.unsupportedSends
  delivered : Keyed.Determines coordinate s.delivered
  executed : Keyed.Determines coordinate s.executed
  failed : Keyed.Determines coordinate s.failed

/-- A side with the first of every repeated fact. -/
def SideFacts.once (s : SideFacts) : SideFacts where
  blockchainId := s.blockchainId
  pin := s.pin
  sent := s.sent.eraseDups
  unsupportedSends := s.unsupportedSends.eraseDups
  delivered := s.delivered.eraseDups
  executed := s.executed.eraseDups
  failed := s.failed.eraseDups

theorem SideFacts.Identified.once {s : SideFacts} (h : s.Identified) : s.Deduplicated s.once where
  blockchainId := rfl
  pin := rfl
  sent := deduplicated_eraseDups h.sent fun _ => Iff.rfl
  unsupportedSends := deduplicated_eraseDups h.unsupportedSends fun _ => Iff.rfl
  delivered := deduplicated_eraseDups h.delivered fun _ => Iff.rfl
  executed := deduplicated_eraseDups h.executed fun _ => Iff.rfl
  failed := deduplicated_eraseDups h.failed fun _ => Iff.rfl

/-- A side with the first of every repeated fact, one send in front. -/
def SideFacts.sentFirst (s : SideFacts) (f : Fact TokensSentEvent) : SideFacts :=
  { s.once with sent := (f :: s.sent).eraseDups }

theorem SideFacts.Identified.sentFirst {s : SideFacts} (h : s.Identified) {f : Fact TokensSentEvent} (hf : f ∈ s.sent) :
    s.Deduplicated (s.sentFirst f) :=
  { h.once with sent := deduplicated_eraseDups h.sent (mem_cons_self_iff hf) }

/-- A side with the first of every repeated fact, one delivery in front. -/
def SideFacts.deliveredFirst (s : SideFacts) (f : Fact Delivery) : SideFacts :=
  { s.once with delivered := (f :: s.delivered).eraseDups }

theorem SideFacts.Identified.deliveredFirst {s : SideFacts} (h : s.Identified) {f : Fact Delivery} (hf : f ∈ s.delivered) :
    s.Deduplicated (s.deliveredFirst f) :=
  { h.once with delivered := deduplicated_eraseDups h.delivered (mem_cons_self_iff hf) }

namespace RouteDirection

/-- A direction with other facts on its two sides. -/
def between (d : RouteDirection) (source destination : SideFacts) : RouteDirection := { d with source, destination }

theorem deduplicated_between {d : RouteDirection} {s t : SideFacts} (hs : d.source.Deduplicated s)
    (ht : d.destination.Deduplicated t) : d.Deduplicated (d.between s t) where
  direction := rfl
  isRouteSend := rfl
  isRouteDelivery := rfl
  source := hs
  destination := ht

section Unchanged

variable (d e : RouteDirection) (route : Route) (digestOf : Fact TokensSentEvent → String → String)

/-- Deduplicating the facts of both sides leaves envelopes and effects as they are, up to order. -/
structure Unchanged : Prop where
  pending : ∀ s t, d.source.Deduplicated s → d.destination.Deduplicated t →
    ((assessDirection d route digestOf).pending ++ (assessDirection e route digestOf).pending).Perm
      ((assessDirection (d.between s t) route digestOf).pending ++ (assessDirection (e.between t s) route digestOf).pending)
  effects : ∀ s t, d.source.Deduplicated s → d.destination.Deduplicated t →
    ((assessDirection d route digestOf).effects ++ (assessDirection e route digestOf).effects).Perm
      ((assessDirection (d.between s t) route digestOf).effects ++ (assessDirection (e.between t s) route digestOf).effects)

variable {d e route digestOf} {m : String} {s t : SideFacts}

theorem mem_pending {p : PendingEnvelope} (h : p ∈ (assessDirection d route digestOf).pending) : p.direction = d.direction := by
  rw [pending_assessDirection] at h
  obtain ⟨m, -, hp⟩ := List.mem_flatMap.1 h
  exact (messageKey_of_mem_pendingOf hp).2

/-- Then every message keeps its envelope. -/
theorem Unchanged.pendingOf_eq (h : Unchanged d e route digestOf) (hdirections : d.direction ≠ e.direction)
    (hs : d.source.Deduplicated s) (ht : d.destination.Deduplicated t) :
    pendingOf d route m = pendingOf (d.between s t) route m := by
  have hown : ∀ d' e' : RouteDirection, d'.direction = d.direction → e'.direction = e.direction →
      (((assessDirection d' route digestOf).pending ++ (assessDirection e' route digestOf).pending).filter
        (fun p => p.direction = d.direction)).filter (fun p => p.messageKey = m) = pendingOf d' route m := by
    intro d' e' hd' he'
    have hkept : (assessDirection d' route digestOf).pending.filter (fun p => decide (p.direction = d.direction)) =
        (assessDirection d' route digestOf).pending :=
      List.filter_eq_self.2 fun p hp => decide_eq_true ((mem_pending hp).trans hd')
    have hdropped : (assessDirection e' route digestOf).pending.filter (fun p => decide (p.direction = d.direction)) = [] :=
      List.filter_eq_nil_iff.2 fun p hp hp' =>
        hdirections ((of_decide_eq_true hp').symm.trans ((mem_pending hp).trans he'))
    rw [List.filter_append, hkept, hdropped, List.append_nil]
    exact filter_pending
  have hperm := ((h.pending s t hs ht).filter (fun p => p.direction = d.direction)).filter (fun p => p.messageKey = m)
  rw [hown d e rfl rfl, hown (d.between s t) (e.between t s) rfl rfl] at hperm
  -- there is one envelope at most
  unfold pendingOf at hperm ⊢
  split_ifs at hperm ⊢ with hm hm' hm'
  · rfl
  · exact hperm.nil_eq
  · exact hperm.eq_nil
  · cases hleft : (d.sendsOf m).head?.map (d.envelope route) with
    | none =>
      rw [hleft] at hperm
      exact hperm.nil_eq
    | some p =>
      rw [hleft] at hperm
      exact List.singleton_perm.1 hperm

theorem Unchanged.effectsOf_perm (h : Unchanged d e route digestOf) (m : String)
    (hs : d.source.Deduplicated s) (ht : d.destination.Deduplicated t) :
    (effectsOf d route digestOf m ++ effectsOf e route digestOf m).Perm
      (effectsOf (d.between s t) route digestOf m ++ effectsOf (e.between t s) route digestOf m) := by
  have hperm := (h.effects s t hs ht).filter fun e => e.messageKey = m
  rwa [List.filter_append, List.filter_append, filter_effects, filter_effects, filter_effects, filter_effects] at hperm

/-- So the sends of a message in flight read the same, whichever comes first. -/
theorem Unchanged.inFlight (h : Unchanged d e route digestOf) (hdirections : d.direction ≠ e.direction)
    (hsource : d.source.Identified) (hdestination : d.destination.Identified) (hm : ¬ d.Executed m)
    {f g : Fact TokensSentEvent} (hf : f ∈ d.sendsOf m) (hg : g ∈ d.sendsOf m) :
    f.value.amount = g.value.amount ∧ d.ageOf f = d.ageOf g := by
  have hfirst : ∀ x ∈ d.sendsOf m, (d.sendsOf m).head?.map (d.envelope route) = some (d.envelope route x) := by
    intro x hx
    obtain ⟨hx, hid⟩ := List.mem_filter.1 hx
    obtain ⟨hx, hsend⟩ := List.mem_filter.1 hx
    have hs : d.source.Deduplicated (d.source.sentFirst x) := hsource.sentFirst hx
    have hpending := h.pendingOf_eq (m := m) hdirections hs hdestination.once
    have hm' : ¬ (d.between (d.source.sentFirst x) d.destination.once).Executed m := fun hm' =>
      hm ((deduplicated_between hs hdestination.once).executed_iff.1 hm')
    unfold pendingOf at hpending
    have hhead : ((d.between (d.source.sentFirst x) d.destination.once).sendsOf m).head? = some x := by
      rw [head?_sendsOf]
      show (x :: d.source.sent).eraseDups.find? _ = some x
      rw [find?_eraseDups, List.find?_cons_of_pos]
      show (d.isRouteSend x.value && _) = true
      rw [hsend, hid]
      rfl
    rw [if_neg hm, if_neg hm', hhead, Option.map_some, (deduplicated_between hs hdestination.once).envelope] at hpending
    exact Option.toList_eq_singleton_iff.1 hpending
  have hfg := Option.some_inj.1 ((hfirst f hf).symm.trans (hfirst g hg))
  exact ⟨congrArg PendingEnvelope.amount hfg, congrArg PendingEnvelope.ageSeconds hfg⟩

/-- What a message credits is read off its own facts. -/
theorem effectsOf_congr {d' : RouteDirection} (hsends : d.sendsOf m = d'.sendsOf m)
    (hdeliveries : d.deliveriesOf m = d'.deliveriesOf m) (hexecutions : d.executionsOf m = d'.executionsOf m)
    (hid : d.source.blockchainId = d'.source.blockchainId) :
    effectsOf d route digestOf m = effectsOf d' route digestOf m := by
  rw [effectsOf_eq, effectsOf_eq]
  unfold credit onlySend
  rw [hsends, hdeliveries, hexecutions, hid]

/-- Nothing is credited twice in one direction, so equal amounts are credited whichever delivery comes first. -/
theorem Unchanged.amounts (h : Unchanged d e route digestOf) (hsource : d.source.Identified)
    (hdestination : d.destination.Identified) (hexecuted : d.executionsOf m ≠ [])
    (hsent : d.sendsOf m ≠ []) {f g : Fact Delivery} (hf : f ∈ d.deliveriesOf m) (hg : g ∈ d.deliveriesOf m) :
    creditedAmount f = creditedAmount g := by
  have hfirst : ∀ x ∈ d.deliveriesOf m, creditedAmount x = (d.deliveriesOf m).head?.bind creditedAmount := by
    intro x hx
    obtain ⟨hx, hid⟩ := List.mem_filter.1 hx
    obtain ⟨hx, hdelivery⟩ := List.mem_filter.1 hx
    -- the other direction does not read what is delivered here
    have ht : d.destination.Deduplicated (d.destination.deliveredFirst x) := hdestination.deliveredFirst hx
    have hother : effectsOf (e.between d.destination.once d.source.once) route digestOf m =
        effectsOf (e.between (d.destination.deliveredFirst x) d.source.once) route digestOf m :=
      effectsOf_congr rfl rfl rfl rfl
    have hperm := (h.effectsOf_perm m hsource.once hdestination.once).symm.trans (h.effectsOf_perm m hsource.once ht)
    rw [hother, List.perm_append_right_iff] at hperm
    have honce := deduplicated_between hsource.once hdestination.once
    have hahead := deduplicated_between hsource.once ht
    have hhead : ((d.between d.source.once d.destination.once).deliveriesOf m).head? = (d.deliveriesOf m).head? := by
      rw [head?_deliveriesOf, head?_deliveriesOf]
      exact find?_eraseDups _ _
    have hhead' : ((d.between d.source.once (d.destination.deliveredFirst x)).deliveriesOf m).head? = some x := by
      rw [head?_deliveriesOf]
      show (x :: d.destination.delivered).eraseDups.find? _ = some x
      rw [find?_eraseDups, List.find?_cons_of_pos]
      show (d.isRouteDelivery x.value && _) = true
      rw [hdelivery, hid]
      rfl
    have hcounts : ∀ d' : RouteDirection, d.Deduplicated d' →
        ¬ (d'.executionsOf m = [] ∨ d'.sendsOf m = []) := by
      rintro d' hd' (hnone | hnone)
      · exact hexecuted ((eq_nil_congr hd'.mem_executionsOf).1 hnone)
      · exact hsent ((eq_nil_congr hd'.mem_sendsOf).1 hnone)
    rw [effectsOf_eq, effectsOf_eq, if_neg (hcounts _ honce), if_neg (hcounts _ hahead), hhead, hhead'] at hperm
    show (some x).bind creditedAmount = _
    cases hamount : (some x).bind creditedAmount with
    | none =>
      rw [hamount] at hperm
      have hnil := hperm.eq_nil
      rw [Option.toList_eq_nil_iff, Option.map_eq_none_iff] at hnil
      exact hnil.symm
    | some amount =>
      rw [hamount] at hperm
      have hsingle := List.perm_singleton.1 hperm
      rw [Option.toList_eq_singleton_iff, Option.map_eq_some_iff] at hsingle
      obtain ⟨amount', hamount', hcredit⟩ := hsingle
      rw [hamount']
      exact congrArg (fun effect : CreditedEffect => some effect.amount) hcredit.symm
  exact (hfirst f hf).trans (hfirst g hg).symm

/-- The flags of a credited effect say the same before and after its facts are deduplicated. -/
theorem Unchanged.flags (h : Unchanged d e route digestOf) (hsides : e.source = d.destination ∧ e.destination = d.source)
    (hsource : d.source.Identified) (hdestination : d.destination.Identified) (hm : d.Credited m) :
    ((d.sendsOf m).length > 1 → Several (d.sendsOf m)) ∧
      ((d.executionsOf m).length > 1 ∨ (d.deliveriesOf m).length > 1 →
        Several (d.executionsOf m) ∨ Several (d.deliveriesOf m)) := by
  have honce := deduplicated_between hsource.once hdestination.once
  have honce' : e.Deduplicated (e.between d.destination.once d.source.once) := by
    apply deduplicated_between
    · rw [hsides.1]
      exact hdestination.once
    · rw [hsides.2]
      exact hsource.once
  -- the first delivery, and so the amount, survives the deduplication
  have hhead : ((d.between d.source.once d.destination.once).deliveriesOf m).head?.map creditedAmount =
      (d.deliveriesOf m).head?.map creditedAmount := by
    rw [head?_deliveriesOf, head?_deliveriesOf]
    exact congrArg _ (find?_eraseDups _ _)
  have hhead' : ((e.between d.destination.once d.source.once).deliveriesOf m).head?.map creditedAmount =
      (e.deliveriesOf m).head?.map creditedAmount := by
    rw [head?_deliveriesOf, head?_deliveriesOf, hsides.2]
    exact congrArg _ (find?_eraseDups _ _)
  have hperm := h.effectsOf_perm m hsource.once hdestination.once
  have hduplicates := hperm.countP_eq (·.duplicateEffect)
  have huniques := hperm.countP_eq (·.hasUniqueAuthorisedSource)
  rw [List.countP_append, List.countP_append] at hduplicates huniques
  -- deduplicating changes the flags one way only, so where their number stays each of them stays
  obtain ⟨hdup, huniq⟩ := honce.countP_effectsOf route digestOf hhead
  obtain ⟨hdup', huniq'⟩ := honce'.countP_effectsOf route digestOf hhead'
  rcases honce.effectsOf_cases route digestOf hhead with ⟨hnone, -⟩ | ⟨amount, hsent, hone, hone'⟩
  · obtain ⟨⟨hexecuted, -⟩, hsent, f, hf, hfamount⟩ := hm
    rw [effectsOf_eq, if_neg (not_or.2 ⟨hexecuted, hsent⟩), Option.toList_eq_nil_iff, Option.map_eq_none_iff] at hnone
    cases hdeliveries : d.deliveriesOf m with
    | nil =>
      rw [hdeliveries] at hf
      cases hf
    | cons g rest =>
      rw [hdeliveries] at hnone
      have hg : g ∈ d.deliveriesOf m := by
        rw [hdeliveries]
        exact List.mem_cons_self
      exact absurd ((h.amounts hsource hdestination hexecuted hsent hf hg).trans hnone) hfamount
  · rw [hone, hone', List.countP_singleton, List.countP_singleton] at hdup huniq
    rw [hone, hone', List.countP_singleton, List.countP_singleton] at hduplicates huniques
    -- one effect on each side: equal counts are equal flags
    have hduplicate : (credit (d.between d.source.once d.destination.once) route digestOf m amount).duplicateEffect =
        (credit d route digestOf m amount).duplicateEffect := by
      rw [Bool.eq_iff_iff]
      split_ifs at hduplicates hdup with h₁ h₂ h₂
      · exact iff_of_true h₂ h₁
      · omega
      · omega
      · exact iff_of_false h₂ h₁
    have hunique : (credit (d.between d.source.once d.destination.once) route digestOf m amount).hasUniqueAuthorisedSource =
        (credit d route digestOf m amount).hasUniqueAuthorisedSource := by
      rw [Bool.eq_iff_iff]
      split_ifs at huniques huniq with h₁ h₂ h₂
      · exact iff_of_true h₂ h₁
      · omega
      · omega
      · exact iff_of_false h₂ h₁
    unfold credit at hduplicate hunique
    simp only [← Bool.decide_or, decide_eq_decide] at hduplicate hunique
    have hseveral := several_iff (honce.nodup_sendsOf (m := m))
    have hnil := eq_nil_congr (honce.mem_sendsOf (m := m))
    rw [several_congr honce.mem_sendsOf] at hseveral
    rw [← List.length_eq_zero_iff, ← List.length_eq_zero_iff] at hnil
    constructor
    · intro hlength
      apply hseveral.2
      omega
    · intro hlength
      have hlength := hduplicate.2 hlength
      rwa [← several_iff honce.nodup_executionsOf,
        ← several_iff honce.nodup_deliveriesOf, several_congr honce.mem_executionsOf,
        several_congr honce.mem_deliveriesOf] at hlength

/-- Deduplicating leaves a direction as it is only where no log that counts is repeated. -/
theorem Unchanged.steady (h : Unchanged d e route digestOf) (hdirections : d.direction ≠ e.direction)
    (hsides : e.source = d.destination ∧ e.destination = d.source) (hsource : d.source.Identified)
    (hdestination : d.destination.Identified) : d.Steady where
  inFlight _ hm _ hf _ hg := h.inFlight hdirections hsource hdestination hm hf hg
  amounts _ hexecuted hsent _ hf _ hg := h.amounts hsource hdestination hexecuted hsent hf hg
  sends _ hm := (h.flags hsides hsource hdestination hm).1
  effects _ hm := (h.flags hsides hsource hdestination hm).2

/-- The two directions the other way round. -/
theorem Unchanged.swap (h : Unchanged d e route digestOf)
    (hsides : e.source = d.destination ∧ e.destination = d.source) : Unchanged e d route digestOf where
  pending s t hs ht := by
    rw [hsides.1] at hs
    rw [hsides.2] at ht
    exact List.perm_append_comm.trans ((h.pending t s ht hs).trans List.perm_append_comm)
  effects s t hs ht := by
    rw [hsides.1] at hs
    rw [hsides.2] at ht
    exact List.perm_append_comm.trans ((h.effects t s ht hs).trans List.perm_append_comm)

end Unchanged

end RouteDirection
/-! ## Redelivered facts of a route -/

section Route

/-- Two assessments have the same transfers in flight, the same effects and the same open edges. -/
structure RouteAssessment.Alike (a b : RouteAssessment) : Prop where
  pending : a.pending.Perm b.pending
  effects : a.effects.Perm b.effects
  openEdges : a.openEdges.Perm b.openEdges

variable (route : Route) (home remote : SideFacts) (digestOf : Fact TokensSentEvent → String → String)

/-- Repeated and reordered facts are assessed like the deduplicated ones exactly where no log that counts is
repeated: the only send of a credited message, or its one execution and its one delivery. -/
theorem redelivery_harmless_iff (hhome : home.Identified) (hremote : remote.Identified) :
    (∀ home' remote', home.Deduplicated home' → remote.Deduplicated remote' →
      (assessRoute route home remote digestOf).Alike (assessRoute route home' remote' digestOf)) ↔
      (homeToRemote route home remote).Steady ∧ (remoteToHome route home remote).Steady := by
  constructor
  · intro halike
    have hunchanged : (homeToRemote route home remote).Unchanged (remoteToHome route home remote) route digestOf :=
      ⟨fun s t hs ht => (halike s t hs ht).pending, fun s t hs ht => (halike s t hs ht).effects⟩
    have hdirections : (homeToRemote route home remote).direction ≠ (remoteToHome route home remote).direction := by
      intro h
      cases h
    refine ⟨hunchanged.steady hdirections ⟨rfl, rfl⟩ hhome hremote, ?_⟩
    exact (hunchanged.swap ⟨rfl, rfl⟩).steady hdirections.symm ⟨rfl, rfl⟩ hremote hhome
  · rintro ⟨hout, hback⟩ home' remote' hhome' hremote'
    have h : (homeToRemote route home remote).Deduplicated (homeToRemote route home' remote') :=
      RouteDirection.deduplicated_between hhome' hremote'
    have h' : (remoteToHome route home remote).Deduplicated (remoteToHome route home' remote') :=
      RouteDirection.deduplicated_between hremote' hhome'
    exact ⟨(h.pending_perm hout).append (h'.pending_perm hback), (h.effects_perm hout).append (h'.effects_perm hback),
      h.openEdges_perm.append h'.openEdges_perm⟩

end Route

/-! ### A log returned twice -/

section Samples

private def relayRoute : Route where
  homeBlockchainId := "0xaa"
  tokenHomeAddress := "0x1111"
  remoteBlockchainId := "0xbb"
  remoteAddress := "0x2222"

private def relayCoordinate (logIndex : Int) : LogCoordinate where
  blockNumber := 5
  blockHash := "0xb10c"
  txHash := "0x7a"
  logIndex
  blockTimestamp := 5

private def relaySend : Fact TokensSentEvent where
  value :=
    { messageId := "0x01", sender := "0x5e", destinationBlockchainId := "0xbb",
      destinationTokenTransferrerAddress := "0x2222", recipient := "0x4e", multiHopFallback := "0x00", amount := 100 }
  coord := relayCoordinate 0

private def relayDelivery : Fact Delivery where
  value :=
    { messageId := "0x01", sourceBlockchainId := "0xaa", originSenderAddress := "0x1111", destinationAddress := "0x2222",
      payload := { messageType := .singleHopSend, singleHopSend := some { recipient := "0x4e", amount := 100 } } }
  coord := relayCoordinate 0

private def relayOutcome (logIndex : Int) : Fact MessageOutcomeEvent where
  value := { messageId := "0x01", sourceBlockchainId := "0xaa" }
  coord := relayCoordinate logIndex

private def relayPin : PinRef where
  blockNumber := 20
  blockHash := "0xb10c"
  timestamp := 20

/-- The home sends 100. -/
private def relayHome : SideFacts where
  blockchainId := "0xaa"
  pin := relayPin
  sent := [relaySend]
  unsupportedSends := []
  delivered := []
  executed := []
  failed := []

/-- The remote delivers it, fails once and executes it at the second attempt; its provider returns the logs of
the outcomes as often as given. -/
private def relayRemote (executions failures : Nat) : SideFacts where
  blockchainId := "0xbb"
  pin := relayPin
  sent := []
  unsupportedSends := []
  delivered := [relayDelivery]
  executed := List.replicate executions (relayOutcome 2)
  failed := List.replicate failures (relayOutcome 1)

private theorem determines_replicate {T : Type} (n : Nat) (f : Fact T) :
    Keyed.Determines coordinate (List.replicate n f) :=
  fun _ ha _ hb _ => (List.eq_of_mem_replicate ha).trans (List.eq_of_mem_replicate hb).symm

private theorem relayHome_identified : relayHome.Identified where
  sent := determines_replicate 1 relaySend
  unsupportedSends := fun _ h => by cases h
  delivered := fun _ h => by cases h
  executed := fun _ h => by cases h
  failed := fun _ h => by cases h

private theorem relayRemote_identified (executions failures : Nat) : (relayRemote executions failures).Identified where
  sent := fun _ h => by cases h
  unsupportedSends := fun _ h => by cases h
  delivered := determines_replicate 1 relayDelivery
  executed := determines_replicate executions _
  failed := determines_replicate failures _

/-- Where nothing but failures is returned more than once, nothing that counts is repeated. -/
private theorem steady_of_single {d : RouteDirection} (hsent : d.source.sent.length ≤ 1)
    (hdelivered : d.destination.delivered.length ≤ 1) (hexecuted : d.destination.executed.length ≤ 1) : d.Steady := by
  have hone : ∀ {T : Type} {l : List (Fact T)} {f g : Fact T}, l.length ≤ 1 → f ∈ l → g ∈ l → f = g := by
    intro T l f g hlength hf hg
    by_contra hne
    exact absurd (Several.length ⟨f, hf, g, hg, hne⟩) (not_lt.2 hlength)
  have hsends : ∀ m, (d.sendsOf m).length ≤ 1 := fun m =>
    (List.length_filter_le _ _).trans ((List.length_filter_le _ _).trans hsent)
  have hdeliveries : ∀ m, (d.deliveriesOf m).length ≤ 1 := fun m =>
    (List.length_filter_le _ _).trans ((List.length_filter_le _ _).trans hdelivered)
  have hexecutions : ∀ m, (d.executionsOf m).length ≤ 1 := fun m => (List.length_filter_le _ _).trans hexecuted
  constructor
  · intro m _ f hf g hg
    obtain rfl : f = g := hone (hsends m) hf hg
    exact ⟨rfl, rfl⟩
  · intro m _ _ f hf g hg
    obtain rfl : f = g := hone (hdeliveries m) hf hg
    rfl
  · intro m _ hlength
    exact absurd (hsends m) (not_le.2 hlength)
  · rintro m _ (hlength | hlength)
    · exact absurd (hexecutions m) (not_le.2 hlength)
    · exact absurd (hdeliveries m) (not_le.2 hlength)

/-- A failure returned twice is harmless. -/
theorem redelivery_harmless_iff_sample :
    (assessRoute relayRoute relayHome (relayRemote 1 2) fun f id => id ++ f.coord.txHash).Alike
      (assessRoute relayRoute relayHome.once (relayRemote 1 2).once fun f id => id ++ f.coord.txHash) :=
  (redelivery_harmless_iff relayRoute relayHome (relayRemote 1 2) (fun f id => id ++ f.coord.txHash) relayHome_identified
    (relayRemote_identified 1 2)).2
    ⟨steady_of_single (by decide) (by decide) (by decide), steady_of_single (by decide) (by decide) (by decide)⟩ _ _
    relayHome_identified.once (relayRemote_identified 1 2).once

/-- An execution returned twice makes a single-hop transfer a duplicate effect. -/
theorem redelivered_execution_is_duplicate :
    relayHome.Deduplicated relayHome.once ∧ (relayRemote 2 1).Deduplicated (relayRemote 2 1).once ∧
      (assessRoute relayRoute relayHome (relayRemote 2 1) fun f id => id ++ f.coord.txHash).effects.map
        (·.duplicateEffect) = [true] ∧
      (assessRoute relayRoute relayHome.once (relayRemote 2 1).once fun f id => id ++ f.coord.txHash).effects.map
        (·.duplicateEffect) = [false] :=
  ⟨relayHome_identified.once, (relayRemote_identified 2 1).once, by decide +kernel, by decide +kernel⟩

end Samples

end IcttSentinel.Collector
