/-
The causally closed watermark of packages/state-machine/src/watermark.ts: a destination effect inside
the cut obliges its message to have its source facts there too. What closure means, what an open edge
reports, and which higher cuts leave a closed cut closed.
-/
import IcttSentinel.StateMachine.Aggregate
import Mathlib.Data.Prod.Lex

namespace IcttSentinel.StateMachine

open IcttSentinel.Lib

/-- `ChainCut`: the height and the hash a chain is pinned at. -/
structure ChainCut where
  blockchainId : String
  blockNumber : Int
  blockHash : String
  deriving DecidableEq, Repr

/-- The pinned cuts, each under the chain it was filed for. -/
abbrev Cuts := Keyed (Prod.fst : String × ChainCut → String)

inductive CutOutcome where
  | closed
  | opened
  | gap
  deriving DecidableEq, Repr

inductive OpenEdgeReason where
  | sourceFactOutsideCut
  | sourceFactNotObserved
  deriving DecidableEq, Repr

structure OpenEdge where
  messageKey : String
  /-- The chain whose fact is still outside the cut. -/
  blockchainId : String
  reason : OpenEdgeReason
  deriving DecidableEq, Repr

structure CutAssessment where
  outcome : CutOutcome
  chainsWithoutCut : List String
  openEdges : List OpenEdge
  closedMessages : List String
  deriving DecidableEq, Repr

section Assess

variable (cuts : Cuts)

/-- `inCut`; `none` is the `null` of a chain without a cut. -/
def inCut (position : FactPosition) : Option Bool :=
  (cuts.lookup position.blockchainId).map fun row => decide (position.blockNumber ≤ row.2.blockNumber)

def destinationInCut (aggregate : MessageAggregate) : List TransitionInput :=
  aggregate.facts.rows.filter fun f => destinationEffectKinds.contains f.kind && inCut cuts f.position = some true

def sourceFactsOf (aggregate : MessageAggregate) : List TransitionInput :=
  aggregate.facts.rows.filter fun f => sourceEffectKinds.contains f.kind || f.kind = .icmSent

/-- `outside`: the source facts that are not inside the cut. -/
def outsideCut (aggregate : MessageAggregate) : List TransitionInput :=
  (sourceFactsOf aggregate).filter fun f => inCut cuts f.position ≠ some true

/-- What one message adds to `openEdges`. -/
def edgesOf (aggregate : MessageAggregate) : List OpenEdge :=
  -- a message nobody has executed inside the cut imposes nothing
  if (destinationInCut cuts aggregate).isEmpty then []
  else if (sourceFactsOf aggregate).isEmpty then
    [{ messageKey := messageKeyOf aggregate.key
       blockchainId := aggregate.key.sourceBlockchainId
       reason := .sourceFactNotObserved }]
  else (outsideCut cuts aggregate).map fun f =>
    { messageKey := messageKeyOf aggregate.key
      blockchainId := f.position.blockchainId
      reason := .sourceFactOutsideCut }

/-- Whether one message is added to `closedMessages`. -/
def closes (aggregate : MessageAggregate) : Bool :=
  !(destinationInCut cuts aggregate).isEmpty && !(sourceFactsOf aggregate).isEmpty && (outsideCut cuts aggregate).isEmpty

/-- What one message adds to `chainsWithoutCut`. -/
def uncutChainsOf (aggregate : MessageAggregate) : List String :=
  (aggregate.facts.rows.filter fun f => !cuts.has f.position.blockchainId).map (·.position.blockchainId)

def assessCut (aggregates : List MessageAggregate) : CutAssessment :=
  let chainsWithoutCut := (aggregates.flatMap (uncutChainsOf cuts)).eraseDups
  let openEdges := aggregates.flatMap (edgesOf cuts)
  { outcome := if chainsWithoutCut.length > 0 then .gap else if openEdges.length > 0 then .opened else .closed
    chainsWithoutCut := sortStrings chainsWithoutCut
    -- the comparator of the source never returns 0, so it leaves the order of equal edges open
    openEdges := sortOn (fun e => toLex (codeUnits e.messageKey, codeUnits e.blockchainId)) openEdges
    closedMessages := sortStrings ((aggregates.filter (closes cuts)).map fun a => messageKeyOf a.key) }

/-! ## Causal closure -/

/-- A position is inside the cut of its chain. -/
def InCut (position : FactPosition) : Prop :=
  ∃ row, cuts.lookup position.blockchainId = some row ∧ position.blockNumber ≤ row.2.blockNumber

/-- A fact of the cause: the accounting at the source, or the send. -/
def IsSourceFact (f : TransitionInput) : Prop := f.kind ∈ sourceEffectKinds ∨ f.kind = .icmSent

/-- A destination effect of the message is inside the cut. -/
def Obliged (aggregate : MessageAggregate) : Prop :=
  ∃ f ∈ aggregate.facts.rows, f.kind ∈ destinationEffectKinds ∧ InCut cuts f.position

/-- The cause of the message was observed, and all of it is inside the cut. -/
def Caused (aggregate : MessageAggregate) : Prop :=
  (∃ f ∈ aggregate.facts.rows, IsSourceFact f) ∧ ∀ f ∈ aggregate.facts.rows, IsSourceFact f → InCut cuts f.position

/-- A message whose effect is inside the cut and whose cause is not. -/
def Violating (aggregate : MessageAggregate) : Prop := Obliged cuts aggregate ∧ ¬ Caused cuts aggregate

variable {cuts} {aggregates aggregates' : List MessageAggregate} {aggregate : MessageAggregate}

theorem inCut_iff {position : FactPosition} : inCut cuts position = some true ↔ InCut cuts position := by
  unfold inCut InCut
  cases cuts.lookup position.blockchainId with
  | none => simp
  | some row => simp

theorem destinationInCut_eq_nil : destinationInCut cuts aggregate = [] ↔ ¬ Obliged cuts aggregate := by
  unfold destinationInCut Obliged
  rw [List.filter_eq_nil_iff, not_exists]
  simp only [Bool.and_eq_true, List.contains_iff_mem, decide_eq_true_eq, inCut_iff, not_and]

theorem mem_sourceFactsOf {f : TransitionInput} :
    f ∈ sourceFactsOf aggregate ↔ f ∈ aggregate.facts.rows ∧ IsSourceFact f := by
  unfold sourceFactsOf IsSourceFact
  rw [List.mem_filter, Bool.or_eq_true, List.contains_iff_mem, decide_eq_true_eq]

theorem mem_outsideCut {f : TransitionInput} :
    f ∈ outsideCut cuts aggregate ↔ f ∈ aggregate.facts.rows ∧ IsSourceFact f ∧ ¬ InCut cuts f.position := by
  unfold outsideCut
  rw [List.mem_filter, mem_sourceFactsOf, decide_eq_true_eq, ne_eq, inCut_iff, and_assoc]

/-- The edges of a message: one when its cause was not observed, else one for every part of the cause
outside the cut. -/
theorem mem_edgesOf {e : OpenEdge} :
    e ∈ edgesOf cuts aggregate ↔ Obliged cuts aggregate ∧
      (((∀ f ∈ aggregate.facts.rows, ¬ IsSourceFact f) ∧
        e = ⟨messageKeyOf aggregate.key, aggregate.key.sourceBlockchainId, .sourceFactNotObserved⟩) ∨
      ∃ f ∈ aggregate.facts.rows, IsSourceFact f ∧ ¬ InCut cuts f.position ∧
        e = ⟨messageKeyOf aggregate.key, f.position.blockchainId, .sourceFactOutsideCut⟩) := by
  have hsource : sourceFactsOf aggregate = [] ↔ ∀ f ∈ aggregate.facts.rows, ¬ IsSourceFact f := by
    rw [List.eq_nil_iff_forall_not_mem]
    simp only [mem_sourceFactsOf, not_and]
  unfold edgesOf
  split_ifs with hdestination hnone
  · rw [List.isEmpty_iff, destinationInCut_eq_nil] at hdestination
    simp [hdestination]
  · rw [List.isEmpty_iff, destinationInCut_eq_nil, not_not] at hdestination
    rw [List.isEmpty_iff, hsource] at hnone
    rw [List.mem_singleton]
    constructor
    · exact fun he => ⟨hdestination, Or.inl ⟨hnone, he⟩⟩
    · rintro ⟨-, ⟨-, he⟩ | ⟨f, hf, hcause, -⟩⟩
      · exact he
      · exact absurd hcause (hnone f hf)
  · rw [List.isEmpty_iff, destinationInCut_eq_nil, not_not] at hdestination
    rw [List.isEmpty_iff, hsource] at hnone
    rw [List.mem_map]
    constructor
    · rintro ⟨f, hf, rfl⟩
      obtain ⟨hf, hcause, hout⟩ := mem_outsideCut.1 hf
      exact ⟨hdestination, Or.inr ⟨f, hf, hcause, hout, rfl⟩⟩
    · rintro ⟨-, ⟨hnone', -⟩ | ⟨f, hf, hcause, hout, rfl⟩⟩
      · exact absurd hnone' hnone
      · exact ⟨f, mem_outsideCut.2 ⟨hf, hcause, hout⟩, rfl⟩

/-- A message has an edge exactly when it violates closure. -/
theorem exists_mem_edgesOf : (∃ e, e ∈ edgesOf cuts aggregate) ↔ Violating cuts aggregate := by
  simp only [mem_edgesOf]
  unfold Violating Caused
  constructor
  · rintro ⟨e, hobliged, hedge⟩
    refine ⟨hobliged, fun hcaused => ?_⟩
    obtain ⟨⟨f, hf, hcause⟩, hinside⟩ := hcaused
    rcases hedge with ⟨hnone, -⟩ | ⟨g, hg, hcause', hout, -⟩
    · exact hnone f hf hcause
    · exact hout (hinside g hg hcause')
  · rintro ⟨hobliged, hcaused⟩
    by_cases hnone : ∀ f ∈ aggregate.facts.rows, ¬ IsSourceFact f
    · exact ⟨_, hobliged, Or.inl ⟨hnone, rfl⟩⟩
    · push Not at hnone hcaused
      obtain ⟨f, hf, hcause, hout⟩ := hcaused hnone
      exact ⟨_, hobliged, Or.inr ⟨f, hf, hcause, hout, rfl⟩⟩

theorem messageKey_of_mem_edgesOf {e : OpenEdge} (h : e ∈ edgesOf cuts aggregate) :
    e.messageKey = messageKeyOf aggregate.key := by
  obtain ⟨-, ⟨-, rfl⟩ | ⟨f, -, -, -, rfl⟩⟩ := mem_edgesOf.1 h
  · rfl
  · rfl

theorem mem_openEdges {e : OpenEdge} :
    e ∈ (assessCut cuts aggregates).openEdges ↔ ∃ a ∈ aggregates, e ∈ edgesOf cuts a := by
  unfold assessCut
  rw [mem_sortOn, List.mem_flatMap]

/-- No message has an edge exactly when none violates closure. -/
theorem openEdges_eq_nil : aggregates.flatMap (edgesOf cuts) = [] ↔ ∀ a ∈ aggregates, Obliged cuts a → Caused cuts a := by
  rw [List.flatMap_eq_nil_iff]
  refine forall₂_congr fun a _ => ?_
  have hedges : (∃ e, e ∈ edgesOf cuts a) ↔ Obliged cuts a ∧ ¬ Caused cuts a := exists_mem_edgesOf
  rw [List.eq_nil_iff_forall_not_mem, ← not_exists, hedges]
  tauto

theorem uncutChains_eq_nil : aggregates.flatMap (uncutChainsOf cuts) = [] ↔
    ∀ a ∈ aggregates, ∀ f ∈ a.facts.rows, cuts.has f.position.blockchainId = true := by
  rw [List.flatMap_eq_nil_iff]
  refine forall₂_congr fun a _ => ?_
  unfold uncutChainsOf
  rw [List.map_eq_nil_iff, List.filter_eq_nil_iff]
  simp only [Bool.not_eq_true', Bool.not_eq_false]

/-- A cut is closed when every chain has one and every effect inside it has its whole cause there. -/
theorem assessCut_closed_iff : (assessCut cuts aggregates).outcome = .closed ↔
    (∀ a ∈ aggregates, ∀ f ∈ a.facts.rows, cuts.has f.position.blockchainId = true) ∧
      ∀ a ∈ aggregates, Obliged cuts a → Caused cuts a := by
  rw [← uncutChains_eq_nil, ← openEdges_eq_nil]
  unfold assessCut
  simp only [gt_iff_lt, List.length_pos_iff_ne_nil, ne_eq, eraseDups_eq_nil]
  by_cases hgap : aggregates.flatMap (uncutChainsOf cuts) = []
  · by_cases hopen : aggregates.flatMap (edgesOf cuts) = []
    · rw [if_neg (not_not.2 hgap), if_neg (not_not.2 hopen)]
      exact iff_of_true rfl ⟨hgap, hopen⟩
    · rw [if_neg (not_not.2 hgap), if_pos hopen]
      exact iff_of_false (fun h => by cases h) fun h => hopen h.2
  · rw [if_pos hgap]
    exact iff_of_false (fun h => by cases h) fun h => hgap h.1

/-- Nothing of an assessment but the order of its edges depends on the order of the messages. -/
theorem assessCut_perm (h : aggregates.Perm aggregates') :
    (assessCut cuts aggregates).outcome = (assessCut cuts aggregates').outcome ∧
      (assessCut cuts aggregates).chainsWithoutCut = (assessCut cuts aggregates').chainsWithoutCut ∧
      (assessCut cuts aggregates).openEdges.Perm (assessCut cuts aggregates').openEdges ∧
      (assessCut cuts aggregates).closedMessages = (assessCut cuts aggregates').closedMessages := by
  have hedges : (aggregates.flatMap (edgesOf cuts)).Perm (aggregates'.flatMap (edgesOf cuts)) := h.flatMap_right _
  have hchains : (aggregates.flatMap (uncutChainsOf cuts)).Perm (aggregates'.flatMap (uncutChainsOf cuts)) :=
    h.flatMap_right _
  have hdistinct : (aggregates.flatMap (uncutChainsOf cuts)).eraseDups.length =
      (aggregates'.flatMap (uncutChainsOf cuts)).eraseDups.length := by
    have hsorted := congrArg List.length (sortStrings_eraseDups_eq fun _ => hchains.mem_iff)
    rwa [sortStrings, sortStrings, length_sortOn, length_sortOn] at hsorted
  refine ⟨?_, ?_, ?_, ?_⟩
  · unfold assessCut
    simp only [hdistinct, hedges.length_eq]
  · exact sortStrings_eraseDups_eq fun _ => hchains.mem_iff
  · exact (sortOn_perm _ _).trans (hedges.trans (sortOn_perm _ _).symm)
  · exact sortStrings_eq_of_perm ((h.filter _).map _)

/-! ## Raising a cut -/

/-- The second cuts are the first ones with the cut of one chain raised. -/
def Raised (chain : String) (cuts cuts' : Cuts) : Prop :=
  (∀ other, other ≠ chain → cuts'.lookup other = cuts.lookup other) ∧
    ∀ row, cuts.lookup chain = some row →
      ∃ row', cuts'.lookup chain = some row' ∧ row.2.blockNumber ≤ row'.2.blockNumber

variable {chain : String} {cuts' : Cuts}

/-- Whatever is inside the cut stays inside. -/
theorem Raised.inCut (h : Raised chain cuts cuts') {position : FactPosition} (hin : InCut cuts position) :
    InCut cuts' position := by
  obtain ⟨row, hrow, hle⟩ := hin
  by_cases hchain : position.blockchainId = chain
  · rw [hchain] at hrow
    obtain ⟨row', hrow', hraised⟩ := h.2 row hrow
    refine ⟨row', ?_, hle.trans hraised⟩
    rw [hchain]
    exact hrow'
  · exact ⟨row, (h.1 _ hchain).trans hrow, hle⟩

/-- Elsewhere nothing comes inside. -/
theorem Raised.inCut_iff (h : Raised chain cuts cuts') {position : FactPosition} (hchain : position.blockchainId ≠ chain) :
    InCut cuts' position ↔ InCut cuts position := by
  unfold InCut
  rw [h.1 _ hchain]

theorem Raised.has (h : Raised chain cuts cuts') {other : String} (hhas : cuts.has other = true) :
    cuts'.has other = true := by
  obtain ⟨row, hrow, rfl⟩ := Keyed.has_iff.1 hhas
  obtain ⟨found, hfound⟩ : ∃ found, cuts.lookup row.1 = some found := by
    cases hlookup : cuts.lookup row.1 with
    | none => exact absurd rfl (Keyed.lookup_eq_none.1 hlookup row hrow)
    | some found => exact ⟨found, rfl⟩
  obtain ⟨found', hfound'⟩ : ∃ found', cuts'.lookup row.1 = some found' := by
    by_cases hchain : row.1 = chain
    · rw [hchain] at hfound ⊢
      obtain ⟨row', hrow', -⟩ := h.2 found hfound
      exact ⟨row', hrow'⟩
    · exact ⟨found, (h.1 _ hchain).trans hfound⟩
  exact Keyed.has_iff.2 ⟨found', (Keyed.lookup_eq_some.1 hfound').1, (Keyed.lookup_eq_some.1 hfound').2⟩

/-- A closed cut stays closed when the cut of a chain without destination effects is raised: no new
obligation arises, and no cause leaves. -/
theorem Raised.closed (h : Raised chain cuts cuts')
    (hhosts : ∀ a ∈ aggregates, ∀ f ∈ a.facts.rows, f.kind ∈ destinationEffectKinds → f.position.blockchainId ≠ chain)
    (hclosed : (assessCut cuts aggregates).outcome = .closed) : (assessCut cuts' aggregates).outcome = .closed := by
  rw [assessCut_closed_iff] at hclosed ⊢
  obtain ⟨hcuts, hcaused⟩ := hclosed
  refine ⟨fun a ha f hf => h.has (hcuts a ha f hf), ?_⟩
  rintro a ha ⟨f, hf, hkind, hin⟩
  have hin : InCut cuts f.position := (h.inCut_iff (hhosts a ha f hf hkind)).1 hin
  obtain ⟨hobserved, hinside⟩ := hcaused a ha ⟨f, hf, hkind, hin⟩
  exact ⟨hobserved, fun g hg hcause => h.inCut (hinside g hg hcause)⟩

variable (cuts aggregates) in
/-- What an assessment says: closure, the violating messages and their edges, whatever the order of the
messages, and under higher cuts of the chains that host no destination effect. -/
theorem assessCut_exact :
    ((assessCut cuts aggregates).outcome = .closed ↔
      (∀ a ∈ aggregates, ∀ f ∈ a.facts.rows, cuts.has f.position.blockchainId = true) ∧
        ∀ a ∈ aggregates, Obliged cuts a → Caused cuts a) ∧
    (∀ key, (∃ e ∈ (assessCut cuts aggregates).openEdges, e.messageKey = key) ↔
      ∃ a ∈ aggregates, Violating cuts a ∧ messageKeyOf a.key = key) ∧
    (∀ e, e ∈ (assessCut cuts aggregates).openEdges ↔ ∃ a ∈ aggregates, Obliged cuts a ∧
      (((∀ f ∈ a.facts.rows, ¬ IsSourceFact f) ∧
        e = ⟨messageKeyOf a.key, a.key.sourceBlockchainId, .sourceFactNotObserved⟩) ∨
      ∃ f ∈ a.facts.rows, IsSourceFact f ∧ ¬ InCut cuts f.position ∧
        e = ⟨messageKeyOf a.key, f.position.blockchainId, .sourceFactOutsideCut⟩)) ∧
    (∀ aggregates' : List MessageAggregate, aggregates.Perm aggregates' →
      (assessCut cuts aggregates).outcome = (assessCut cuts aggregates').outcome ∧
        (assessCut cuts aggregates).openEdges.Perm (assessCut cuts aggregates').openEdges) ∧
    ∀ chain cuts', Raised chain cuts cuts' →
      (∀ a ∈ aggregates, ∀ f ∈ a.facts.rows, f.kind ∈ destinationEffectKinds → f.position.blockchainId ≠ chain) →
      (assessCut cuts aggregates).outcome = .closed → (assessCut cuts' aggregates).outcome = .closed := by
  refine ⟨assessCut_closed_iff, ?_, ?_, ?_, fun _ _ hraised => hraised.closed⟩
  · intro key
    constructor
    · rintro ⟨e, he, rfl⟩
      obtain ⟨a, ha, he⟩ := mem_openEdges.1 he
      exact ⟨a, ha, exists_mem_edgesOf.1 ⟨e, he⟩, (messageKey_of_mem_edgesOf he).symm⟩
    · rintro ⟨a, ha, hviolating, rfl⟩
      obtain ⟨e, he⟩ := exists_mem_edgesOf.2 hviolating
      exact ⟨e, mem_openEdges.2 ⟨a, ha, he⟩, messageKey_of_mem_edgesOf he⟩
  · intro e
    rw [mem_openEdges]
    simp only [mem_edgesOf]
  · intro aggregates' hperm
    exact ⟨(assessCut_perm hperm).1, (assessCut_perm hperm).2.2.1⟩

end Assess

end IcttSentinel.StateMachine
