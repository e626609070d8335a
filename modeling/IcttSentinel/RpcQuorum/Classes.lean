/-
Failure domains as a partition, packages/rpc-quorum/src/independence.ts and the count of packages/evidence/src/verify.ts:
the groups are the classes of what is declared or merged into one, and the verifier, which counts components by itself,
counts these groups.

A merge acts on trust domains by endpoint id, so it is exact for endpoints whose ids stand for one domain each.
-/
import IcttSentinel.Evidence.Verify
import IcttSentinel.RpcQuorum.Independence

namespace IcttSentinel.RpcQuorum

open IcttSentinel.Lib
open IcttSentinel.Evidence (WitnessVote VoteComponent PinnedChain EvidenceCore joinVote countedVotes chainCount)

section Classes

variable {T : Type} (claim : T → IndependenceClaim) (identify : T → String)

/-- Two endpoints share a trust domain or a provider group, or a merge declares them one. -/
def DeclaredSame (merges : List (String × String)) (a b : T) : Prop :=
  (claim a).Linked (claim b) ∨ (identify a, identify b) ∈ merges ∨ (identify b, identify a) ∈ merges

variable {claim identify}

theorem DeclaredSame.symm {merges : List (String × String)} (a b : T) (h : DeclaredSame claim identify merges a b) :
    DeclaredSame claim identify merges b a :=
  h.imp IndependenceClaim.Linked.symm Or.symm

theorem DeclaredSame.refl {merges : List (String × String)} (a : T) : DeclaredSame claim identify merges a a :=
  .inl (IndependenceClaim.Linked.refl _)

/-! ## Merges of unknown endpoints -/

variable {items : List T}

theorem domainOf_initialDomains_eq_none {id : String} (h : ∀ item ∈ items, identify item ≠ id) :
    domainOf (initialDomains claim identify items) id = none := by
  induction items using List.reverseRecOn with
  | nil => rfl
  | append_singleton items last ih =>
    have hlast : id ≠ identify last := fun heq => h last (List.mem_append_right _ List.mem_cons_self) heq.symm
    unfold initialDomains domainOf
    rw [List.foldl_append, List.foldl_cons, List.foldl_nil, Keyed.lookup_upsert, if_neg hlast]
    exact ih fun item hitem => h item (List.mem_append_left _ hitem)

/-- No merge adds an id. -/
theorem domainOf_foldMerge_eq_none {domains : Keyed (Prod.fst : String × String → String)} {id : String}
    (h : domainOf domains id = none) (merge : String × String) : domainOf (foldMerge domains merge) id = none := by
  cases hleft : domainOf domains merge.1 with
  | none =>
    unfold foldMerge
    rwa [hleft]
  | some left =>
    cases hright : domainOf domains merge.2 with
    | none =>
      unfold foldMerge
      rwa [hleft, hright]
    | some right => rw [domainOf_foldMerge hleft hright, h, Option.map_none]

theorem foldMerge_of_unknown {domains : Keyed (Prod.fst : String × String → String)} {merge : String × String}
    (h : domainOf domains merge.1 = none ∨ domainOf domains merge.2 = none) : foldMerge domains merge = domains := by
  unfold foldMerge
  rcases h with h | h
  · rw [h]
  · rw [h]
    cases domainOf domains merge.1 <;> rfl

variable (identify items) in
/-- The merge is between two of the endpoints. -/
def known (merge : String × String) : Bool :=
  items.any (fun item => identify item = merge.1) && items.any (fun item => identify item = merge.2)

/-- Only merges between two of the endpoints count. -/
theorem foldl_foldMerge_known (merges : List (String × String)) :
    merges.foldl foldMerge (initialDomains claim identify items) =
      (merges.filter (known identify items)).foldl foldMerge (initialDomains claim identify items) := by
  have hunnamed : ∀ id, items.any (fun item => identify item = id) = false → ∀ item ∈ items, identify item ≠ id := by
    intro id hid item hitem
    simpa using List.any_eq_false.1 hid item hitem
  have hrun : ∀ (ms : List (String × String)) (domains : Keyed (Prod.fst : String × String → String)),
      (∀ id, (∀ item ∈ items, identify item ≠ id) → domainOf domains id = none) →
      ms.foldl foldMerge domains = (ms.filter (known identify items)).foldl foldMerge domains := by
    intro ms
    induction ms with
    | nil => exact fun _ _ => rfl
    | cons m ms ih =>
      intro domains hdomains
      rw [List.foldl_cons]
      cases hknown : known identify items m with
      | true =>
        rw [List.filter_cons_of_pos hknown, List.foldl_cons]
        exact ih _ fun id hid => domainOf_foldMerge_eq_none (hdomains id hid) m
      | false =>
        have hsides : domainOf domains m.1 = none ∨ domainOf domains m.2 = none :=
          (Bool.and_eq_false_iff.1 hknown).imp (fun h => hdomains _ (hunnamed _ h)) fun h => hdomains _ (hunnamed _ h)
        rw [List.filter_cons_of_neg (by rw [hknown]; decide), foldMerge_of_unknown hsides]
        exact ih domains hdomains
  exact hrun merges _ fun id hid => domainOf_initialDomains_eq_none hid

theorem collapsedClaim_known (merges : List (String × String)) (item : T) :
    collapsedClaim claim identify items merges item =
      collapsedClaim claim identify items (merges.filter (known identify items)) item := by
  unfold collapsedClaim
  rw [foldl_foldMerge_known]

/-! ## The groups are the classes -/

/-- The groups are the components of what is declared or merged into one. -/
theorem collapsedIndependenceGroups_components (hids : OneDomainEach claim identify items) (merges : List (String × String)) :
    Components (DeclaredSame claim identify merges) items (collapsedIndependenceGroups claim identify items merges) := by
  have hgroups : Components (Linked (collapsedClaim claim identify items merges)) items
      (collapsedIndependenceGroups claim identify items merges) := independenceGroups_components items
  refine hgroups.of_connected (fun a ha b hb hab => ?_) fun a ha b hb hab => collapsedClaim_linked hids merges ha hb hab
  unfold Linked at hab
  rw [collapsedClaim_known merges a, collapsedClaim_known merges b] at hab
  refine collapsedClaim_connected DeclaredSame.symm hids (fun x _ y _ => .inl) (fun m hm => ?_) ha hb hab
  obtain ⟨hm, hknown⟩ := List.mem_filter.1 hm
  obtain ⟨hleft, hright⟩ := Bool.and_eq_true_iff.1 hknown
  obtain ⟨x, hx, hxm⟩ := List.any_eq_true.1 hleft
  obtain ⟨y, hy, hym⟩ := List.any_eq_true.1 hright
  have hpair : (identify x, identify y) = m := Prod.ext (of_decide_eq_true hxm) (of_decide_eq_true hym)
  exact ⟨x, hx, y, hy, .inr (.inl (hpair ▸ hm)), hpair.symm⟩

end Classes

/-! ## The count of the verifier -/

/-- Where a witness sits, as its vote says. -/
def voteClaim (vote : WitnessVote) : IndependenceClaim := ⟨vote.trustDomain, vote.providerGroup⟩

/-- What the verifier keeps of a component. -/
def namesOnly (c : Component WitnessVote) : VoteComponent := ⟨c.domains, c.providers⟩

/-- One vote does to the names alone what it does to the components. -/
theorem joinVote_namesOnly (components : List (Component WitnessVote)) (vote : WitnessVote) :
    joinVote (components.map namesOnly) vote = (joinItem voteClaim components vote).map namesOnly := by
  unfold joinVote joinItem
  simp only [List.filter_map, List.map_append, List.map_singleton, List.flatMap_map]
  rfl

theorem foldl_joinVote (votes : List WitnessVote) :
    votes.foldl joinVote [] = (votes.foldl (joinItem voteClaim) []).map namesOnly := by
  induction votes using List.reverseRecOn with
  | nil => rfl
  | append_singleton votes vote ih =>
    rw [List.foldl_append, List.foldl_append, ih]
    exact joinVote_namesOnly _ vote

theorem length_foldl_joinVote (votes : List WitnessVote) :
    (votes.foldl joinVote []).length = (independenceGroups voteClaim votes).length := by
  rw [foldl_joinVote, independenceGroups, List.length_map, List.length_map]

/-! ## Failure domains -/

/-- Where no id stands for two trust domains, the groups are the classes of what is declared or merged into one, in any
order of endpoints and merges; and the count of the verifier is the number of groups of the votes. -/
theorem failureDomains_classes :
    (∀ (T : Type) (claim : T → IndependenceClaim) (identify : T → String) (items : List T) (merges : List (String × String)),
      OneDomainEach claim identify items →
      Components.ClassesOf (DeclaredSame claim identify merges) items
        (collapsedIndependenceGroups claim identify items merges) ∧
      ∀ items' merges', items'.Perm items → merges'.Perm merges →
        ((collapsedIndependenceGroups claim identify items' merges').map Components.members).Perm
          ((collapsedIndependenceGroups claim identify items merges).map Components.members)) ∧
    (∀ (T : Type) (claim : T → IndependenceClaim) (items : List T),
      Components.ClassesOf (Linked claim) items (independenceGroups claim items)) ∧
    (∀ votes : List WitnessVote, (votes.foldl joinVote []).length = (independenceGroups voteClaim votes).length) ∧
    ∀ core chain, chainCount core chain = (independenceGroups voteClaim (countedVotes core chain)).length := by
  refine ⟨fun T claim identify items merges hids => ⟨?_, fun items' merges' hitems hmerges => ?_⟩, fun T claim items => ?_,
    length_foldl_joinVote, fun core chain => length_foldl_joinVote _⟩
  · exact (collapsedIndependenceGroups_components hids merges).classesOf DeclaredSame.symm DeclaredSame.refl
  · have hids' : OneDomainEach claim identify items' := fun a ha b hb =>
      hids a (hitems.mem_iff.1 ha) b (hitems.mem_iff.1 hb)
    have hsame : Components (DeclaredSame claim identify merges) items' (collapsedIndependenceGroups claim identify items' merges') := by
      refine (collapsedIndependenceGroups_components hids' merges').congr fun a _ b _ => ?_
      unfold DeclaredSame
      rw [hmerges.mem_iff, hmerges.mem_iff]
    exact hsame.map_members_perm DeclaredSame.symm DeclaredSame.refl (collapsedIndependenceGroups_components hids merges)
      fun x => hitems.mem_iff
  · exact (independenceGroups_components items).classesOf (Linked.symm claim) (Linked.refl claim)

/-- Three endpoints: the first and the last share a provider, the first and the second are merged. -/
def mergedEndpoints : List (String × IndependenceClaim) :=
  [("ep-1", ⟨"alpha", "p"⟩), ("ep-2", ⟨"beta", "q"⟩), ("ep-3", ⟨"gamma", "p"⟩), ("ep-4", ⟨"delta", "r"⟩)]

/-- The merge makes one domain of the first three, and the votes of such witnesses are counted alike. -/
theorem failureDomains_classes_merged :
    Components.ClassesOf (DeclaredSame Prod.snd Prod.fst [("ep-2", "ep-1")]) mergedEndpoints
      (collapsedIndependenceGroups Prod.snd Prod.fst mergedEndpoints [("ep-2", "ep-1")]) ∧
    (collapsedIndependenceGroups Prod.snd Prod.fst mergedEndpoints [("ep-2", "ep-1")]).length = 2 := by
  have hids : OneDomainEach Prod.snd Prod.fst mergedEndpoints := .of_nodup (by decide)
  exact ⟨(failureDomains_classes.1 _ Prod.snd Prod.fst mergedEndpoints [("ep-2", "ep-1")] hids).1, by decide +kernel⟩

/-- Three endpoints, two of them under one id with different trust domains. -/
def sharedId : List (String × IndependenceClaim) :=
  [("ep-1", ⟨"alpha", "p"⟩), ("ep-1", ⟨"beta", "q"⟩), ("ep-2", ⟨"alpha", "r"⟩)]

/-- An id that stands for two trust domains keeps the last, and the first endpoint is parted from one of its own
domain. -/
theorem sharedId_not_classes :
    ¬Components.ClassesOf (DeclaredSame Prod.snd Prod.fst []) sharedId (collapsedIndependenceGroups Prod.snd Prod.fst sharedId []) := by
  intro h
  have hgroups : collapsedIndependenceGroups Prod.snd Prod.fst sharedId [] = [[sharedId[1], sharedId[0]], [sharedId[2]]] := by
    decide +kernel
  rw [hgroups] at h
  have hclass := (h.classes [sharedId[2]] (by decide) sharedId[2] (by decide) sharedId[0]).2
    (.rel _ _ ⟨by decide, by decide, .inl (by decide)⟩)
  exact absurd hclass (by decide)

end IcttSentinel.RpcQuorum
