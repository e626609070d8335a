/-
The order of failure domains, packages/rpc-quorum/src/independence.ts: "Group order and the order inside a group follow
the input, so a caller that needs a stable representative sorts its own input." An item that joins groups stands before
their items, so the groups follow the input exactly where every group is a single item.
-/
import IcttSentinel.RpcQuorum.Independence

namespace IcttSentinel.RpcQuorum

open IcttSentinel.Lib

section Order

variable {T S : Type} (claim : T → IndependenceClaim)

/-! ## Positions -/

/-- The groups, with the position of every item in the input. -/
def positionedGroups (items : List T) : List (List (T × Nat)) := independenceGroups (fun p => claim p.1) items.zipIdx

/-- The items of each group, and the groups by their first items, are in the order of their positions. -/
structure FollowsInput (groups : List (List (T × Nat))) : Prop where
  members : ∀ g ∈ groups, g.Pairwise fun a b => a.2 < b.2
  firsts : groups.Pairwise fun g h => ∃ a ∈ g, ∀ b ∈ h, a.2 < b.2

def Component.relabel (f : S → T) (c : Component S) : Component T := ⟨c.domains, c.providers, c.items.map f⟩

/-- A round looks at the claims of the items only. -/
theorem joinItem_relabel (f : S → T) (components : List (Component S)) (item : S) :
    (joinItem (fun s => claim (f s)) components item).map (·.relabel f) =
      joinItem claim (components.map (·.relabel f)) (f item) := by
  unfold joinItem
  simp only [List.map_append, List.filter_map, List.flatMap_map, Component.relabel, List.map_cons,
    List.map_flatMap]
  rfl

theorem independenceGroups_relabel (f : S → T) (items : List S) :
    (independenceGroups (fun s => claim (f s)) items).map (List.map f) = independenceGroups claim (items.map f) := by
  have hcomponents : (items.foldl (joinItem fun s => claim (f s)) []).map (·.relabel f) =
      (items.map f).foldl (joinItem claim) [] := by
    induction items using List.reverseRecOn with
    | nil => rfl
    | append_singleton items item ih =>
      rw [List.foldl_append, List.foldl_cons, List.foldl_nil, joinItem_relabel, ih, List.map_append, List.foldl_append]
      rfl
  unfold independenceGroups
  rw [← hcomponents, List.map_map, List.map_map]
  rfl

theorem positionedGroups_items (items : List T) :
    (positionedGroups claim items).map (List.map Prod.fst) = independenceGroups claim items := by
  rw [positionedGroups, independenceGroups_relabel, List.zipIdx_map_fst]

theorem zipIdx_increasing (items : List T) : items.zipIdx.Pairwise fun a b => a.2 < b.2 := by
  have hpositions : (items.zipIdx.map Prod.snd).Pairwise (· < ·) := by
    rw [List.zipIdx_map_snd]
    exact List.pairwise_lt_range'
  exact List.pairwise_map.1 hpositions

/-! ## Rounds -/

variable {claim} {components : List (Component T)} {item : T}

/-- A component that is not in order stays so, alone or inside the merged one. -/
theorem ordered_of_joinItem {R : T → T → Prop} (h : ∀ c ∈ joinItem claim components item, c.items.Pairwise R) :
    ∀ c ∈ components, c.items.Pairwise R := by
  intro c hc
  cases htouch : c.touches claim item with
  | false => exact h c (List.mem_append_left _ (List.mem_filter.2 ⟨hc, by rw [htouch]; rfl⟩))
  | true =>
    have hmerged := h _ (List.mem_append_right _ (List.mem_singleton_self _))
    refine (List.pairwise_cons.1 hmerged).2.sublist ?_
    rw [List.flatMap_def]
    exact List.sublist_flatten_of_mem (List.mem_map_of_mem (List.mem_filter.2 ⟨hc, htouch⟩))

/-- An item stands before the items of the components it joins. -/
theorem joinItem_before {R : T → T → Prop} (h : ∀ c ∈ joinItem claim components item, c.items.Pairwise R)
    {c : Component T} (hc : c ∈ components) (htouch : c.touches claim item = true) {a : T} (ha : a ∈ c.items) : R item a := by
  have hmerged := h _ (List.mem_append_right _ (List.mem_singleton_self _))
  exact (List.pairwise_cons.1 hmerged).1 a (List.mem_flatMap_of_mem (List.mem_filter.2 ⟨hc, htouch⟩) ha)

/-- Groups in the order of an asymmetric relation that the input follows hold no two linked items. -/
theorem unlinked_of_ordered {R : T → T → Prop} (hasymm : ∀ a b, R a b → ¬ R b a) {items : List T} (hitems : items.Pairwise R)
    (h : ∀ c ∈ items.foldl (joinItem claim) [], c.items.Pairwise R) : items.Pairwise fun a b => ¬ Linked claim a b := by
  induction items using List.reverseRecOn with
  | nil => exact .nil
  | append_singleton items item ih =>
    rw [List.foldl_append] at h
    obtain ⟨hbefore, -, hlast⟩ := List.pairwise_append.1 hitems
    refine List.pairwise_append.2 ⟨ih hbefore (ordered_of_joinItem h), List.pairwise_singleton _ _, fun a ha b hb hlinked => ?_⟩
    obtain rfl := List.mem_singleton.1 hb
    -- the group of the earlier item is joined, and the later item is put before it
    have hgrouped := grouped_foldl claim items
    obtain ⟨g, hg, hag⟩ := hgrouped.components.exists_mem ha
    obtain ⟨c, hc, rfl⟩ := List.mem_map.1 hg
    have htouch := ((hgrouped.named c hc).touches_iff).2 ⟨a, hag, hlinked⟩
    exact hasymm _ _ (hlast a ha b (List.mem_singleton_self _)) (joinItem_before h hc htouch hag)

/-- Where no two items are linked, every item is a group. -/
theorem independenceGroups_of_unlinked {items : List T} (h : items.Pairwise fun a b => ¬ Linked claim a b) :
    independenceGroups claim items = items.map fun a => [a] := by
  induction items using List.reverseRecOn with
  | nil => rfl
  | append_singleton items item ih =>
    obtain ⟨hbefore, -, hlast⟩ := List.pairwise_append.1 h
    have hgrouped := grouped_foldl claim items
    have htouch : ∀ c ∈ items.foldl (joinItem claim) [], c.touches claim item = false := fun c hc => by
      rw [← Bool.not_eq_true, (hgrouped.named c hc).touches_iff]
      rintro ⟨b, hb, hlinked⟩
      exact hlast b (hgrouped.components.mem (List.mem_map_of_mem hc) hb) item (List.mem_singleton_self _) hlinked
    have hjoined : (items.foldl (joinItem claim) []).filter (·.touches claim item) = [] :=
      List.filter_eq_nil_iff.2 fun c hc => by rw [htouch c hc]; exact Bool.false_ne_true
    have hrest : (items.foldl (joinItem claim) []).filter (!·.touches claim item) = items.foldl (joinItem claim) [] :=
      List.filter_eq_self.2 fun c hc => by rw [htouch c hc]; rfl
    have hgroups := ih hbefore
    unfold independenceGroups at hgroups ⊢
    rw [List.foldl_append, List.foldl_cons, List.foldl_nil, joinItem, hjoined, hrest, List.map_append, hgroups,
      List.map_append]
    rfl

/-! ## The order of the groups -/

variable (claim)

/-- The groups follow the input exactly when no two items share a trust domain or a provider group. -/
theorem independenceGroups_followsInput_iff (items : List T) :
    (positionedGroups claim items).map (List.map Prod.fst) = independenceGroups claim items ∧
      (FollowsInput (positionedGroups claim items) ↔ items.Pairwise fun a b => ¬ Linked claim a b) := by
  have hunlinked : (items.zipIdx.Pairwise fun a b => ¬ Linked (fun p : T × Nat => claim p.1) a b) ↔
      items.Pairwise fun a b => ¬ Linked claim a b := by
    have hmap : (items.zipIdx.map Prod.fst).Pairwise (fun a b => ¬ Linked claim a b) ↔
        items.zipIdx.Pairwise fun a b => ¬ Linked (fun p : T × Nat => claim p.1) a b := List.pairwise_map
    rw [← hmap, List.zipIdx_map_fst]
  refine ⟨positionedGroups_items claim items, fun h => ?_, fun h => ?_⟩
  · refine hunlinked.1 (unlinked_of_ordered (fun a b hab hba => absurd hab (Nat.lt_asymm hba)) (zipIdx_increasing items) ?_)
    exact fun c hc => h.members c.items (List.mem_map_of_mem hc)
  · rw [positionedGroups, independenceGroups_of_unlinked (hunlinked.2 h)]
    constructor
    · intro g hg
      obtain ⟨a, -, rfl⟩ := List.mem_map.1 hg
      exact List.pairwise_singleton _ _
    · refine List.pairwise_map.2 ((zipIdx_increasing items).imp fun {a b} hab => ⟨a, List.mem_singleton_self _, fun x hx => ?_⟩)
      rwa [List.mem_singleton.1 hx]

end Order

/-- Two endpoints of one trust domain. -/
def oneDomain : List (String × IndependenceClaim) :=
  [("first", ⟨"alpha", "x"⟩), ("second", ⟨"alpha", "y"⟩)]

/-- The later endpoint stands first in their group. -/
theorem oneDomain_reversed :
    (independenceGroups Prod.snd oneDomain).map (List.map Prod.fst) = [["second", "first"]] ∧
      ¬ FollowsInput (positionedGroups Prod.snd oneDomain) := by
  refine ⟨by decide, fun h => ?_⟩
  have hgroup := h.members [(("second", ⟨"alpha", "y"⟩), 1), (("first", ⟨"alpha", "x"⟩), 0)] (by decide)
  exact absurd hgroup (by simp)

end IcttSentinel.RpcQuorum
