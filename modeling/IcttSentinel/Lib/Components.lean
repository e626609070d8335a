/-
The connected components of a list under a symmetric relation: what they are, that they depend on
the members of the list only, how they are grown item by item, and how their number changes when
members are lost.
-/
import Mathlib.Tactic
import Mathlib.Data.Set.Basic
import Mathlib.Logic.Relation

namespace IcttSentinel.Lib

variable {α : Type*} {linked : α → α → Prop} {l l' : List α} {cs cs' : List (List α)} {a b : α}

/-- A chain of links between members of the list leads from one item to the other. -/
def Connected (linked : α → α → Prop) (l : List α) : α → α → Prop :=
  Relation.ReflTransGen fun a b => a ∈ l ∧ b ∈ l ∧ linked a b

theorem Connected.refl (a : α) : Connected linked l a a := Relation.ReflTransGen.refl

theorem Connected.trans {c : α} (h : Connected linked l a b) (h' : Connected linked l b c) : Connected linked l a c :=
  Relation.ReflTransGen.trans h h'

theorem Connected.of_linked (ha : a ∈ l) (hb : b ∈ l) (h : linked a b) : Connected linked l a b :=
  Relation.ReflTransGen.single ⟨ha, hb, h⟩

theorem Connected.symm (hsymm : ∀ a b, linked a b → linked b a) (h : Connected linked l a b) : Connected linked l b a := by
  induction h with
  | refl => exact .refl _
  | tail _ hlast ih => exact (Connected.of_linked hlast.2.1 hlast.1 (hsymm _ _ hlast.2.2)).trans ih

theorem Connected.mono (hsub : ∀ x ∈ l, x ∈ l') (h : Connected linked l a b) : Connected linked l' a b := by
  induction h with
  | refl => exact .refl _
  | tail _ hlast ih => exact ih.trans (.of_linked (hsub _ hlast.1) (hsub _ hlast.2.1) hlast.2.2)

/-- Whoever is connected to a member is a member. -/
theorem Connected.mem (h : Connected linked l a b) (ha : a ∈ l) : b ∈ l := by
  induction h with
  | refl => exact ha
  | tail _ hlast _ => exact hlast.2.1

/-- Under a symmetric relation, what is connected is what the links among the members make equivalent. -/
theorem connected_iff_eqvGen (hsymm : ∀ a b, linked a b → linked b a) :
    Connected linked l a b ↔ Relation.EqvGen (fun x y => x ∈ l ∧ y ∈ l ∧ linked x y) a b := by
  constructor
  · intro h
    induction h with
    | refl => exact .refl _
    | tail _ hlast ih => exact ih.trans _ _ _ (.rel _ _ hlast)
  · intro h
    induction h with
    | rel x y hxy => exact .of_linked hxy.1 hxy.2.1 hxy.2.2
    | refl x => exact .refl x
    | symm x y _ ih => exact ih.symm hsymm
    | trans x y z _ _ ih ih' => exact ih.trans ih'

/-! ## Components -/

/-- The lists are the connected components of the list: they divide it up, each of them is
connected, and no link leads from one to another. -/
structure Components (linked : α → α → Prop) (l : List α) (cs : List (List α)) : Prop where
  perm : cs.flatten.Perm l
  nonempty : ∀ c ∈ cs, c ≠ []
  connected : ∀ c ∈ cs, ∀ a ∈ c, ∀ b ∈ c, Connected linked l a b
  apart : cs.Pairwise fun c d => ∀ a ∈ c, ∀ b ∈ d, ¬ linked a b

theorem Components.nil : Components linked ([] : List α) [] where
  perm := by simp
  nonempty := by simp
  connected := by simp
  apart := List.Pairwise.nil

namespace Components

/-- Components of a list are components of every reordering of it. -/
theorem of_perm (h : Components linked l cs) (hperm : l.Perm l') : Components linked l' cs where
  perm := h.perm.trans hperm
  nonempty := h.nonempty
  connected := fun c hc a ha b hb => (h.connected c hc a ha b hb).mono fun _ => hperm.mem_iff.1
  apart := h.apart

/-- Components are components under every relation that connects what is linked and links nothing more. -/
theorem of_connected {linked' : α → α → Prop} (h : Components linked l cs)
    (hconnected : ∀ a ∈ l, ∀ b ∈ l, linked a b → Connected linked' l a b)
    (hlinked : ∀ a ∈ l, ∀ b ∈ l, linked' a b → linked a b) : Components linked' l cs where
  perm := h.perm
  nonempty := h.nonempty
  connected c hc a ha b hb := by
    have hchain := h.connected c hc a ha b hb
    clear hb
    induction hchain with
    | refl => exact .refl a
    | tail _ hlast ih => exact ih.trans (hconnected _ hlast.1 _ hlast.2.1 hlast.2.2)
  apart := by
    refine h.apart.imp_of_mem fun {c d} hc hd hapart a ha b hb hab => hapart a ha b hb ?_
    exact hlinked a (h.perm.mem_iff.1 (List.mem_flatten_of_mem hc ha)) b (h.perm.mem_iff.1 (List.mem_flatten_of_mem hd hb)) hab

/-- Components are components under every relation that links the members alike. -/
theorem congr {linked' : α → α → Prop} (h : Components linked l cs) (hlinked : ∀ a ∈ l, ∀ b ∈ l, (linked a b ↔ linked' a b)) :
    Components linked' l cs :=
  h.of_connected (fun a ha b hb hab => .of_linked ha hb ((hlinked a ha b hb).1 hab)) fun a ha b hb => (hlinked a ha b hb).2

/-- Components may be reordered, each of them and all together. -/
theorem reorder (hsymm : ∀ a b, linked a b → linked b a) (h : Components linked l cs) {f : List α → List α}
    (hf : ∀ c, (f c).Perm c) (hperm : cs'.Perm (cs.map f)) : Components linked l cs' := by
  have hmem : ∀ c ∈ cs', ∃ d ∈ cs, f d = c := fun c hc => List.mem_map.1 (hperm.mem_iff.1 hc)
  have hflatten : ∀ ds : List (List α), (ds.map f).flatten.Perm ds.flatten := by
    intro ds
    induction ds with
    | nil => exact .refl _
    | cons d ds ih => exact (hf d).append ih
  constructor
  · exact hperm.flatten.trans ((hflatten cs).trans h.perm)
  · intro c hc
    obtain ⟨d, hd, rfl⟩ := hmem c hc
    intro hnil
    exact h.nonempty d hd (List.nil_perm.1 (hnil ▸ hf d))
  · intro c hc a ha b hb
    obtain ⟨d, hd, rfl⟩ := hmem c hc
    exact h.connected d hd a ((hf d).mem_iff.1 ha) b ((hf d).mem_iff.1 hb)
  · rw [hperm.pairwise_iff fun {c d} hcd a ha b hb hab => hcd b hb a ha (hsymm a b hab), List.pairwise_map]
    exact h.apart.imp fun {c d} hcd a ha b hb => hcd a ((hf c).mem_iff.1 ha) b ((hf d).mem_iff.1 hb)

theorem mem (h : Components linked l cs) {c : List α} (hc : c ∈ cs) (ha : a ∈ c) : a ∈ l :=
  h.perm.mem_iff.1 (List.mem_flatten_of_mem hc ha)

theorem exists_mem (h : Components linked l cs) (ha : a ∈ l) : ∃ c ∈ cs, a ∈ c :=
  List.mem_flatten.1 (h.perm.mem_iff.2 ha)

section Symmetric

variable (hsymm : ∀ a b, linked a b → linked b a)

include hsymm in
/-- A component holds exactly what is connected to one of its items. -/
theorem mem_iff (h : Components linked l cs) {c : List α} (hc : c ∈ cs) (ha : a ∈ c) :
    b ∈ c ↔ Connected linked l a b := by
  constructor
  · exact fun hb => h.connected c hc a ha b hb
  · intro hab
    induction hab with
    | refl => exact ha
    | @tail x y _ hlast ih =>
      obtain ⟨d, hd, hy⟩ := h.exists_mem hlast.2.1
      by_cases hcd : c = d
      · rw [hcd]
        exact hy
      · have hapart : Std.Symm fun c d : List α => ∀ a ∈ c, ∀ b ∈ d, ¬ linked a b :=
          ⟨fun c d hcd x hx y hy hxy => hcd y hy x hx (hsymm x y hxy)⟩
        exact absurd hlast.2.2 (h.apart.forall hc hd hcd x ih y hy)

/-- The members of a component, forgetting their order. -/
def members (c : List α) : Set α := {x | x ∈ c}

include hsymm in
theorem members_eq (h : Components linked l cs) {c : List α} (hc : c ∈ cs) (ha : a ∈ c) :
    members c = {x | Connected linked l a x} := by
  ext x
  exact h.mem_iff hsymm hc ha

include hsymm in
/-- Nothing connects an item of one component to an item of another. -/
theorem unconnected (hrefl : ∀ a, linked a a) (h : Components linked l cs) :
    cs.Pairwise fun c d => ∀ a ∈ c, ∀ b ∈ d, ¬ Connected linked l a b := by
  refine h.apart.imp_of_mem fun {c d} hc _ hapart a ha b hb hab => ?_
  have hbc : b ∈ c := (h.mem_iff hsymm hc ha).2 hab
  exact hapart b hbc b hb (hrefl b)

/-- The groups are the classes of the members under the equivalence that a relation generates among them. -/
structure ClassesOf (linked : α → α → Prop) (l : List α) (groups : List (List α)) : Prop where
  perm : groups.flatten.Perm l
  nonempty : ∀ group ∈ groups, group ≠ []
  classes : ∀ group ∈ groups, ∀ a ∈ group, ∀ b,
    b ∈ group ↔ Relation.EqvGen (fun x y => x ∈ l ∧ y ∈ l ∧ linked x y) a b
  apart : groups.Pairwise fun c d => ∀ a ∈ c, a ∉ d

variable (hrefl : ∀ a, linked a a)

include hsymm hrefl in
theorem classesOf (h : Components linked l cs) : ClassesOf linked l cs where
  perm := h.perm
  nonempty := h.nonempty
  classes c hc a ha b := by rw [h.mem_iff hsymm hc ha, connected_iff_eqvGen hsymm]
  apart := h.apart.imp fun hapart a ha hd => hapart a ha a hd (hrefl a)

include hrefl in
/-- No two components have the same members. -/
theorem members_nodup (h : Components linked l cs) : (cs.map members).Nodup := by
  rw [List.Nodup, List.pairwise_map]
  refine h.apart.imp_of_mem fun {c d} hc _ hapart heq => ?_
  obtain ⟨x, hx⟩ := List.exists_mem_of_ne_nil c (h.nonempty c hc)
  have hxd : x ∈ members d := by
    rw [← heq]
    exact hx
  exact hapart x hx x hxd (hrefl x)

include hsymm in
theorem mem_map_members (h : Components linked l cs) {s : Set α} :
    s ∈ cs.map members ↔ ∃ a ∈ l, s = {x | Connected linked l a x} := by
  rw [List.mem_map]
  constructor
  · rintro ⟨c, hc, rfl⟩
    obtain ⟨x, hx⟩ := List.exists_mem_of_ne_nil c (h.nonempty c hc)
    exact ⟨x, h.mem hc hx, h.members_eq hsymm hc hx⟩
  · rintro ⟨a, ha, rfl⟩
    obtain ⟨c, hc, hac⟩ := h.exists_mem ha
    exact ⟨c, hc, h.members_eq hsymm hc hac⟩

include hsymm hrefl in
/-- The components are determined by the members of the list: the same ones come in some order. -/
theorem map_members_perm (h : Components linked l cs) (h' : Components linked l' cs') (hmem : ∀ x, x ∈ l ↔ x ∈ l') :
    (cs.map members).Perm (cs'.map members) := by
  rw [List.perm_ext_iff_of_nodup (h.members_nodup hrefl) (h'.members_nodup hrefl)]
  intro s
  have hconnected : ∀ a x, Connected linked l a x ↔ Connected linked l' a x := fun a x =>
    ⟨Connected.mono fun y hy => (hmem y).1 hy, Connected.mono fun y hy => (hmem y).2 hy⟩
  rw [h.mem_map_members hsymm, h'.mem_map_members hsymm]
  simp only [hmem, hconnected]

include hsymm hrefl in
/-- So is whatever is read off a component regardless of its order. -/
theorem map_perm {β : Type*} (h : Components linked l cs) (h' : Components linked l' cs') (hmem : ∀ x, x ∈ l ↔ x ∈ l')
    {f : List α → β} (hf : ∀ c d, members c = members d → f c = f d) : (cs.map f).Perm (cs'.map f) := by
  classical
  rcases cs.eq_nil_or_concat with rfl | ⟨_, first, _⟩
  · have hnil := (map_members_perm hsymm hrefl h h' hmem).length_eq
    simp only [List.map_nil, List.length_nil, List.length_map] at hnil
    rw [List.eq_nil_of_length_eq_zero hnil.symm]
  · -- what is read off depends on the members, so it can be read off them
    let g : Set α → β := fun s => if hs : ∃ c, members c = s then f hs.choose else f first
    have hg : ∀ c, g (members c) = f c := by
      intro c
      have hc : ∃ d, members d = members c := ⟨c, rfl⟩
      show (if hs : ∃ d, members d = members c then f hs.choose else f first) = f c
      rw [dif_pos hc]
      exact hf _ _ hc.choose_spec
    have hmap : ∀ ds : List (List α), ds.map f = (ds.map members).map g := by
      intro ds
      rw [List.map_map]
      exact List.map_congr_left fun c _ => (hg c).symm
    rw [hmap, hmap]
    exact (map_members_perm hsymm hrefl h h' hmem).map g

include hsymm hrefl in
theorem length_eq (h : Components linked l cs) (h' : Components linked l' cs') (hmem : ∀ x, x ∈ l ↔ x ∈ l') :
    cs.length = cs'.length := by
  have hlength := (map_members_perm hsymm hrefl h h' hmem).length_eq
  rwa [List.length_map, List.length_map] at hlength

include hsymm hrefl in
/-- There are at least as many components as there are members that nothing connects. -/
theorem le_length_iff (h : Components linked l cs) {n : Nat} : n ≤ cs.length ↔
    ∃ m : List α, m.length = n ∧ (∀ a ∈ m, a ∈ l) ∧ m.Pairwise fun a b => ¬ Connected linked l a b := by
  classical
  constructor
  · intro hn
    -- one member of each of the first components
    have hmember : ∀ c : {c // c ∈ cs}, ∃ a, a ∈ c.1 := fun c => List.exists_mem_of_ne_nil c.1 (h.nonempty c.1 c.2)
    choose member hmember using hmember
    refine ⟨(cs.attach.map member).take n, ?_, fun a ha => ?_, ?_⟩
    · rw [List.length_take, List.length_map, List.length_attach, Nat.min_eq_left hn]
    · obtain ⟨c, -, rfl⟩ := List.mem_map.1 (List.mem_of_mem_take ha)
      exact h.mem c.2 (hmember c)
    · have hattach : cs.attach.Pairwise fun c d => ∀ a ∈ c.1, ∀ b ∈ d.1, ¬ Connected linked l a b := by
        have hunconnected := h.unconnected hsymm hrefl
        rwa [← List.attach_map_subtype_val cs, List.pairwise_map] at hunconnected
      have hmembers : (cs.attach.map member).Pairwise fun a b => ¬ Connected linked l a b :=
        List.pairwise_map.2 (hattach.imp fun {c d} hcd => hcd _ (hmember c) _ (hmember d))
      exact hmembers.sublist (List.take_sublist n _)
  · rintro ⟨m, rfl, hsub, hpairwise⟩
    -- each of them is in a component of its own
    have hnodup : (m.map fun a => {x | Connected linked l a x}).Nodup := by
      rw [List.Nodup, List.pairwise_map]
      refine hpairwise.imp fun {a b} hab heq => hab ?_
      have hmem : b ∈ {x | Connected linked l b x} := Connected.refl b
      rwa [← heq] at hmem
    have hsubset : (m.map fun a => {x | Connected linked l a x}) ⊆ cs.map members := by
      intro s hs
      obtain ⟨a, ha, rfl⟩ := List.mem_map.1 hs
      exact (h.mem_map_members hsymm).2 ⟨a, hsub a ha, rfl⟩
    have hlength := (hnodup.subperm hsubset).length_le
    rwa [List.length_map, List.length_map] at hlength

/-! ## Losing members -/

include hsymm hrefl in
/-- Where what stays connected was connected, and what is left of a component stays connected, losing
members makes no more components. -/
theorem length_le (h : Components linked l cs) (h' : Components linked l' cs') (hsub : ∀ x ∈ l', x ∈ l)
    (hkept : ∀ a ∈ l', ∀ b ∈ l', Connected linked l a b → Connected linked l' a b) : cs'.length ≤ cs.length := by
  -- each component that is left goes to the one it was part of, and no two to the same one
  let before : Set α → Set α := fun s => {x | ∃ a ∈ s, Connected linked l a x}
  have hbefore : ∀ c ∈ cs', ∀ a ∈ c, before (members c) = {x | Connected linked l a x} := by
    intro c hc a ha
    ext x
    constructor
    · rintro ⟨b, hb, hbx⟩
      have hab := (h'.mem_iff hsymm hc ha).1 hb
      exact (hab.mono hsub).trans hbx
    · exact fun hax => ⟨a, ha, hax⟩
  have hnodup : ((cs'.map members).map before).Nodup := by
    rw [List.nodup_map_iff_inj_on (h'.members_nodup hrefl)]
    intro s hs t ht hst
    obtain ⟨c, hc, rfl⟩ := List.mem_map.1 hs
    obtain ⟨d, hd, rfl⟩ := List.mem_map.1 ht
    obtain ⟨a, ha⟩ := List.exists_mem_of_ne_nil c (h'.nonempty c hc)
    obtain ⟨b, hb⟩ := List.exists_mem_of_ne_nil d (h'.nonempty d hd)
    have hab : Connected linked l a b := by
      have hmem : b ∈ before (members c) := by
        rw [hst, hbefore d hd b hb]
        exact Connected.refl b
      rw [hbefore c hc a ha] at hmem
      exact hmem
    have hkeptab := hkept a (h'.mem hc ha) b (h'.mem hd hb) hab
    have hbc : b ∈ c := (h'.mem_iff hsymm hc ha).2 hkeptab
    rw [h'.members_eq hsymm hc hbc, h'.members_eq hsymm hd hb]
  have hsubset : (cs'.map members).map before ⊆ cs.map members := by
    intro s hs
    rw [List.map_map, List.mem_map] at hs
    obtain ⟨c, hc, rfl⟩ := hs
    obtain ⟨a, ha⟩ := List.exists_mem_of_ne_nil c (h'.nonempty c hc)
    rw [h.mem_map_members hsymm]
    exact ⟨a, hsub a (h'.mem hc ha), hbefore c hc a ha⟩
  have hlength := (hnodup.subperm hsubset).length_le
  rwa [List.length_map, List.length_map, List.length_map] at hlength

end Symmetric

end Components

/-! ## Growing components -/

section Grow

variable {touches : List α → α → Bool}

/-- A new item and the components it touches become one component, behind the others. -/
def grow (touches : List α → α → Bool) (cs : List (List α)) (a : α) : List (List α) :=
  cs.filter (fun c => !touches c a) ++ [a :: (cs.filter fun c => touches c a).flatten]

/-- Where an item touches the components it is linked to, the grown components are those of the longer
list. -/
theorem Components.grow (hsymm : ∀ a b, linked a b → linked b a) (h : Components linked l cs)
    (htouches : ∀ c ∈ cs, touches c a = true ↔ ∃ b ∈ c, linked b a) :
    Components linked (l ++ [a]) (Lib.grow touches cs a) := by
  have hsub : ∀ x ∈ l, x ∈ l ++ [a] := fun x hx => List.mem_append_left _ hx
  -- the new item reaches every item of a component it touches
  have hnew : ∀ x ∈ (cs.filter fun c => touches c a).flatten, Connected linked (l ++ [a]) a x := by
    intro x hx
    obtain ⟨c, hc, hxc⟩ := List.mem_flatten.1 hx
    obtain ⟨hc, htouch⟩ := List.mem_filter.1 hc
    obtain ⟨b, hb, hba⟩ := (htouches c hc).1 htouch
    have hab : Connected linked (l ++ [a]) a b :=
      .of_linked (by simp) (hsub b (h.mem hc hb)) (hsymm b a hba)
    exact hab.trans ((h.connected c hc b hb x hxc).mono hsub)
  have hjoined : ∀ x ∈ a :: (cs.filter fun c => touches c a).flatten, Connected linked (l ++ [a]) a x := by
    rintro x (_ | ⟨_, hx⟩)
    · exact .refl a
    · exact hnew x hx
  constructor
  · -- the items of the components are filed under touched and untouched ones
    have hsplit : ((cs.filter fun c => !touches c a).flatten ++ (cs.filter fun c => touches c a).flatten).Perm l := by
      have hparts := List.filter_append_perm (fun c => touches c a) cs
      have hflat := (List.perm_append_comm.trans hparts).flatten
      rw [List.flatten_append] at hflat
      exact hflat.trans h.perm
    show (cs.filter (fun c => !touches c a) ++ [a :: (cs.filter fun c => touches c a).flatten]).flatten.Perm (l ++ [a])
    rw [List.flatten_append, List.flatten_singleton]
    exact List.perm_middle.trans ((hsplit.cons a).trans (List.perm_append_singleton a l).symm)
  · intro c hc
    rcases List.mem_append.1 hc with hc | hc
    · exact h.nonempty c (List.mem_of_mem_filter hc)
    · rw [List.mem_singleton.1 hc]
      exact List.cons_ne_nil _ _
  · intro c hc x hx y hy
    rcases List.mem_append.1 hc with hc | hc
    · exact (h.connected c (List.mem_of_mem_filter hc) x hx y hy).mono hsub
    · rw [List.mem_singleton.1 hc] at hx hy
      exact ((hjoined x hx).symm hsymm).trans (hjoined y hy)
  · show (cs.filter (fun c => !touches c a) ++ [a :: (cs.filter fun c => touches c a).flatten]).Pairwise _
    rw [List.pairwise_append]
    refine ⟨h.apart.filter _, List.pairwise_singleton _ _, ?_⟩
    intro c hc d hd x hx y hy hxy
    obtain ⟨hc, huntouched⟩ := List.mem_filter.1 hc
    rw [List.mem_singleton.1 hd] at hy
    have hnot : ∀ b ∈ c, ¬ linked b a := by
      intro b hb hba
      rw [(htouches c hc).2 ⟨b, hb, hba⟩] at huntouched
      cases huntouched
    rcases List.mem_cons.1 hy with rfl | hy
    · exact hnot x hx hxy
    · -- a link into a touched component would join the two
      obtain ⟨d, hd, hyd⟩ := List.mem_flatten.1 hy
      obtain ⟨hd, htouch⟩ := List.mem_filter.1 hd
      have hyc : y ∈ c := (h.mem_iff hsymm hc hx).2 (.of_linked (h.mem hc hx) (h.mem hd hyd) hxy)
      obtain ⟨b, hb, hba⟩ := (htouches d hd).1 htouch
      have hbc : b ∈ c := (h.mem_iff hsymm hc hyc).2 (h.connected d hd y hyd b hb)
      exact hnot b hbc hba

end Grow

end IcttSentinel.Lib
