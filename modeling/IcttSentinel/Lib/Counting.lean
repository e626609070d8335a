/-
Counting items into buckets by a matching predicate. Summing the items of every bucket counts each
item once for every bucket it matches, so the total is the sum of the items exactly when every item
matches one bucket; buckets with distinct names that are matched by name do so.
-/
import Mathlib.Tactic

namespace IcttSentinel.Lib

theorem filter_ne_nil {α : Type*} {p : α → Bool} {l : List α} : l.filter p ≠ [] ↔ ∃ a ∈ l, p a = true := by
  simp [List.filter_eq_nil_iff]

section Buckets

variable {β ι κ : Type*}

/-- Summed over all buckets, an item counts as often as there are buckets it matches. -/
theorem sum_buckets (buckets : List β) (items : List ι) (inBucket : β → ι → Bool) (weight : ι → Int) :
    (buckets.map fun b => ((items.filter (inBucket b)).map weight).sum).sum =
      (items.map fun i => (buckets.countP (inBucket · i) : Int) * weight i).sum := by
  have hone : ∀ b, ((items.filter (inBucket b)).map weight).sum =
      (items.map fun i => if inBucket b i then weight i else 0).sum := by
    intro b
    induction items with
    | nil => rfl
    | cons i items ih => by_cases h : inBucket b i = true <;> simp [h, ih]
  induction buckets with
  | nil => simp
  | cons b buckets ih =>
    rw [List.map_cons, List.sum_cons, ih, hone, ← List.sum_map_add]
    refine congrArg List.sum (List.map_congr_left fun i _ => ?_)
    rw [List.countP_cons]
    split <;> push_cast <;> ring

variable [DecidableEq κ]

/-- Among buckets with distinct names, a name that occurs matches one of them. -/
theorem countP_name_eq_one {name : β → κ} {buckets : List β} {k : κ} (h : (buckets.map name).Nodup)
    (hk : k ∈ buckets.map name) : buckets.countP (fun b => k = name b) = 1 := by
  have hcount : buckets.countP (fun b => decide (k = name b)) = (buckets.map name).count k := by
    rw [List.count, List.countP_map]
    refine List.countP_congr fun b _ => ?_
    simp only [decide_eq_true_eq, Function.comp_apply, beq_iff_eq]
    exact eq_comm
  rw [hcount, List.count_eq_one_of_mem h hk]

theorem mem_of_countP_name_eq_one {name : β → κ} {buckets : List β} {k : κ}
    (h : buckets.countP (fun b => k = name b) = 1) : k ∈ buckets.map name := by
  have hpos : 0 < buckets.countP (fun b => decide (k = name b)) := by omega
  obtain ⟨b, hb, hk⟩ := List.countP_pos_iff.1 hpos
  exact List.mem_map.2 ⟨b, hb, (by simpa using hk : k = name b).symm⟩

end Buckets

/-! ## Weights of matched keys -/

section Matched

variable {α β κ : Type*} [DecidableEq κ]

/-- A filter and its complement split a sum. -/
theorem sum_filter_add_sum_filter_not (l : List α) (p : α → Bool) (weight : α → Int) :
    ((l.filter p).map weight).sum + ((l.filter fun a => !p a).map weight).sum = (l.map weight).sum := by
  induction l with
  | nil => rfl
  | cons a l ih => by_cases h : p a = true <;> simp [h, ← ih] <;> ring

/-- What a loop pushes for the items that fail a test weighs as much as these items. -/
theorem sum_flatMap_filter {l : List α} {push : α → List β} {p : α → Prop} [DecidablePred p]
    {weight : β → Int} {value : α → Int}
    (h : ∀ a ∈ l, (push a).map weight = if p a then [] else [value a]) :
    ((l.flatMap push).map weight).sum = ((l.filter fun a => !decide (p a)).map value).sum := by
  induction l with
  | nil => rfl
  | cons a l ih =>
    rw [List.flatMap_cons, List.map_append, List.sum_append, h a (by simp),
      ih fun b hb => h b (List.mem_cons_of_mem _ hb)]
    by_cases hp : p a <;> simp [hp]

/-- Where no key repeats on either side and every key on the right occurs on the left, the matched
keys of the left weigh as much as all keys of the right. -/
theorem sum_matched {key : α → κ} {key' : β → κ} {l : List α} {m : List β} (weight : κ → Int)
    (hl : (l.map key).Nodup) (hm : (m.map key').Nodup) (hsub : ∀ b ∈ m, key' b ∈ l.map key) :
    ((l.filter fun a => decide (key a ∈ m.map key')).map fun a => weight (key a)).sum =
      (m.map fun b => weight (key' b)).sum := by
  have hperm : ((l.filter fun a => decide (key a ∈ m.map key')).map key).Perm (m.map key') := by
    refine (List.perm_ext_iff_of_nodup (hl.sublist (List.filter_sublist.map key)) hm).2 fun k => ?_
    constructor
    · intro hk
      obtain ⟨a, ha, rfl⟩ := List.mem_map.1 hk
      simpa using (List.mem_filter.1 ha).2
    · intro hk
      obtain ⟨b, hb, rfl⟩ := List.mem_map.1 hk
      obtain ⟨a, ha, hab⟩ := List.mem_map.1 (hsub b hb)
      exact List.mem_map.2 ⟨a, List.mem_filter.2 ⟨ha, by rw [hab]; simpa using hk⟩, hab⟩
  have hsum := (hperm.map weight).sum_eq
  rwa [List.map_map, List.map_map] at hsum

end Matched

/-! ## Pairs up to order -/

/-- Pairs are the same up to order when under each first part the second parts are. -/
theorem map_prod_perm_iff {α β γ : Type*} [DecidableEq β] [DecidableEq γ] {f : α → β} {g : α → γ} {l l' : List α} :
    (l.map fun a => (f a, g a)).Perm (l'.map fun a => (f a, g a)) ↔
      ∀ y, ((l.filter fun a => f a = y).map g).Perm ((l'.filter fun a => f a = y).map g) := by
  have hcount : ∀ (m : List α) (y : β) (z : γ),
      (m.map fun a => (f a, g a)).count (y, z) = ((m.filter fun a => f a = y).map g).count z := by
    intro m y z
    rw [List.count, List.count, List.countP_map, List.countP_map, List.countP_filter]
    refine List.countP_congr fun a _ => ?_
    simp [and_comm]
  simp only [List.perm_iff_count, Prod.forall, hcount]

/-- Where one reading determines another, lists that are the same up to order in the one are so in the other. -/
theorem map_perm_of_map_perm {α β γ : Type*} {f : α → β} {g : α → γ} {l l' : List α}
    (hfg : ∀ a ∈ l, ∀ b ∈ l', f a = f b → g a = g b) (h : (l.map f).Perm (l'.map f)) : (l.map g).Perm (l'.map g) := by
  induction l generalizing l' with
  | nil =>
    have hnil : l' = [] := List.map_eq_nil_iff.1 h.nil_eq.symm
    rw [hnil]
  | cons a l ih =>
    obtain ⟨b, hb, hab⟩ := List.mem_map.1 (h.mem_iff.1 List.mem_cons_self)
    obtain ⟨s, t, rfl⟩ := List.append_of_mem hb
    have hmiddle : (s ++ b :: t).Perm (b :: (s ++ t)) := List.perm_middle
    have htail : (l.map f).Perm ((s ++ t).map f) := by
      have hcons := h.trans (hmiddle.map f)
      rw [List.map_cons, List.map_cons, hab] at hcons
      exact (List.perm_cons _).1 hcons
    have hrest : ∀ x ∈ l, ∀ y ∈ s ++ t, f x = f y → g x = g y := fun x hx y hy =>
      hfg x (List.mem_cons_of_mem _ hx) y (hmiddle.mem_iff.2 (List.mem_cons_of_mem _ hy))
    refine List.Perm.trans ?_ (hmiddle.map g).symm
    rw [List.map_cons, List.map_cons, hfg a List.mem_cons_self b hb hab.symm]
    exact (ih hrest htail).cons _

/-- What can be chosen within every part of a list can be chosen within their concatenation. -/
theorem exists_sublist_flatMap {α β γ : Type*} {R : β → α → Prop} {l : List γ} {f : γ → List α} {g : γ → List β}
    (h : ∀ x ∈ l, ∃ chosen, chosen.Sublist (f x) ∧ List.Forall₂ R (g x) chosen) :
    ∃ chosen, chosen.Sublist (l.flatMap f) ∧ List.Forall₂ R (l.flatMap g) chosen := by
  induction l with
  | nil => exact ⟨[], List.nil_sublist _, .nil⟩
  | cons x rest ih =>
    obtain ⟨first, hfirst, hmatch⟩ := h x List.mem_cons_self
    obtain ⟨others, hothers, hmatches⟩ := ih fun y hy => h y (List.mem_cons_of_mem x hy)
    rw [List.flatMap_cons, List.flatMap_cons]
    exact ⟨first ++ others, hfirst.append hothers, List.rel_append hmatch hmatches⟩

end IcttSentinel.Lib
