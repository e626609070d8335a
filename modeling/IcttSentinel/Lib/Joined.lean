/-
Texts joined by a separator. A part without the separator can be cut off again, at either end.
-/
import Mathlib.Tactic

namespace IcttSentinel.Lib

/-- The first separator of a list splits it in one way. -/
theorem append_cons_inj {α : Type} {sep : α} : ∀ {xs xs' ys ys' : List α}, sep ∉ xs → sep ∉ xs' →
    xs ++ sep :: ys = xs' ++ sep :: ys' → xs = xs' ∧ ys = ys'
  | [], [], _, _, _, _, h => ⟨rfl, (List.cons.inj h).2⟩
  | [], x :: _, _, _, _, hxs', h => absurd (List.cons.inj h).1 (List.ne_of_not_mem_cons hxs')
  | x :: _, [], _, _, hxs, _, h => absurd (List.cons.inj h).1.symm (List.ne_of_not_mem_cons hxs)
  | x :: xs, x' :: xs', ys, ys', hxs, hxs', h => by
    obtain ⟨rfl, hrest⟩ := List.cons.inj h
    obtain ⟨rfl, rfl⟩ := append_cons_inj (List.not_mem_of_not_mem_cons hxs) (List.not_mem_of_not_mem_cons hxs') hrest
    exact ⟨rfl, rfl⟩

/-- So does the last one. -/
theorem append_cons_inj_right {α : Type} {sep : α} {xs xs' ys ys' : List α} (hys : sep ∉ ys) (hys' : sep ∉ ys')
    (h : xs ++ sep :: ys = xs' ++ sep :: ys') : xs = xs' ∧ ys = ys' := by
  have hreverse : ys.reverse ++ sep :: xs.reverse = ys'.reverse ++ sep :: xs'.reverse := by
    have := congrArg List.reverse h
    simpa using this
  obtain ⟨hy, hx⟩ := append_cons_inj (by simpa using hys) (by simpa using hys') hreverse
  exact ⟨List.reverse_injective hx, List.reverse_injective hy⟩

/-- Where parts may hold the separator, what stands between two of them can belong to either part. -/
theorem append_cons_eq_iff {α : Type} {sep : α} {xs xs' ys ys' : List α} :
    xs ++ sep :: ys = xs' ++ sep :: ys' ↔
      (xs = xs' ∧ ys = ys') ∨ (∃ part, xs = xs' ++ sep :: part ∧ ys' = part ++ sep :: ys) ∨
        ∃ part, xs' = xs ++ sep :: part ∧ ys = part ++ sep :: ys' := by
  constructor
  · intro h
    rcases List.append_eq_append_iff.1 h with ⟨between, hxs, hys⟩ | ⟨between, hxs, hys⟩
    · cases between with
      | nil => exact Or.inl ⟨by rw [hxs, List.append_nil], (List.cons.inj hys).2⟩
      | cons c part =>
        obtain ⟨rfl, hrest⟩ := List.cons.inj hys
        exact Or.inr (Or.inr ⟨part, hxs, hrest⟩)
    · cases between with
      | nil => exact Or.inl ⟨by rw [hxs, List.append_nil], (List.cons.inj hys).2.symm⟩
      | cons c part =>
        obtain ⟨rfl, hrest⟩ := List.cons.inj hys
        exact Or.inr (Or.inl ⟨part, hxs, hrest⟩)
  · rintro (⟨rfl, rfl⟩ | ⟨part, rfl, rfl⟩ | ⟨part, rfl, rfl⟩)
    · rfl
    · rw [List.append_assoc, List.cons_append]
    · rw [List.append_assoc, List.cons_append]

/-- Parts without the separator can be told apart in the text they are joined to. -/
theorem intercalate_inj {sep : Char} {l l' : List String} (hl : ∀ s ∈ l, sep ∉ s.toList) (hl' : ∀ s ∈ l', sep ∉ s.toList)
    (hne : l ≠ []) (hne' : l' ≠ [])
    (h : (String.singleton sep).intercalate l = (String.singleton sep).intercalate l') : l = l' := by
  have hsplit : ∀ m : List String, (∀ s ∈ m, sep ∉ s.toList) → m ≠ [] →
      ((String.singleton sep).intercalate m).toList.splitOn sep = m.map String.toList := by
    intro m hm hmne
    rw [String.toList_intercalate, String.toList_singleton]
    apply List.splitOn_intercalate
    · intro cs hcs
      obtain ⟨s, hs, rfl⟩ := List.mem_map.1 hcs
      exact hm s hs
    · simpa using hmne
  apply List.map_injective_iff.2 fun _ _ => String.toList_inj.1
  rw [← hsplit l hl hne, ← hsplit l' hl' hne', h]

/-- Lines without the line end can be told apart in the text they make up. -/
theorem join_lines_inj {sep : Char} : ∀ {l l' : List String}, (∀ s ∈ l, sep ∉ s.toList) → (∀ s ∈ l', sep ∉ s.toList) →
    String.join (l.map (· ++ String.singleton sep)) = String.join (l'.map (· ++ String.singleton sep)) → l = l'
  | [], [], _, _, _ => rfl
  | [], s :: l', _, _, h => by
    have hlists := congrArg String.toList h
    simp at hlists
  | s :: l, [], _, _, h => by
    have hlists := congrArg String.toList h
    simp at hlists
  | s :: l, s' :: l', hl, hl', h => by
    have hlists := congrArg String.toList h
    rw [List.map_cons, List.map_cons, String.join_cons, String.join_cons, String.toList_append, String.toList_append,
      String.toList_append, String.toList_append, String.toList_singleton, List.append_assoc, List.append_assoc] at hlists
    obtain ⟨hs, hrest⟩ := append_cons_inj (hl s List.mem_cons_self) (hl' s' List.mem_cons_self) hlists
    have hl : ∀ t ∈ l, sep ∉ t.toList := fun t ht => hl t (List.mem_cons_of_mem _ ht)
    have hl' : ∀ t ∈ l', sep ∉ t.toList := fun t ht => hl' t (List.mem_cons_of_mem _ ht)
    rw [String.toList_inj.1 hs, join_lines_inj hl hl' (String.toList_inj.1 hrest)]

theorem length_intercalate (sep : Char) {l : List String} (hne : l ≠ []) :
    ((String.singleton sep).intercalate l).length + 1 = (l.map fun s => s.length + 1).sum := by
  induction l with
  | nil => exact absurd rfl hne
  | cons s l ih =>
    cases l with
    | nil => rw [String.intercalate_singleton, List.map_singleton, List.sum_singleton]
    | cons t l =>
      have hsep : (String.singleton sep).length = 1 := by
        rw [← String.length_toList, String.toList_singleton, List.length_singleton]
      rw [String.intercalate_cons_cons, String.length_append, String.length_append, hsep, List.map_cons, List.sum_cons,
        ← ih (List.cons_ne_nil t l)]
      omega

/-- A list that is joined to no longer a text than some of its parts are has no other parts. -/
theorem perm_of_length_intercalate (sep : Char) {l m : List String} (hm : m.Nodup) (hne : m ≠ []) (hsub : m ⊆ l)
    (h : ((String.singleton sep).intercalate l).length ≤ ((String.singleton sep).intercalate m).length) : l.Perm m := by
  obtain ⟨m', hm', hsublist⟩ := List.subperm_of_subset hm hsub
  obtain ⟨others, hothers⟩ := hsublist.exists_perm_append
  have hperm : l.Perm (m ++ others) := hothers.trans (hm'.append_right others)
  have hlne : l ≠ [] := by
    rintro rfl
    exact hne (List.append_eq_nil_iff.1 (List.nil_perm.1 hperm)).1
  have hsum := (hperm.map fun s => s.length + 1).sum_eq
  rw [List.map_append, List.sum_append, ← length_intercalate sep hlne, ← length_intercalate sep hne] at hsum
  cases others with
  | nil => rwa [List.append_nil] at hperm
  | cons s others =>
    rw [List.map_cons, List.sum_cons] at hsum
    omega

theorem mem_toList_intercalate {sep s : String} {l : List String} (hs : s ∈ l) {c : Char} (hc : c ∈ s.toList) :
    c ∈ (sep.intercalate l).toList := by
  induction l with
  | nil => cases hs
  | cons t l ih =>
    cases l with
    | nil =>
      rw [String.intercalate_singleton, ← List.mem_singleton.1 hs]
      exact hc
    | cons u l =>
      rw [String.intercalate_cons_cons, String.toList_append, String.toList_append]
      rcases List.mem_cons.1 hs with rfl | hs
      · exact List.mem_append_left _ (List.mem_append_left _ hc)
      · exact List.mem_append_right _ (ih hs)

end IcttSentinel.Lib
