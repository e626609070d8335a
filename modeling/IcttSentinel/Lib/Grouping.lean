/-
Grouping the values of a list by a key: an insertion-ordered map from each key to the values under
it, each group in the order its values came.
-/
import IcttSentinel.Lib.Keyed

namespace IcttSentinel.Lib

variable {κ α : Type*} [DecidableEq κ]

/-- A map from keys to the values grouped under them. -/
abbrev Groups (κ α : Type*) := Keyed (Prod.fst : κ × List α → κ)

/-- The values grouped under a key, none if the key is absent. -/
def Groups.at_ (g : Groups κ α) (k : κ) : List α := ((g.rows.find? (·.1 = k)).map (·.2)).getD []

/-- Group the values of a list one by one. -/
def groupBy (key : α → κ) (l : List α) : Groups κ α :=
  l.foldl (fun g a => g.upsert (key a, g.at_ (key a) ++ [a])) ∅

theorem groupBy_snoc (key : α → κ) (l : List α) (a : α) :
    groupBy key (l ++ [a]) = (groupBy key l).upsert (key a, (groupBy key l).at_ (key a) ++ [a]) := by
  simp [groupBy, List.foldl_append]

/-- The group of a stored row. -/
theorem Groups.at_of_mem {g : Groups κ α} {k : κ} {l : List α} (h : (k, l) ∈ g.rows) : g.at_ k = l := by
  unfold Groups.at_
  cases hf : g.rows.find? (·.1 = k) with
  | none => simpa using List.find?_eq_none.1 hf (k, l) h
  | some row =>
    have hk : row.1 = k := by simpa using List.find?_some hf
    have hrow : row = (k, l) := g.eq_of_key (List.mem_of_find?_eq_some hf) h hk
    rw [hrow]
    rfl

theorem Groups.at_of_not_has {g : Groups κ α} {k : κ} (h : g.has k = false) : g.at_ k = [] := by
  have hnone : g.rows.find? (·.1 = k) = none := by
    rw [List.find?_eq_none]
    intro row hrow
    simpa using Keyed.has_eq_false.1 h row hrow
  simp [Groups.at_, hnone]

/-- One upsert changes the group under its own key only. -/
theorem Groups.at_upsert (g : Groups κ α) (k k' : κ) (l : List α) :
    Groups.at_ (g.upsert (k, l)) k' = if k' = k then l else g.at_ k' := by
  split
  · rename_i hk
    rw [hk]
    exact Groups.at_of_mem (Keyed.mem_upsert.2 (Or.inl rfl))
  · rename_i hk
    cases h : g.has k' with
    | true =>
      obtain ⟨⟨k₁, l₁⟩, hrow, hk₁⟩ := Keyed.has_iff.1 h
      obtain rfl : k₁ = k' := hk₁
      rw [Groups.at_of_mem hrow]
      exact Groups.at_of_mem (Keyed.mem_upsert.2 (Or.inr ⟨hrow, hk⟩))
    | false =>
      rw [Groups.at_of_not_has h]
      refine Groups.at_of_not_has (Keyed.has_eq_false.2 fun row hrow => ?_)
      rcases Keyed.mem_upsert.1 hrow with rfl | ⟨hrow, -⟩
      · exact fun h => hk h.symm
      · exact Keyed.has_eq_false.1 h row hrow

/-- A group holds the values with its key, in order. -/
theorem at_groupBy (key : α → κ) (l : List α) (k : κ) :
    Groups.at_ (groupBy key l) k = l.filter (key · = k) := by
  induction l using List.reverseRecOn with
  | nil => rfl
  | append_singleton l a ih =>
    rw [groupBy_snoc, Groups.at_upsert, List.filter_append]
    by_cases hk : k = key a
    · subst hk
      simp [ih]
    · have hk' : ¬ key a = k := fun h => hk h.symm
      simp [ih, hk, hk']

theorem has_groupBy {key : α → κ} {l : List α} {k : κ} : (groupBy key l).has k = true ↔ k ∈ l.map key := by
  induction l using List.reverseRecOn with
  | nil => simp [groupBy, Keyed.has]
  | append_singleton l a ih =>
    rw [groupBy_snoc, Keyed.has_iff, List.map_append, List.mem_append, ← ih, Keyed.has_iff]
    simp only [Keyed.mem_upsert, List.map_singleton, List.mem_singleton]
    constructor
    · rintro ⟨row, rfl | ⟨hrow, -⟩, hk⟩
      · exact Or.inr hk.symm
      · exact Or.inl ⟨row, hrow, hk⟩
    · rintro (⟨row, hrow, hk⟩ | rfl)
      · by_cases hka : row.1 = key a
        · exact ⟨_, Or.inl rfl, hka.symm.trans hk⟩
        · exact ⟨row, Or.inr ⟨hrow, hka⟩, hk⟩
      · exact ⟨_, Or.inl rfl, rfl⟩

theorem mem_keys_groupBy {key : α → κ} {l : List α} {k : κ} : k ∈ (groupBy key l).rows.map Prod.fst ↔ k ∈ l.map key :=
  (List.mem_map.trans Keyed.has_iff.symm).trans has_groupBy

theorem mem_rows_groupBy {key : α → κ} {l : List α} {k : κ} {g : List α} (h : (k, g) ∈ (groupBy key l).rows) :
    g = l.filter (key · = k) ∧ ∃ a ∈ l, key a = k := by
  refine ⟨(Groups.at_of_mem h).symm.trans (at_groupBy key l k), ?_⟩
  have hhas : (groupBy key l).has k = true := Keyed.has_iff.2 ⟨(k, g), h, rfl⟩
  exact List.mem_map.1 (has_groupBy.1 hhas)

theorem rows_groupBy_eq_nil {key : α → κ} {l : List α} : (groupBy key l).rows = [] ↔ l = [] := by
  constructor
  · intro h
    rw [List.eq_nil_iff_forall_not_mem]
    intro a ha
    have hhas : (groupBy key l).has (key a) = true := has_groupBy.2 (List.mem_map_of_mem ha)
    obtain ⟨row, hrow, -⟩ := Keyed.has_iff.1 hhas
    rw [h] at hrow
    exact List.not_mem_nil hrow
  · rintro rfl
    rfl

/-- Where every value has the same key, there is one group. -/
theorem rows_groupBy_of_const {key : α → κ} {l : List α} {k : κ} (hne : l ≠ []) (hk : ∀ a ∈ l, key a = k) :
    (groupBy key l).rows = [(k, l)] := by
  have hall : ∀ row ∈ (groupBy key l).rows, row = (k, l) := by
    rintro ⟨k', g⟩ hrow
    obtain ⟨rfl, a, ha, rfl⟩ := mem_rows_groupBy hrow
    rw [hk a ha, List.filter_eq_self.2]
    intro b hb
    exact decide_eq_true (hk b hb)
  cases hrows : (groupBy key l).rows with
  | nil => exact absurd (rows_groupBy_eq_nil.1 hrows) hne
  | cons row rest =>
    rw [hrows] at hall
    obtain rfl := hall row List.mem_cons_self
    cases rest with
    | nil => rfl
    | cons row' rest =>
      -- a second group would have the same key
      obtain rfl := hall row' (List.mem_cons_of_mem _ List.mem_cons_self)
      have hnodup := (groupBy key l).nodup
      rw [hrows] at hnodup
      exact absurd List.mem_cons_self (List.nodup_cons.1 hnodup).1

/-- Two values with different keys are in two groups. -/
theorem rows_groupBy_of_ne {key : α → κ} {l : List α} {a b : α} (ha : a ∈ l) (hb : b ∈ l) (hne : key a ≠ key b) :
    ∃ x y rest, (groupBy key l).rows = x :: y :: rest := by
  have hhas : ∀ c ∈ l, (groupBy key l).has (key c) = true := fun c hc => has_groupBy.2 (List.mem_map_of_mem hc)
  obtain ⟨x, hx, hxa⟩ := Keyed.has_iff.1 (hhas a ha)
  obtain ⟨y, hy, hyb⟩ := Keyed.has_iff.1 (hhas b hb)
  cases hrows : (groupBy key l).rows with
  | nil =>
    rw [hrows] at hx
    exact absurd hx List.not_mem_nil
  | cons row rest =>
    cases rest with
    | nil =>
      rw [hrows, List.mem_singleton] at hx hy
      exact absurd (hxa.symm.trans ((congrArg Prod.fst (hx.trans hy.symm)).trans hyb)) hne
    | cons row' rest => exact ⟨row, row', rest, rfl⟩

/-- Where no key repeats, every value is a group of its own. -/
theorem rows_groupBy_of_nodup {key : α → κ} {l : List α} (h : (l.map key).Nodup) :
    (groupBy key l).rows = l.map fun a => (key a, [a]) := by
  induction l using List.reverseRecOn with
  | nil => rfl
  | append_singleton l a ih =>
    rw [List.map_append, List.map_singleton] at h
    have hnew : (groupBy key l).has (key a) = false := by
      rw [← Bool.not_eq_true, has_groupBy]
      exact fun hmem => List.disjoint_of_nodup_append h hmem (by simp)
    rw [groupBy_snoc, Groups.at_of_not_has hnew, Keyed.rows_upsert_of_not_has hnew,
      ih (List.Nodup.of_append_left h)]
    simp

/-! ## What is read off one key at a time -/

section Reading

variable {β : Type*} {keys keys' : List κ} {f f' : κ → List β}

omit [DecidableEq κ] in
/-- The same readings of the same keys come in some order. -/
theorem flatMap_keys_perm (hnodup : keys.Nodup) (hnodup' : keys'.Nodup) (hmem : ∀ k, k ∈ keys ↔ k ∈ keys')
    (hf : ∀ k ∈ keys, f k = f' k) : (keys.flatMap f).Perm (keys'.flatMap f') := by
  rw [List.flatMap_congr hf]
  exact List.Perm.flatMap_right f' ((List.perm_ext_iff_of_nodup hnodup hnodup').2 hmem)

/-- Where what is read off a key names it, the readings of all keys can be told apart. -/
theorem filter_flatMap_keys {key : β → κ} (hnodup : keys.Nodup) (hkey : ∀ k, ∀ b ∈ f k, key b = k) {k : κ}
    (hout : k ∉ keys → f k = []) : (keys.flatMap f).filter (fun b => key b = k) = f k := by
  have hsame : ∀ k', (f k').filter (fun b => key b = k) = if k' = k then f k else [] := by
    intro k'
    split
    · rename_i hk
      rw [hk, List.filter_eq_self]
      exact fun b hb => decide_eq_true (hkey k b hb)
    · rename_i hk
      rw [List.filter_eq_nil_iff]
      exact fun b hb hb' => hk ((hkey k' b hb).symm.trans (of_decide_eq_true hb'))
  induction keys with
  | nil => exact (hout List.not_mem_nil).symm
  | cons k' keys ih =>
    obtain ⟨hk', hnodup⟩ := List.nodup_cons.1 hnodup
    rw [List.flatMap_cons, List.filter_append, hsame]
    split
    · rename_i hk
      -- no later key is read again
      have hrest : (keys.flatMap f).filter (fun b => key b = k) = [] := by
        rw [List.filter_eq_nil_iff]
        intro b hb hbk
        obtain ⟨k'', hk'', hb⟩ := List.mem_flatMap.1 hb
        apply hk'
        rw [hk, ← of_decide_eq_true hbk, hkey k'' b hb]
        exact hk''
      rw [hrest, List.append_nil]
    · rename_i hk
      rw [List.nil_append]
      apply ih hnodup
      intro hnot
      apply hout
      rw [List.mem_cons, not_or]
      exact ⟨fun h => hk h.symm, hnot⟩

end Reading

end IcttSentinel.Lib
