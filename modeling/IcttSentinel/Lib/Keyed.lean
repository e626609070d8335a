/-
Tables of rows with unique keys, in insertion order: the finite maps and database tables of a
program whose rows carry their own key. The uniqueness of the keys is a field of the table, so no
table can hold two rows under one key.
-/
import Mathlib.Tactic

namespace IcttSentinel.Lib

variable {ρ κ : Type*}

/-- Rows with pairwise distinct keys, oldest first. -/
structure Keyed (key : ρ → κ) where
  rows : List ρ
  nodup : (rows.map key).Nodup

namespace Keyed

variable {key : ρ → κ}

instance : EmptyCollection (Keyed key) := ⟨⟨[], List.nodup_nil⟩⟩

instance [DecidableEq ρ] : DecidableEq (Keyed key) := fun a b =>
  decidable_of_iff (a.rows = b.rows) ⟨fun h => by cases a; cases b; cases h; rfl, fun h => by rw [h]⟩

@[simp] theorem rows_empty : (∅ : Keyed key).rows = [] := rfl

@[ext] theorem ext {t u : Keyed key} (h : t.rows = u.rows) : t = u := by
  cases t; cases u; cases h; rfl

/-- Two stored rows under one key are the same row. -/
theorem eq_of_key (t : Keyed key) {a b : ρ} (ha : a ∈ t.rows) (hb : b ∈ t.rows) (h : key a = key b) : a = b :=
  List.inj_on_of_nodup_map t.nodup ha hb h

/-- Two tables with the same rows hold them in some order. -/
theorem rows_perm {t u : Keyed key} (h : ∀ x, x ∈ t.rows ↔ x ∈ u.rows) : t.rows.Perm u.rows :=
  (List.perm_ext_iff_of_nodup t.nodup.of_map u.nodup.of_map).2 h

/-! ## First rows of a list -/

/-- A row of the list that no earlier row shares its key with. -/
def IsFirst (key : ρ → κ) (l : List ρ) (r : ρ) : Prop :=
  ∃ pre post, l = pre ++ r :: post ∧ ∀ x ∈ pre, key x ≠ key r

theorem IsFirst.mem {l : List ρ} {r : ρ} (h : IsFirst key l r) : r ∈ l := by
  obtain ⟨pre, post, rfl, -⟩ := h
  simp

theorem not_isFirst_nil {r : ρ} : ¬ IsFirst key [] r := fun h => by simpa using h.mem

theorem isFirst_cons {a r : ρ} {l : List ρ} :
    IsFirst key (a :: l) r ↔ r = a ∨ (key a ≠ key r ∧ IsFirst key l r) := by
  constructor
  · rintro ⟨pre, post, h, hpre⟩
    cases pre with
    | nil => cases h; exact Or.inl rfl
    | cons p pre =>
      cases h
      exact Or.inr ⟨hpre a (by simp), pre, post, rfl, fun x hx => hpre x (by simp [hx])⟩
  · rintro (rfl | ⟨hne, pre, post, rfl, hpre⟩)
    · exact ⟨[], l, rfl, by simp⟩
    · refine ⟨a :: pre, post, rfl, fun x hx => ?_⟩
      rcases List.mem_cons.1 hx with rfl | hx
      · exact hne
      · exact hpre x hx

/-- In the list, a key determines the row it belongs to. -/
def Determines (key : ρ → κ) (l : List ρ) : Prop := ∀ a ∈ l, ∀ b ∈ l, key a = key b → a = b

/-! ## Deletion -/

/-- Keep the rows of a condition. -/
def keep (t : Keyed key) (p : ρ → Bool) : Keyed key where
  rows := t.rows.filter p
  nodup := t.nodup.sublist (List.filter_sublist.map key)

theorem mem_keep {t : Keyed key} {p : ρ → Bool} {r : ρ} : r ∈ (t.keep p).rows ↔ r ∈ t.rows ∧ p r = true := List.mem_filter

section Decidable

variable [DecidableEq κ]

/-- Whether a row is stored under the key. -/
def has (t : Keyed key) (k : κ) : Bool := t.rows.any (key · = k)

theorem has_iff {t : Keyed key} {k : κ} : t.has k = true ↔ ∃ r ∈ t.rows, key r = k := by
  simp [has]

theorem has_eq_false {t : Keyed key} {k : κ} : t.has k = false ↔ ∀ r ∈ t.rows, key r ≠ k := by
  simp [has]

/-! ## Insertion that never replaces -/

/-- Store a row unless its key is taken: the first row under a key stays. -/
def insertIfAbsent (t : Keyed key) (r : ρ) : Keyed key :=
  if h : t.has (key r) = true then t
  else ⟨t.rows ++ [r], by
    rw [Bool.not_eq_true, has_eq_false] at h
    rw [List.map_append, List.map_singleton]
    refine List.Nodup.append t.nodup (List.nodup_singleton _) ?_
    simpa [List.disjoint_singleton] using h⟩

theorem rows_insertIfAbsent (t : Keyed key) (r : ρ) :
    (t.insertIfAbsent r).rows = if t.has (key r) then t.rows else t.rows ++ [r] := by
  unfold insertIfAbsent
  split <;> simp_all

theorem mem_insertIfAbsent {t : Keyed key} {r x : ρ} :
    x ∈ (t.insertIfAbsent r).rows ↔ x ∈ t.rows ∨ (x = r ∧ t.has (key r) = false) := by
  rw [rows_insertIfAbsent]
  cases h : t.has (key r) <;> simp

/-- Store a batch of rows one by one. -/
def insertAll (t : Keyed key) (l : List ρ) : Keyed key := l.foldl insertIfAbsent t

@[simp] theorem insertAll_nil (t : Keyed key) : t.insertAll [] = t := rfl

@[simp] theorem insertAll_cons (t : Keyed key) (r : ρ) (l : List ρ) :
    t.insertAll (r :: l) = (t.insertIfAbsent r).insertAll l := rfl

theorem insertAll_append (t : Keyed key) (l m : List ρ) :
    t.insertAll (l ++ m) = (t.insertAll l).insertAll m := by
  simp [insertAll, List.foldl_append]

/-- Some row under each key of the list is the first of it. -/
theorem exists_isFirst {l : List ρ} {r : ρ} (h : r ∈ l) : ∃ x, IsFirst key l x ∧ key x = key r := by
  induction l with
  | nil => simp at h
  | cons a l ih =>
    by_cases hk : key a = key r
    · exact ⟨a, isFirst_cons.2 (Or.inl rfl), hk⟩
    · rcases List.mem_cons.1 h with rfl | h
      · exact absurd rfl hk
      · obtain ⟨x, hx, hxr⟩ := ih h
        exact ⟨x, isFirst_cons.2 (Or.inr ⟨by rwa [hxr], hx⟩), hxr⟩

/-- What a batch leaves stored: the rows that were there, and the first row of every new key. -/
theorem mem_insertAll {t : Keyed key} {l : List ρ} {x : ρ} :
    x ∈ (t.insertAll l).rows ↔ x ∈ t.rows ∨ (IsFirst key l x ∧ t.has (key x) = false) := by
  induction l generalizing t with
  | nil => simp [not_isFirst_nil]
  | cons a l ih =>
    rw [insertAll_cons, ih, mem_insertIfAbsent, isFirst_cons]
    have hhas : (t.insertIfAbsent a).has (key x) = false ↔ t.has (key x) = false ∧ key a ≠ key x := by
      rw [has_eq_false, has_eq_false]
      simp only [mem_insertIfAbsent]
      constructor
      · intro h
        have h1 : ∀ r ∈ t.rows, key r ≠ key x := fun r hr => h r (Or.inl hr)
        refine ⟨h1, fun hk => h a (Or.inr ⟨rfl, ?_⟩) hk⟩
        rw [has_eq_false, hk]
        exact h1
      · rintro ⟨h1, h2⟩ r (hr | ⟨rfl, -⟩)
        · exact h1 r hr
        · exact h2
    rw [hhas]
    constructor
    · rintro ((h | ⟨rfl, h⟩) | ⟨h, h1, h2⟩)
      · exact Or.inl h
      · exact Or.inr ⟨Or.inl rfl, h⟩
      · exact Or.inr ⟨Or.inr ⟨h2, h⟩, h1⟩
    · rintro (h | ⟨rfl | ⟨h2, h⟩, h1⟩)
      · exact Or.inl (Or.inl h)
      · exact Or.inl (Or.inr ⟨rfl, h1⟩)
      · exact Or.inr ⟨h, h1, h2⟩

theorem has_insertAll {t : Keyed key} {l : List ρ} {k : κ} :
    (t.insertAll l).has k = true ↔ t.has k = true ∨ ∃ r ∈ l, key r = k := by
  rw [has_iff, has_iff]
  constructor
  · rintro ⟨x, hx, rfl⟩
    rcases mem_insertAll.1 hx with hx | ⟨hx, -⟩
    · exact Or.inl ⟨x, hx, rfl⟩
    · exact Or.inr ⟨x, hx.mem, rfl⟩
  · rintro (⟨x, hx, rfl⟩ | ⟨r, hr, rfl⟩)
    · exact ⟨x, mem_insertAll.2 (Or.inl hx), rfl⟩
    · obtain ⟨x, hx, hkey⟩ : ∃ x, IsFirst key l x ∧ key x = key r := exists_isFirst hr
      cases hhas : t.has (key x) with
      | true =>
        obtain ⟨y, hy, hyx⟩ := has_iff.1 hhas
        exact ⟨y, mem_insertAll.2 (Or.inl hy), hyx.trans hkey⟩
      | false => exact ⟨x, mem_insertAll.2 (Or.inr ⟨hx, hhas⟩), hkey⟩

/-- Leaving rows out of a batch changes nothing exactly when the keys of these rows are taken before they come. -/
theorem insertAll_filter_eq_iff {t : Keyed key} {l : List ρ} {p : ρ → Bool} :
    t.insertAll (l.filter p) = t.insertAll l ↔
      ∀ pre r post, l = pre ++ r :: post → p r = false → (t.insertAll pre).has (key r) = true := by
  constructor
  · rintro h pre r post rfl hp
    by_contra hnew
    -- the row is stored by the whole batch, and by the shorter one it cannot be
    have hfirst : IsFirst key (pre ++ r :: post) r := by
      refine ⟨pre, post, rfl, fun x hx hk => hnew ?_⟩
      exact has_insertAll.2 (Or.inr ⟨x, hx, hk⟩)
    have hfree : t.has (key r) = false := by
      rw [← Bool.not_eq_true]
      exact fun hhas => hnew (has_insertAll.2 (Or.inl hhas))
    have hmem : r ∈ (t.insertAll ((pre ++ r :: post).filter p)).rows := by
      rw [h]
      exact mem_insertAll.2 (Or.inr ⟨hfirst, hfree⟩)
    rcases mem_insertAll.1 hmem with hin | ⟨hin, -⟩
    · exact absurd rfl (has_eq_false.1 hfree r hin)
    · rw [(List.mem_filter.1 hin.mem).2] at hp
      cases hp
  · intro h
    induction l using List.reverseRecOn with
    | nil => rfl
    | append_singleton l r ih =>
      have hinit := ih fun pre x post hl hp => h pre x (post ++ [r]) (by simp [hl]) hp
      rw [List.filter_append, insertAll_append, insertAll_append, hinit]
      cases hp : p r with
      | true => simp [hp]
      | false =>
        have hhas := h l r [] rfl hp
        simp [hp, insertIfAbsent, hhas]

theorem mem_insertAll_empty {l : List ρ} {x : ρ} : x ∈ ((∅ : Keyed key).insertAll l).rows ↔ IsFirst key l x := by
  simp [mem_insertAll, has]

/-- The first row of a key is the one found under it. -/
theorem isFirst_iff_find? {l : List ρ} {r : ρ} : IsFirst key l r ↔ l.find? (key · = key r) = some r := by
  rw [List.find?_eq_some_iff_append]
  constructor
  · rintro ⟨pre, post, h, hpre⟩
    exact ⟨decide_eq_true rfl, pre, post, h, fun x hx => by simpa using hpre x hx⟩
  · rintro ⟨-, pre, post, h, hpre⟩
    exact ⟨pre, post, h, fun x hx => by simpa using hpre x hx⟩

section Reading

variable {σ : Type*} {strip : ρ → σ} {keyOf : σ → κ} {l l' : List ρ}

/-- The first rows of two lists read the same. -/
def SameFirst (key : ρ → κ) (strip : ρ → σ) (l l' : List ρ) : Prop :=
  ∀ y, (∃ x, IsFirst key l x ∧ strip x = y) ↔ ∃ x, IsFirst key l' x ∧ strip x = y

omit [DecidableEq κ] in
theorem SameFirst.symm (h : SameFirst key strip l l') : SameFirst key strip l' l := fun y => (h y).symm

/-- Where rows of one key read the same, any of them stands for the first. -/
theorem exists_isFirst_iff (hsame : ∀ a ∈ l, ∀ b ∈ l, key a = key b → strip a = strip b) {y : σ} :
    (∃ x, IsFirst key l x ∧ strip x = y) ↔ y ∈ l.map strip := by
  rw [List.mem_map]
  constructor
  · rintro ⟨x, hx, hy⟩
    exact ⟨x, hx.mem, hy⟩
  · rintro ⟨x, hx, rfl⟩
    obtain ⟨x₀, hfirst, hx₀⟩ : ∃ x₀, IsFirst key l x₀ ∧ key x₀ = key x := exists_isFirst hx
    exact ⟨x₀, hfirst, hsame x₀ hfirst.mem x hx hx₀⟩

/-- What is read off a batch stored under keys. -/
theorem mem_map_insertAll (hkey : ∀ r, keyOf (strip r) = key r) {t : Keyed key} {y : σ} :
    y ∈ (t.insertAll l).rows.map strip ↔
      y ∈ t.rows.map strip ∨ ((∃ x, IsFirst key l x ∧ strip x = y) ∧ t.has (keyOf y) = false) := by
  simp only [List.mem_map]
  constructor
  · rintro ⟨x, hx, rfl⟩
    rcases mem_insertAll.1 hx with hx | ⟨hx, hnew⟩
    · exact Or.inl ⟨x, hx, rfl⟩
    · rw [← hkey] at hnew
      exact Or.inr ⟨⟨x, hx, rfl⟩, hnew⟩
  · rintro (⟨x, hx, rfl⟩ | ⟨⟨x, hx, rfl⟩, hnew⟩)
    · exact ⟨x, mem_insertAll.2 (Or.inl hx), rfl⟩
    · rw [hkey] at hnew
      exact ⟨x, mem_insertAll.2 (Or.inr ⟨hx, hnew⟩), rfl⟩

variable (keyOf) in
/-- Batches whose first rows read the same leave the same to be read. -/
theorem map_insertAll_perm (hkey : ∀ r, keyOf (strip r) = key r) (hfirst : SameFirst key strip l l') (t : Keyed key) :
    ((t.insertAll l).rows.map strip).Perm ((t.insertAll l').rows.map strip) := by
  have hnodup : ∀ u : Keyed key, (u.rows.map strip).Nodup := by
    intro u
    have hkeys : (u.rows.map strip).map keyOf = u.rows.map key := by
      rw [List.map_map]
      exact List.map_congr_left fun r _ => hkey r
    have h := u.nodup
    rw [← hkeys] at h
    exact h.of_map
  refine (List.perm_ext_iff_of_nodup (hnodup _) (hnodup _)).2 fun y => ?_
  rw [mem_map_insertAll hkey, mem_map_insertAll hkey, hfirst y]

end Reading

/-! ## Rewriting in place -/

/-- Rewrite every row, leaving each under its key. -/
def mapRows (t : Keyed key) (f : ρ → ρ) (hf : ∀ r, key (f r) = key r) : Keyed key where
  rows := t.rows.map f
  nodup := by
    have hkeys : (t.rows.map f).map key = t.rows.map key := by
      rw [List.map_map]
      exact List.map_congr_left fun r _ => hf r
    rw [hkeys]
    exact t.nodup

/-! ## Keys that determine their rows -/

theorem Determines.isFirst_iff {l : List ρ} (hl : Determines key l) {x : ρ} : IsFirst key l x ↔ x ∈ l := by
  refine ⟨IsFirst.mem, fun hx => ?_⟩
  obtain ⟨y, hy, hyx⟩ : ∃ y, IsFirst key l y ∧ key y = key x := exists_isFirst hx
  rwa [← hl y hy.mem x hx hyx]

theorem Determines.mem_insertAll_empty {l : List ρ} (hl : Determines key l) {x : ρ} :
    x ∈ ((∅ : Keyed key).insertAll l).rows ↔ x ∈ l := by
  rw [Keyed.mem_insertAll_empty, hl.isFirst_iff]

/-! ## Insertion that replaces -/

/-- Store a row in the place of the row under its key, or behind all others. -/
def upsert (t : Keyed key) (r : ρ) : Keyed key where
  rows := if t.has (key r) then t.rows.map (fun x => if key x = key r then r else x) else t.rows ++ [r]
  nodup := by
    split
    · have hkeys : (t.rows.map fun x => if key x = key r then r else x).map key = t.rows.map key := by
        rw [List.map_map]
        refine List.map_congr_left fun x _ => ?_
        by_cases h : key x = key r <;> simp [h]
      rw [hkeys]
      exact t.nodup
    · rename_i h
      have hadd := (t.insertIfAbsent r).nodup
      rwa [rows_insertIfAbsent, if_neg h] at hadd

theorem mem_upsert {t : Keyed key} {r x : ρ} :
    x ∈ (t.upsert r).rows ↔ x = r ∨ (x ∈ t.rows ∧ key x ≠ key r) := by
  cases h : t.has (key r) with
  | true =>
    simp only [upsert, h, if_true, List.mem_map]
    obtain ⟨y, hy, hyk⟩ := has_iff.1 h
    constructor
    · rintro ⟨z, hz, rfl⟩
      by_cases hk : key z = key r
      · exact Or.inl (if_pos hk)
      · rw [if_neg hk]; exact Or.inr ⟨hz, hk⟩
    · rintro (rfl | ⟨hx, hk⟩)
      · exact ⟨y, hy, if_pos hyk⟩
      · exact ⟨x, hx, if_neg hk⟩
  | false =>
    simp only [upsert, h, Bool.false_eq_true, if_false, List.mem_append, List.mem_singleton]
    constructor
    · rintro (hx | rfl)
      · exact Or.inr ⟨hx, has_eq_false.1 h x hx⟩
      · exact Or.inl rfl
    · rintro (rfl | ⟨hx, -⟩)
      · exact Or.inr rfl
      · exact Or.inl hx

theorem rows_upsert_of_not_has {t : Keyed key} {r : ρ} (h : t.has (key r) = false) :
    (t.upsert r).rows = t.rows ++ [r] := by
  simp [upsert, h]

/-! ## Reading -/

/-- The row under a key. -/
def lookup (t : Keyed key) (k : κ) : Option ρ := t.rows.find? (key · = k)

theorem lookup_eq_some {t : Keyed key} {k : κ} {r : ρ} : t.lookup k = some r ↔ r ∈ t.rows ∧ key r = k := by
  unfold lookup
  constructor
  · intro h
    exact ⟨List.mem_of_find?_eq_some h, by simpa using List.find?_some h⟩
  · rintro ⟨hr, hk⟩
    cases hf : t.rows.find? (key · = k) with
    | none => exact absurd hk (by simpa using List.find?_eq_none.1 hf r hr)
    | some x =>
      have hx : key x = k := by simpa using List.find?_some hf
      rw [t.eq_of_key (List.mem_of_find?_eq_some hf) hr (hx.trans hk.symm)]

theorem lookup_eq_none {t : Keyed key} {k : κ} : t.lookup k = none ↔ ∀ r ∈ t.rows, key r ≠ k := by
  simp [lookup]

theorem lookup_mapRows (t : Keyed key) (f : ρ → ρ) (hf : ∀ r, key (f r) = key r) (k : κ) :
    (t.mapRows f hf).lookup k = (t.lookup k).map f := by
  show (t.rows.map f).find? (key · = k) = (t.rows.find? (key · = k)).map f
  rw [List.find?_map]
  have hkeys : (fun r => decide (key r = k)) ∘ f = fun r => decide (key r = k) := by
    funext r
    simp [hf]
  rw [hkeys]

@[simp] theorem lookup_empty (k : κ) : (∅ : Keyed key).lookup k = none := rfl

theorem lookup_upsert (t : Keyed key) (r : ρ) (k : κ) :
    (t.upsert r).lookup k = if k = key r then some r else t.lookup k := by
  refine Option.ext fun x => ?_
  rw [lookup_eq_some, mem_upsert]
  split
  · rename_i hk
    rw [Option.some_inj]
    exact ⟨fun h => (h.1.resolve_right fun hx => hx.2 (h.2.trans hk)).symm, fun h => ⟨Or.inl h.symm, h ▸ hk.symm⟩⟩
  · rename_i hk
    rw [lookup_eq_some]
    constructor
    · rintro ⟨rfl | ⟨hx, -⟩, hxk⟩
      · exact absurd hxk.symm hk
      · exact ⟨hx, hxk⟩
    · rintro ⟨hx, hxk⟩
      exact ⟨Or.inr ⟨hx, fun h => hk (hxk.symm.trans h)⟩, hxk⟩

/-- After a batch, a key reads what was stored under it, or else the first of the batch under it. -/
theorem lookup_insertAll (t : Keyed key) (l : List ρ) (k : κ) :
    (t.insertAll l).lookup k = (t.lookup k).or (l.find? (key · = k)) := by
  induction l generalizing t with
  | nil => simp
  | cons a l ih =>
    rw [insertAll_cons, ih]
    show ((t.insertIfAbsent a).rows.find? (key · = k)).or (l.find? (key · = k)) =
      (t.rows.find? (key · = k)).or ((a :: l).find? (key · = k))
    rw [rows_insertIfAbsent]
    by_cases hk : key a = k
    · subst hk
      cases hhas : t.has (key a) with
      | true =>
        obtain ⟨r, hr, hrk⟩ := has_iff.1 hhas
        have hfound : t.rows.find? (key · = key a) = some r := lookup_eq_some.2 ⟨hr, hrk⟩
        simp [hfound]
      | false =>
        have hnone : t.rows.find? (key · = key a) = none := lookup_eq_none.2 (has_eq_false.1 hhas)
        simp [hnone, List.find?_append]
    · cases t.has (key a) with
      | true => simp [hk]
      | false => simp [List.find?_append, hk]

/-- A row of the batch has a row of its kind in the table exactly when what its key reads afterwards is of its kind. -/
theorem exists_mem_insertAll_iff {kind : ρ → ρ → Prop} (hkey : ∀ x r, kind x r → key x = key r) (t : Keyed key)
    {l : List ρ} {r : ρ} (hr : r ∈ l) :
    (∃ x ∈ (t.insertAll l).rows, kind x r) ↔ ∀ x ∈ (t.lookup (key r)).or (l.find? (key · = key r)), kind x r := by
  rw [← lookup_insertAll]
  constructor
  · rintro ⟨x, hx, hkind⟩ y hy
    obtain ⟨hy, hyr⟩ := lookup_eq_some.1 hy
    rw [eq_of_key _ hy hx (hyr.trans (hkey x r hkind).symm)]
    exact hkind
  · intro h
    cases hread : (t.insertAll l).lookup (key r) with
    | none =>
      rw [lookup_insertAll, Option.or_eq_none_iff, List.find?_eq_none] at hread
      simpa using hread.2 r hr
    | some y => exact ⟨y, (lookup_eq_some.1 hread).1, h y hread⟩

/-- Upsert a batch of rows one by one. -/
def upsertAll (t : Keyed key) (l : List ρ) : Keyed key := l.foldl upsert t

/-- Where the keys are distinct and new, a batch of upserts only appends. -/
theorem rows_upsertAll_of_nodup {t : Keyed key} {l : List ρ} (h : ((t.rows ++ l).map key).Nodup) :
    (t.upsertAll l).rows = t.rows ++ l := by
  induction l generalizing t with
  | nil => simp [upsertAll]
  | cons a l ih =>
    have hnew : t.has (key a) = false := by
      rw [has_eq_false]
      intro x hx hk
      rw [List.map_append, List.map_cons] at h
      exact List.disjoint_of_nodup_append h (List.mem_map_of_mem hx) (by simp [hk])
    have happ := rows_upsert_of_not_has hnew
    have : ((t.upsert a).upsertAll l).rows = (t.upsert a).rows ++ l := ih (by rw [happ]; simpa using h)
    rw [happ] at this
    simpa [upsertAll] using this

theorem mem_upsertAll {t : Keyed key} {l : List ρ} {x : ρ} (h : x ∈ (t.upsertAll l).rows) : x ∈ t.rows ∨ x ∈ l := by
  induction l generalizing t with
  | nil => exact Or.inl h
  | cons a l ih =>
    rcases ih h with hx | hx
    · rcases mem_upsert.1 hx with rfl | ⟨hx, -⟩
      · exact Or.inr List.mem_cons_self
      · exact Or.inl hx
    · exact Or.inr (List.mem_cons_of_mem a hx)

/-- A batch that leaves as many rows as it holds has replaced none, and is what is there. -/
theorem rows_upsertAll_of_length {l : List ρ} (h : ((∅ : Keyed key).upsertAll l).rows.length = l.length) :
    ((∅ : Keyed key).upsertAll l).rows = l := by
  have hsub : ((∅ : Keyed key).upsertAll l).rows ⊆ l := fun x hx => (mem_upsertAll hx).resolve_left List.not_mem_nil
  have hperm : ((∅ : Keyed key).upsertAll l).rows.Perm l :=
    ((Keyed.nodup _).of_map.subperm hsub).perm_of_length_le (le_of_eq h.symm)
  exact rows_upsertAll_of_nodup ((hperm.map key).nodup_iff.1 (Keyed.nodup _))

/-- A run whose steps put one row each under a new key appends these rows. -/
theorem rows_foldlM {σ α ε : Type*} (table : σ → Keyed key) (name : α → κ) (P : α → ρ → Prop) {step : σ → α → Except ε σ}
    (hstep : ∀ s a s', step s a = .ok s' → ∃ r, key r = name a ∧ P a r ∧ table s' = (table s).upsert r) {l : List α}
    {s s' : σ} (hnew : ((table s).rows.map key ++ l.map name).Nodup) (h : l.foldlM step s = .ok s') :
    ∃ rows, (table s').rows = (table s).rows ++ rows ∧ List.Forall₂ (fun a r => key r = name a ∧ P a r) l rows := by
  induction l generalizing s with
  | nil =>
    cases h
    exact ⟨[], (List.append_nil _).symm, .nil⟩
  | cons a l ih =>
    rw [List.foldlM_cons] at h
    cases hfirst : step s a with
    | error e =>
      rw [hfirst] at h
      cases h
    | ok s₁ =>
      rw [hfirst] at h
      obtain ⟨r, hkey, hP, htable⟩ := hstep s a s₁ hfirst
      rw [List.map_cons, List.append_cons, ← hkey] at hnew
      have habsent : (table s).has (key r) = false := by
        rw [has_eq_false]
        intro x hx hxr
        apply List.disjoint_of_nodup_append (List.Nodup.of_append_left hnew) (List.mem_map_of_mem hx)
        rw [hxr]
        exact List.mem_singleton_self _
      have hrows : (table s₁).rows = (table s).rows ++ [r] := by rw [htable, rows_upsert_of_not_has habsent]
      have hrest : ((table s₁).rows.map key ++ l.map name).Nodup := by rwa [hrows, List.map_append, List.map_singleton]
      obtain ⟨rows, htail, hforall⟩ := ih hrest h
      refine ⟨r :: rows, ?_, .cons ⟨hkey, hP⟩ hforall⟩
      rw [htail, hrows, List.append_assoc, List.singleton_append]

end Decidable

end Keyed

end IcttSentinel.Lib
