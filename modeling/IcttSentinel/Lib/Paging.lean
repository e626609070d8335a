/-
Listing a table page by page: a page holds the first rows past a cursor, in the order of a key, and the next cursor is
the key of its last row. Following the cursor lists what was there at the start exactly once and in order, whatever is
inserted meanwhile, and ends as soon as no more is put in ahead of it.
-/
import IcttSentinel.Lib.Sorting

namespace IcttSentinel.Lib

section Paging

variable {α κ : Type*} [LinearOrder κ] (key : α → κ)

/-- The row comes after the cursor. -/
def past (cursor : Option κ) (a : α) : Bool := cursor.all fun c => decide (c < key a)

def pageOf (rows : List α) (limit : Nat) (cursor : Option κ) : List α :=
  (sortOn key (rows.filter (past key cursor))).take limit

/-- A full page may not be the last one. -/
def nextOf (limit : Nat) (page : List α) : Option κ := if page.length = limit then page.getLast?.map key else none

/-- What is listed by following the cursor, each page read from the next content, and whether the listing ended. -/
def follow (limit : Nat) : List (List α) → Option κ → List α × Bool
  | [], _ => ([], false)
  | rows :: contents, cursor =>
    match nextOf key limit (pageOf key rows limit cursor) with
    | none => (pageOf key rows limit cursor, true)
    | some c => (pageOf key rows limit cursor ++ (follow limit contents (some c)).1, (follow limit contents (some c)).2)

variable {key}

theorem past_some {c : κ} {a : α} : past key (some c) a = true ↔ c < key a := by simp [past]

theorem past_trans {cursor : Option κ} {a b : α} (hb : past key cursor b = true) (h : key b ≤ key a) :
    past key cursor a = true := by
  cases cursor with
  | none => rfl
  | some c => exact past_some.2 ((past_some.1 hb).trans_le h)

/-! ## Strict orders -/

/-- Of two lists in strict order, the one whose rows are among the other's is part of it. -/
theorem sublist_of_strict {l m : List α} (hl : l.Pairwise fun a b => key a < key b) (hm : m.Pairwise fun a b => key a < key b)
    (h : ∀ a ∈ l, a ∈ m) : List.Sublist l m := by
  have hantisymm : Std.Antisymm fun a b : α => key a < key b := ⟨fun a b hab hba => absurd hab (not_lt.2 hba.le)⟩
  have hnodup : l.Nodup := hl.imp fun {a b} hab heq => absurd hab (by rw [heq]; exact lt_irrefl _)
  exact List.sublist_of_subperm_of_pairwise (List.subperm_of_subset hnodup h) hl hm

/-! ## One page -/

section Page

variable {rows : List α} {limit : Nat} {cursor : Option κ}

omit [LinearOrder κ] in
theorem nodup_filter (hkeys : (rows.map key).Nodup) (p : α → Bool) : ((rows.filter p).map key).Nodup :=
  hkeys.sublist (List.filter_sublist.map key)

theorem pageOf_strict (hkeys : (rows.map key).Nodup) : (pageOf key rows limit cursor).Pairwise fun a b => key a < key b :=
  (pairwise_lt_sortOn (nodup_filter hkeys _)).sublist (List.take_sublist _ _)

theorem mem_of_mem_pageOf {a : α} (h : a ∈ pageOf key rows limit cursor) : a ∈ rows ∧ past key cursor a = true := by
  have h := List.mem_of_mem_take h
  rwa [mem_sortOn, List.mem_filter] at h

/-- The last page holds all that is past the cursor. -/
theorem mem_pageOf_of_last (hnext : nextOf key limit (pageOf key rows limit cursor) = none) (hlimit : 0 < limit) {a : α}
    (ha : a ∈ rows) (hpast : past key cursor a = true) : a ∈ pageOf key rows limit cursor := by
  have hall : a ∈ sortOn key (rows.filter (past key cursor)) := mem_sortOn.2 (List.mem_filter.2 ⟨ha, hpast⟩)
  unfold nextOf at hnext
  split at hnext
  next hfull =>
    -- a full page has a last row
    rw [Option.map_eq_none_iff, List.getLast?_eq_none_iff] at hnext
    rw [hnext, List.length_nil] at hfull
    omega
  next hshort =>
    unfold pageOf at hshort ⊢
    rw [List.length_take] at hshort
    rw [List.take_of_length_le (by omega)]
    exact hall

/-- A page with a next cursor ends there, and holds all up to it. -/
theorem pageOf_of_next {c : κ} (hkeys : (rows.map key).Nodup) (hnext : nextOf key limit (pageOf key rows limit cursor) = some c) :
    (∃ a ∈ pageOf key rows limit cursor, key a = c) ∧ (∀ a ∈ pageOf key rows limit cursor, key a ≤ c) ∧
      ∀ a ∈ rows, past key cursor a = true → key a ≤ c → a ∈ pageOf key rows limit cursor := by
  unfold nextOf at hnext
  split at hnext
  case isFalse => cases hnext
  obtain ⟨last, hlast, rfl⟩ := Option.map_eq_some_iff.1 hnext
  obtain ⟨before, hpage⟩ := List.getLast?_eq_some_iff.1 hlast
  have hmem : last ∈ pageOf key rows limit cursor := List.mem_of_getLast? hlast
  have hstrict : (pageOf key rows limit cursor).Pairwise fun a b => key a < key b := pageOf_strict hkeys
  refine ⟨⟨last, hmem, rfl⟩, fun a ha => ?_, fun a ha hpast hle => ?_⟩
  · rw [hpage] at ha hstrict
    rcases List.mem_append.1 ha with ha | ha
    · exact ((List.pairwise_append.1 hstrict).2.2 a ha last List.mem_cons_self).le
    · rw [List.mem_singleton.1 ha]
  · -- what is not on the page comes after all of it
    have hall : a ∈ sortOn key (rows.filter (past key cursor)) := mem_sortOn.2 (List.mem_filter.2 ⟨ha, hpast⟩)
    have hsplit := List.take_append_drop limit (sortOn key (rows.filter (past key cursor)))
    have horder := pairwise_lt_sortOn (nodup_filter hkeys (past key cursor))
    rw [← hsplit] at hall horder
    rcases List.mem_append.1 hall with hpage | hrest
    · exact hpage
    · exact absurd hle (not_le.2 ((List.pairwise_append.1 horder).2.2 last hmem a hrest))

end Page

/-! ## Following the cursor -/

section Follow

variable {limit : Nat} {contents : List (List α)} {cursor : Option κ}

/-- What is listed is past the cursor, in strict order, and was in a content. -/
theorem follow_ordered (hkeys : ∀ rows ∈ contents, (rows.map key).Nodup) :
    (follow key limit contents cursor).1.Pairwise (fun a b => key a < key b) ∧
      ∀ a ∈ (follow key limit contents cursor).1, past key cursor a = true ∧ ∃ rows ∈ contents, a ∈ rows := by
  induction contents generalizing cursor with
  | nil => exact ⟨List.Pairwise.nil, fun a ha => absurd ha List.not_mem_nil⟩
  | cons rows contents ih =>
    have hrows := hkeys rows List.mem_cons_self
    have hpage : ∀ a ∈ pageOf key rows limit cursor, past key cursor a = true ∧ ∃ s ∈ rows :: contents, a ∈ s :=
      fun a ha => ⟨(mem_of_mem_pageOf ha).2, rows, List.mem_cons_self, (mem_of_mem_pageOf ha).1⟩
    rw [follow]
    split
    next hnext => exact ⟨pageOf_strict hrows, hpage⟩
    next c hnext =>
      obtain ⟨⟨last, hlast, hkey⟩, hle, -⟩ := pageOf_of_next hrows hnext
      obtain ⟨hstrict, hmem⟩ := @ih (some c) fun s hs => hkeys s (List.mem_cons_of_mem _ hs)
      refine ⟨List.pairwise_append.2 ⟨pageOf_strict hrows, hstrict, fun a ha b hb => ?_⟩, fun a ha => ?_⟩
      · exact (hle a ha).trans_lt (past_some.1 (hmem b hb).1)
      · rcases List.mem_append.1 ha with ha | ha
        · exact hpage a ha
        · obtain ⟨hpast, s, hs, has⟩ := hmem a ha
          have hafter : key last ≤ key a := by
            rw [hkey]
            exact (past_some.1 hpast).le
          exact ⟨past_trans (mem_of_mem_pageOf hlast).2 hafter, s, List.mem_cons_of_mem _ hs, has⟩

/-- A listing that ended has listed all that stayed in the contents, in order. -/
theorem follow_lists (hlimit : 0 < limit) {initial : List α} (hinitial : (initial.map key).Nodup)
    (hkeys : ∀ rows ∈ contents, (rows.map key).Nodup) (hkept : ∀ rows ∈ contents, ∀ a ∈ initial, a ∈ rows)
    (hended : (follow key limit contents cursor).2 = true) :
    List.Sublist (sortOn key (initial.filter (past key cursor))) (follow key limit contents cursor).1 := by
  have hsorted := pairwise_lt_sortOn (nodup_filter hinitial (past key cursor))
  refine sublist_of_strict hsorted (follow_ordered hkeys).1 fun a ha => ?_
  rw [mem_sortOn, List.mem_filter] at ha
  obtain ⟨ha, hpast⟩ := ha
  clear hsorted
  induction contents generalizing cursor with
  | nil => cases hended
  | cons rows contents ih =>
    have hrows := hkeys rows List.mem_cons_self
    have hmem := hkept rows List.mem_cons_self a ha
    rw [follow] at hended ⊢
    split at hended
    next hnext => exact mem_pageOf_of_last hnext hlimit hmem hpast
    next c hnext =>
      obtain ⟨-, -, hall⟩ := pageOf_of_next hrows hnext
      rcases le_or_gt (key a) c with hle | hlt
      · exact List.mem_append_left _ (hall a hmem hpast hle)
      · refine List.mem_append_right _ (ih (fun s hs => hkeys s (List.mem_cons_of_mem _ hs))
          (fun s hs => hkept s (List.mem_cons_of_mem _ hs)) hended (past_some.2 hlt))

/-- The listing ends once there have been more pages than rows to list. -/
theorem follow_ends {pool : List α} (hkeys : ∀ rows ∈ contents, (rows.map key).Nodup)
    (hpool : ∀ rows ∈ contents, ∀ a ∈ rows, past key cursor a = true → a ∈ pool)
    (hlong : (pool.filter (past key cursor)).length < contents.length) : (follow key limit contents cursor).2 = true := by
  induction contents generalizing cursor with
  | nil => exact absurd hlong (Nat.not_lt_zero _)
  | cons rows contents ih =>
    rw [follow]
    split
    next hnext => rfl
    next c hnext =>
      obtain ⟨⟨last, hlast, hkey⟩, -, -⟩ := pageOf_of_next (hkeys rows List.mem_cons_self) hnext
      obtain ⟨hmem, hpast⟩ := mem_of_mem_pageOf hlast
      have hback : ∀ a, past key (some c) a = true → past key cursor a = true := fun a ha => by
        rw [past_some, ← hkey] at ha
        exact past_trans hpast ha.le
      -- the last row of the page is behind the next cursor
      have hfewer : (pool.filter (past key (some c))).length < (pool.filter (past key cursor)).length := by
        have hsub : List.Sublist (pool.filter (past key (some c))) (pool.filter (past key cursor)) :=
          List.monotone_filter_right pool hback
        refine lt_of_le_of_ne hsub.length_le fun hlength => ?_
        have hin : last ∈ pool.filter (past key cursor) :=
          List.mem_filter.2 ⟨hpool rows List.mem_cons_self last hmem hpast, hpast⟩
        rw [← hsub.eq_of_length hlength, List.mem_filter, past_some, hkey] at hin
        exact lt_irrefl _ hin.2
      refine ih (fun s hs => hkeys s (List.mem_cons_of_mem _ hs))
        (fun s hs a ha hafter => hpool s (List.mem_cons_of_mem _ hs) a ha (hback a hafter)) ?_
      rw [List.length_cons] at hlong
      omega

variable (key) in
/-- What a listing that read so many pages has listed, of the rows that were there at the start and of those that could
come to be listed. -/
structure Lists (first pool : List α) (pages : Nat) (listing : List α × Bool) : Prop where
  terminates : pool.length < pages → listing.2 = true
  ordered : listing.1.Pairwise fun a b => key a < key b
  known : ∀ a ∈ listing.1, a ∈ pool
  complete : listing.2 = true → List.Sublist (sortOn key first) listing.1
  exact : listing.2 = true → (∀ a ∈ pool, a ∈ first) → listing.1 = sortOn key first

/-- What was there at the start is listed, each row once and in order, whatever else is inserted. The listing ends when
what is inserted is one of finitely many rows or comes before all that was there, and then lists none of the latter. -/
theorem follow_lists_exactly (hlimit : 0 < limit) {first : List α} {pool : List α}
    (hkeys : ∀ rows ∈ first :: contents, (rows.map key).Nodup) (hkept : ∀ rows ∈ contents, ∀ a ∈ first, a ∈ rows)
    (hfirst : ∀ a ∈ first, a ∈ pool)
    (hnew : ∀ rows ∈ contents, ∀ a ∈ rows, a ∈ pool ∨ ∀ x ∈ first, key a < key x) :
    Lists key first pool (first :: contents).length (follow key limit (first :: contents) none) := by
  have hrows := hkeys first List.mem_cons_self
  have hlater : ∀ rows ∈ contents, (rows.map key).Nodup := fun rows h => hkeys rows (List.mem_cons_of_mem _ h)
  -- a row that comes before the first content is behind every cursor taken from it
  have hahead : ∀ c, nextOf key limit (pageOf key first limit none) = some c → ∀ rows ∈ contents, ∀ a ∈ rows,
      past key (some c) a = true → a ∈ pool := by
    intro c hnext rows hin a ha hafter
    obtain ⟨⟨last, hlast, hkey⟩, -, -⟩ := pageOf_of_next hrows hnext
    refine (hnew rows hin a ha).resolve_right fun hbefore => ?_
    have hlt := hbefore last (mem_of_mem_pageOf hlast).1
    rw [hkey] at hlt
    exact absurd (past_some.1 hafter) (not_lt.2 hlt.le)
  have hordered : (follow key limit (first :: contents) none).1.Pairwise fun a b => key a < key b := (follow_ordered hkeys).1
  have hknown : ∀ a ∈ (follow key limit (first :: contents) none).1, a ∈ pool := by
    intro a ha
    rw [follow] at ha
    split at ha
    next hnext => exact hfirst a (mem_of_mem_pageOf ha).1
    next c hnext =>
      rcases List.mem_append.1 ha with ha | ha
      · exact hfirst a (mem_of_mem_pageOf ha).1
      · obtain ⟨hafter, rows, hin, hmem⟩ := (follow_ordered hlater).2 a ha
        exact hahead c hnext rows hin a hmem hafter
  have hcomplete : (follow key limit (first :: contents) none).2 = true →
      List.Sublist (sortOn key first) (follow key limit (first :: contents) none).1 := by
    intro hended
    have hlists := follow_lists hlimit hrows hkeys (fun rows hin a ha => by
      rcases List.mem_cons.1 hin with rfl | hin
      · exact ha
      · exact hkept rows hin a ha) hended
    rwa [show past key none = fun _ : α => true from rfl, List.filter_true] at hlists
  refine ⟨fun hlong => ?_, hordered, hknown, hcomplete, fun hended hpool => ?_⟩
  · rw [follow]
    split
    next hnext => rfl
    next c hnext =>
      obtain ⟨⟨last, hlast, hkey⟩, -, -⟩ := pageOf_of_next hrows hnext
      refine follow_ends hlater (hahead c hnext) ?_
      -- the last row of the page is not past the cursor, so fewer rows of the pool are left
      have hfewer : (pool.filter (past key (some c))).length < pool.length := by
        refine List.length_filter_lt_length_iff_exists.2 ⟨last, hfirst last (mem_of_mem_pageOf hlast).1, ?_⟩
        rw [past_some, hkey]
        exact lt_irrefl c
      rw [List.length_cons] at hlong
      omega
  · have hback : List.Sublist (follow key limit (first :: contents) none).1 (sortOn key first) :=
      sublist_of_strict hordered (pairwise_lt_sortOn hrows) fun a ha => mem_sortOn.2 (hpool a (hknown a ha))
    exact hback.antisymm (hcomplete hended)

end Follow

end Paging

end IcttSentinel.Lib
