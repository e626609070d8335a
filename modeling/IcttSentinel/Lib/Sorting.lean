/-
Sorting by a key, and the order JavaScript compares strings in.

A sort by a key with values in a linear order is determined by the elements alone as soon as the
key separates them, so it forgets the order its input came in. Strings are compared by their
UTF-16 code units, which is not the order of their code points.
-/
import Mathlib.Tactic
import Mathlib.Data.List.Lex

namespace IcttSentinel.Lib

/-! ## Sorting by a key -/

section SortOn

variable {α β : Type*} [LinearOrder β]

/-- A stable sort by the key `f`. -/
def sortOn (f : α → β) (l : List α) : List α := l.insertionSort fun a b => f a ≤ f b

theorem sortOn_perm (f : α → β) (l : List α) : (sortOn f l).Perm l := List.perm_insertionSort _ _

@[simp] theorem mem_sortOn {f : α → β} {l : List α} {a : α} : a ∈ sortOn f l ↔ a ∈ l :=
  (sortOn_perm f l).mem_iff

@[simp] theorem length_sortOn (f : α → β) (l : List α) : (sortOn f l).length = l.length :=
  (sortOn_perm f l).length_eq

@[simp] theorem sortOn_nil (f : α → β) : sortOn f [] = [] := rfl

theorem pairwise_sortOn (f : α → β) (l : List α) : (sortOn f l).Pairwise fun a b => f a ≤ f b := by
  have total : Std.Total fun a b : α => f a ≤ f b := ⟨fun a b => le_total (f a) (f b)⟩
  have trans : IsTrans α fun a b => f a ≤ f b := ⟨fun a b c => le_trans⟩
  exact List.pairwise_insertionSort _ l

/-- Where the key separates the elements, the sorted list depends on the elements only. -/
theorem pairwise_lt_sortOn {f : α → β} {l : List α} (h : (l.map f).Nodup) :
    (sortOn f l).Pairwise fun a b => f a < f b := by
  have hnodup : ((sortOn f l).map f).Nodup := ((sortOn_perm f l).map f).nodup_iff.2 h
  refine ((pairwise_sortOn f l).and (List.pairwise_map.1 hnodup)).imp fun {a b} hab => ?_
  exact lt_of_le_of_ne hab.1 hab.2

theorem sortOn_eq_of_perm {f : α → β} {l l' : List α} (hf : ∀ a ∈ l, ∀ b ∈ l, f a = f b → a = b)
    (h : l.Perm l') : sortOn f l = sortOn f l' := by
  refine List.Perm.eq_of_pairwise (fun a b ha hb hab hba => ?_) (pairwise_sortOn f l) (pairwise_sortOn f l')
    ((sortOn_perm f l).trans (h.trans (sortOn_perm f l').symm))
  rw [mem_sortOn] at ha hb
  exact hf a ha b (h.mem_iff.2 hb) (le_antisymm hab hba)

/-- The keys of a sorted list depend on the keys of its elements only. -/
theorem map_sortOn_eq {γ : Type*} {f : α → β} {g : γ → β} {l : List α} {l' : List γ} (h : (l.map f).Perm (l'.map g)) :
    (sortOn f l).map f = (sortOn g l').map g := by
  have hsorted : ((sortOn f l).map f).Pairwise (· ≤ ·) := List.pairwise_map.2 (pairwise_sortOn f l)
  have hsorted' : ((sortOn g l').map g).Pairwise (· ≤ ·) := List.pairwise_map.2 (pairwise_sortOn g l')
  have hperm : ((sortOn f l).map f).Perm ((sortOn g l').map g) :=
    ((sortOn_perm f l).map f).trans (h.trans ((sortOn_perm g l').map g).symm)
  exact hperm.eq_of_pairwise (fun a b _ _ hab hba => le_antisymm hab hba) hsorted hsorted'

/-- The first element of a sorted list has the least key. -/
theorem le_of_head?_sortOn {f : α → β} {l : List α} {a : α} (h : (sortOn f l).head? = some a) :
    a ∈ l ∧ ∀ b ∈ l, f a ≤ f b := by
  obtain ⟨rest, hrest⟩ := List.head?_eq_some_iff.1 h
  refine ⟨mem_sortOn.1 (List.mem_of_head? h), fun b hb => ?_⟩
  have hb : b ∈ sortOn f l := mem_sortOn.2 hb
  have hsorted := pairwise_sortOn f l
  rw [hrest] at hb hsorted
  rcases List.mem_cons.1 hb with rfl | hb
  · exact le_rfl
  · exact (List.pairwise_cons.1 hsorted).1 b hb

/-- A list already in the order of the key is left as it is. -/
theorem sortOn_of_pairwise {f : α → β} {l : List α} (h : l.Pairwise fun a b => f a ≤ f b) :
    sortOn f l = l :=
  h.insertionSort_eq

/-- A map that keeps the keys commutes with the sort. -/
theorem sortOn_map {γ : Type*} {f : α → β} {f' : γ → β} {g : α → γ} (hg : ∀ a, f' (g a) = f a) (l : List α) :
    sortOn f' (l.map g) = (sortOn f l).map g :=
  (List.map_insertionSort _ _ _ _ fun a _ b _ => by rw [hg, hg]).symm

/-- Elements of one key keep the order they came in. -/
theorem filter_sortOn (f : α → β) (l : List α) (k : β) :
    (sortOn f l).filter (fun a => f a = k) = l.filter fun a => f a = k := by
  have hsame : (l.filter fun a => f a = k).Pairwise fun a b => f a ≤ f b := by
    refine List.pairwise_of_forall_mem_list fun a ha b hb => ?_
    rw [List.mem_filter, decide_eq_true_eq] at ha hb
    rw [ha.2, hb.2]
  have hsublist : List.Sublist (l.filter fun a => f a = k) (sortOn f l) :=
    List.sublist_insertionSort hsame List.filter_sublist
  have hfiltered := hsublist.filter fun a => decide (f a = k)
  rw [List.filter_filter, List.filter_congr fun a _ => Bool.and_self _] at hfiltered
  exact (hfiltered.eq_of_length ((sortOn_perm f l).filter _).length_eq.symm).symm

theorem map_filter_eq {γ : Type*} {g : α → γ} {p : α → Bool} (hp : ∀ a b, g a = g b → p a = p b) :
    ∀ {l l' : List α}, l.map g = l'.map g → (l.filter p).map g = (l'.filter p).map g
  | [], [], _ => rfl
  | [], b :: l', h => absurd h (List.cons_ne_nil _ _).symm
  | a :: l, [], h => absurd h (List.cons_ne_nil _ _)
  | a :: l, b :: l', h => by
    obtain ⟨hab, hrest⟩ := List.cons.inj h
    have ih := map_filter_eq hp hrest
    rw [List.filter_cons, List.filter_cons, hp a b hab]
    split
    · rw [List.map_cons, List.map_cons, hab, ih]
    · exact ih

/-- What is written of a sorted list is the same for every order of the list exactly when elements of one key are
written alike. -/
theorem map_sortOn_perm_iff {γ : Type*} {f : α → β} {g : α → γ} (hg : ∀ a b, g a = g b → f a = f b) {l : List α} :
    (∀ l' : List α, l'.Perm l → (sortOn f l').map g = (sortOn f l).map g) ↔
      ∀ a ∈ l, ∀ b ∈ l, f a = f b → g a = g b := by
  constructor
  · intro h a ha b hb hkey
    -- any element of the key comes first of its key in some order
    have hfirst : ∀ c ∈ l, f c = f a → ((l.filter fun x => f x = f a).map g).head? = some (g c) := by
      intro c hc hca
      obtain ⟨before, after, rfl⟩ := List.append_of_mem hc
      have hmap := map_filter_eq (p := fun x => decide (f x = f a)) (fun x y hxy => by rw [hg x y hxy])
        (h (c :: (before ++ after)) List.perm_middle.symm)
      rw [filter_sortOn, filter_sortOn, List.filter_cons_of_pos (by simpa using hca)] at hmap
      rw [← hmap]
      rfl
    have hheads := (hfirst a ha rfl).symm.trans (hfirst b hb hkey.symm)
    exact Option.some_inj.1 hheads
  · intro h l' hl
    have hsorted : ∀ m : List α, ((sortOn f m).map g).Pairwise fun c d => ∀ a b, g a = c → g b = d → f a ≤ f b := by
      intro m
      refine List.pairwise_map.2 ((pairwise_sortOn f m).imp fun {a b} hab a' b' ha hb => ?_)
      rw [hg a' a ha, hg b' b hb]
      exact hab
    refine List.Perm.eq_of_pairwise (fun c d hc hd hcd hdc => ?_) (hsorted l') (hsorted l)
      (((sortOn_perm f l').trans (hl.trans (sortOn_perm f l).symm)).map g)
    obtain ⟨a, ha, rfl⟩ := List.mem_map.1 hc
    obtain ⟨b, hb, rfl⟩ := List.mem_map.1 hd
    rw [mem_sortOn] at ha hb
    exact h a (hl.mem_iff.1 ha) b hb (le_antisymm (hcd a b rfl rfl) (hdc b a rfl rfl))

/-- Two sorted lists read alike when they do key by key: neither has a first key the other lacks. -/
theorem map_eq_of_filters {γ : Type*} {f : α → β} {g : α → γ} : ∀ {l l' : List α},
    (l.Pairwise fun a b => f a ≤ f b) → (l'.Pairwise fun a b => f a ≤ f b) →
    (∀ k, (l.filter fun a => f a = k).map g = (l'.filter fun a => f a = k).map g) → l.map g = l'.map g
  | [], [], _, _, _ => rfl
  | [], b :: l', _, _, h => by simpa using h (f b)
  | a :: l, [], _, _, h => by simpa using h (f a)
  | a :: l, b :: l', hl, hl', h => by
    have hfirst : ∀ {m m' : List α} {x y : α}, ((y :: m').Pairwise fun a b => f a ≤ f b) →
        ((x :: m).filter fun a => f a = f x).map g = ((y :: m').filter fun a => f a = f x).map g → f y ≤ f x := by
      intro m m' x y hm' hkeys
      -- some element of the second list has the first key of the first
      have hne : (y :: m').filter (fun a => f a = f x) ≠ [] := fun hnil => by
        rw [hnil] at hkeys
        simp at hkeys
      obtain ⟨z, hz⟩ := List.exists_mem_of_ne_nil _ hne
      obtain ⟨hmem, hkey⟩ := List.mem_filter.1 hz
      rw [← of_decide_eq_true hkey]
      rcases List.mem_cons.1 hmem with rfl | hmem
      · exact le_rfl
      · exact (List.pairwise_cons.1 hm').1 z hmem
    have hkey : f a = f b := le_antisymm (hfirst hl (h (f b)).symm) (hfirst hl' (h (f a)))
    have hhead := h (f a)
    rw [List.filter_cons_of_pos (by simp), List.filter_cons_of_pos (by simpa using hkey.symm), List.map_cons,
      List.map_cons] at hhead
    rw [List.map_cons, List.map_cons, (List.cons.inj hhead).1]
    congr 1
    refine map_eq_of_filters (List.pairwise_cons.1 hl).2 (List.pairwise_cons.1 hl').2 fun k => ?_
    have hk := h k
    by_cases hka : f a = k
    · rw [List.filter_cons_of_pos (by simpa using hka), List.filter_cons_of_pos (by simpa [← hkey] using hka),
        List.map_cons, List.map_cons] at hk
      exact (List.cons.inj hk).2
    · rwa [List.filter_cons_of_neg (by simpa using hka), List.filter_cons_of_neg (by simpa [← hkey] using hka)] at hk

/-- What is written of two lists, sorted, is the same exactly when it is key by key, in the order of each list. -/
theorem map_sortOn_eq_iff {γ : Type*} {f : α → β} {g : α → γ} (hg : ∀ a b, g a = g b → f a = f b) {l l' : List α} :
    (sortOn f l).map g = (sortOn f l').map g ↔
      ∀ k, (l.filter fun a => f a = k).map g = (l'.filter fun a => f a = k).map g := by
  constructor
  · intro h k
    rw [← filter_sortOn f l k, ← filter_sortOn f l' k]
    exact map_filter_eq (fun a b hab => by rw [hg a b hab]) h
  · intro h
    refine map_eq_of_filters (pairwise_sortOn f l) (pairwise_sortOn f l') fun k => ?_
    rw [filter_sortOn, filter_sortOn]
    exact h k

/-! ### What is written of a sorted list, run together -/

section Written

variable {γ : Type*} {f : α → β} {g : α → List γ} {l l' : List α}

theorem flatMap_toFront {a : α} {pre post : List α} (hcomm : ∀ b ∈ pre, g a ++ g b = g b ++ g a) :
    (pre ++ a :: post).flatMap g = (a :: (pre ++ post)).flatMap g := by
  induction pre with
  | nil => rfl
  | cons b pre ih =>
    have hb := hcomm b List.mem_cons_self
    have hrest := ih fun c hc => hcomm c (List.mem_cons_of_mem b hc)
    simp only [List.flatMap_cons, List.cons_append] at hrest ⊢
    rw [hrest, ← List.append_assoc, ← hb, List.append_assoc]

/-- Two sorted orders of one list read alike, if elements of one key do in either order. -/
theorem flatMap_eq_of_sorted (hties : ∀ a ∈ l, ∀ b ∈ l, f a = f b → g a ++ g b = g b ++ g a) (hperm : l.Perm l')
    (hl : l.Pairwise fun a b => f a ≤ f b) (hl' : l'.Pairwise fun a b => f a ≤ f b) : l.flatMap g = l'.flatMap g := by
  induction l generalizing l' with
  | nil => rw [hperm.nil_eq]
  | cons a l ih =>
    obtain ⟨pre, post, rfl⟩ := List.append_of_mem (hperm.mem_iff.1 List.mem_cons_self)
    have hrest : l.Perm (pre ++ post) := (hperm.trans List.perm_middle).cons_inv
    -- what stands before the first element has its key
    have htie : ∀ b ∈ pre, g a ++ g b = g b ++ g a := by
      intro b hb
      have hmem : b ∈ l := hrest.mem_iff.2 (List.mem_append_left _ hb)
      have hle : f a ≤ f b := (List.pairwise_cons.1 hl).1 b hmem
      have hge : f b ≤ f a := (List.pairwise_append.1 hl').2.2 b hb a List.mem_cons_self
      exact hties a List.mem_cons_self b (List.mem_cons_of_mem a hmem) (le_antisymm hle hge)
    have hsub : List.Sublist (pre ++ post) (pre ++ a :: post) :=
      (List.Sublist.refl pre).append (List.sublist_cons_self a post)
    rw [flatMap_toFront htie, List.flatMap_cons, List.flatMap_cons, ih (fun x hx y hy =>
      hties x (List.mem_cons_of_mem a hx) y (List.mem_cons_of_mem a hy)) hrest (List.pairwise_cons.1 hl).2 (hl'.sublist hsub)]

/-- Two elements of one key that come first stand side by side in the sorted list. -/
theorem sortOn_cons_cons {a b : α} (h : f a = f b) (l : List α) : ∃ pre post,
    sortOn f (a :: b :: l) = pre ++ a :: b :: post ∧ sortOn f (b :: a :: l) = pre ++ b :: a :: post := by
  let before (c : α) : Bool := ¬f a ≤ f c
  have hinsert : ∀ c, f c = f a → ∀ m : List α, m.orderedInsert (fun x y => f x ≤ f y) c =
      m.takeWhile before ++ c :: m.dropWhile before := by
    intro c hc m
    rw [List.orderedInsert_eq_take_drop, hc]
  have hsecond : ∀ c d, f c = f a → f d = f a → ∀ m : List α,
      (m.takeWhile before ++ d :: m.dropWhile before).orderedInsert (fun x y => f x ≤ f y) c =
        m.takeWhile before ++ c :: d :: m.dropWhile before := by
    intro c d hc hd m
    have hall : ∀ x ∈ m.takeWhile before, before x = true := fun x hx => List.all_eq_true.1 List.all_takeWhile x hx
    have hstop : ¬before d = true := by simp [before, hd]
    rw [hinsert c hc, List.takeWhile_append_of_pos hall, List.dropWhile_append_of_pos hall,
      List.takeWhile_cons_of_neg hstop, List.dropWhile_cons_of_neg hstop, List.append_nil]
  refine ⟨(sortOn f l).takeWhile before, (sortOn f l).dropWhile before, ?_, ?_⟩
  · show ((sortOn f l).orderedInsert _ b).orderedInsert _ a = _
    rw [hinsert b h.symm, hsecond a b rfl h.symm]
  · show ((sortOn f l).orderedInsert _ a).orderedInsert _ b = _
    rw [hinsert a rfl, hsecond b a h.symm rfl]

/-- What is written of a sorted list, run together, is the same for every order of the list exactly when elements of
one key read alike in either order. -/
theorem flatMap_sortOn_perm_iff :
    (∀ l' : List α, l'.Perm l → (sortOn f l').flatMap g = (sortOn f l).flatMap g) ↔
      ∀ a ∈ l, ∀ b ∈ l, f a = f b → g a ++ g b = g b ++ g a := by
  constructor
  · intro h a ha b hb hkey
    rcases eq_or_ne a b with rfl | hne
    · rfl
    obtain ⟨s, t, rfl⟩ := List.append_of_mem ha
    have hb' : b ∈ s ++ t := by
      simpa [hne.symm] using hb
    obtain ⟨u, v, huv⟩ := List.append_of_mem hb'
    have hfirst : (a :: b :: (u ++ v)).Perm (s ++ a :: t) :=
      (List.Perm.cons a (List.perm_middle.symm.trans (List.Perm.of_eq huv.symm))).trans List.perm_middle.symm
    obtain ⟨pre, post, hab, hba⟩ := sortOn_cons_cons hkey (u ++ v)
    have heq := (h _ hfirst).trans (h _ ((List.Perm.swap a b _).trans hfirst)).symm
    rw [hab, hba] at heq
    simp only [List.flatMap_append, List.flatMap_cons, List.append_cancel_left_eq] at heq
    rw [← List.append_assoc, ← List.append_assoc] at heq
    exact List.append_cancel_right heq
  · intro h l' hl
    have hties : ∀ a ∈ sortOn f l', ∀ b ∈ sortOn f l', f a = f b → g a ++ g b = g b ++ g a := by
      intro a ha b hb
      rw [mem_sortOn] at ha hb
      exact h a (hl.mem_iff.1 ha) b (hl.mem_iff.1 hb)
    exact flatMap_eq_of_sorted hties ((sortOn_perm f l').trans (hl.trans (sortOn_perm f l).symm)) (pairwise_sortOn f l')
      (pairwise_sortOn f l)

end Written

end SortOn

/-! ## UTF-16 code units -/

/-- The one or two UTF-16 code units of a character. -/
def codeUnitsOf (c : Char) : List Nat :=
  if c.toNat < 0x10000 then [c.toNat]
  else [0xD800 + (c.toNat - 0x10000) / 0x400, 0xDC00 + (c.toNat - 0x10000) % 0x400]

/-- The UTF-16 code units of a string: what `<` and `sort` compare in JavaScript. -/
def codeUnits (s : String) : List Nat := s.toList.flatMap codeUnitsOf

theorem char_not_surrogate (c : Char) : c.toNat < 0xD800 ∨ 0xDFFF < c.toNat ∧ c.toNat < 0x110000 := c.valid

/-- No character's code units begin another's. -/
theorem codeUnitsOf_append_inj {c d : Char} {l m : List Nat} (h : codeUnitsOf c ++ l = codeUnitsOf d ++ m) :
    c = d ∧ l = m := by
  have hc := char_not_surrogate c
  have hd := char_not_surrogate d
  unfold codeUnitsOf at h
  split at h <;> split at h <;> simp only [List.cons_append, List.nil_append, List.cons.injEq] at h
  · exact ⟨Char.toNat_inj.1 h.1, h.2⟩
  · omega
  · omega
  · exact ⟨Char.toNat_inj.1 (by omega), h.2.2⟩

theorem codeUnits_injective : Function.Injective codeUnits := by
  have key : ∀ l m : List Char, l.flatMap codeUnitsOf = m.flatMap codeUnitsOf → l = m := by
    intro l
    induction l with
    | nil =>
      intro m h
      cases m with
      | nil => rfl
      | cons d m => simp only [List.flatMap_nil, List.flatMap_cons, codeUnitsOf] at h; split at h <;> cases h
    | cons c l ih =>
      intro m h
      cases m with
      | nil => simp only [List.flatMap_nil, List.flatMap_cons, codeUnitsOf] at h; split at h <;> cases h
      | cons d m =>
        simp only [List.flatMap_cons] at h
        obtain ⟨rfl, htail⟩ := codeUnitsOf_append_inj h
        rw [ih m htail]
  intro s t h
  exact String.toList_injective (key _ _ h)

/-- `[...].sort()` on strings. -/
def sortStrings (l : List String) : List String := sortOn codeUnits l

@[simp] theorem mem_sortStrings {l : List String} {s : String} : s ∈ sortStrings l ↔ s ∈ l := mem_sortOn

theorem sortStrings_eq_of_perm {l l' : List String} (h : l.Perm l') : sortStrings l = sortStrings l' :=
  sortOn_eq_of_perm (fun _ _ _ _ h => codeUnits_injective h) h

theorem eraseDups_eq_nil {α : Type*} [BEq α] [LawfulBEq α] {l : List α} : l.eraseDups = [] ↔ l = [] := by
  simp only [List.eq_nil_iff_forall_not_mem, List.mem_eraseDups]

theorem nodup_eraseDups {α : Type*} [BEq α] [LawfulBEq α] (l : List α) : l.eraseDups.Nodup := by
  induction h : l.length using Nat.strong_induction_on generalizing l with
  | _ n ih =>
    cases l with
    | nil => simp
    | cons a l =>
      rw [List.eraseDups_cons]
      have hlt : (l.filter fun b => !b == a).length < n := by
        have := List.length_filter_le (fun b => !b == a) l
        simp only [List.length_cons] at h
        omega
      exact List.nodup_cons.2 ⟨by simp, ih _ hlt _ rfl⟩

/-- What comes first of a kind is not removed as a repetition. -/
theorem find?_eraseDups {α : Type*} [BEq α] [LawfulBEq α] (p : α → Bool) (l : List α) :
    l.eraseDups.find? p = l.find? p := by
  induction h : l.length using Nat.strong_induction_on generalizing l with
  | _ n ih =>
    cases l with
    | nil => simp
    | cons a l =>
      have hlt : (l.filter fun b => !b == a).length < n := by
        have := List.length_filter_le (fun b => !b == a) l
        simp only [List.length_cons] at h
        omega
      rw [List.eraseDups_cons, List.find?_cons, List.find?_cons]
      cases ha : p a with
      | true => rfl
      | false =>
        show (l.filter fun b => !b == a).eraseDups.find? p = l.find? p
        rw [ih _ hlt _ rfl, List.find?_filter]
        -- a repetition of an element that fails the test fails it too
        have hskip : (fun b => decide ((!b == a) = true ∧ p b = true)) = p := by
          funext b
          by_cases hb : b = a
          · simp [hb, ha]
          · simp [hb]
        rw [hskip]

/-- `[...new Set(l)].sort()`: the distinct strings in order, whatever order they came in. -/
theorem sortStrings_eraseDups_eq {l l' : List String} (h : ∀ s, s ∈ l ↔ s ∈ l') :
    sortStrings l.eraseDups = sortStrings l'.eraseDups :=
  sortStrings_eq_of_perm ((List.perm_ext_iff_of_nodup (nodup_eraseDups l) (nodup_eraseDups l')).2
    (by simpa using h))

end IcttSentinel.Lib
