/-
Elements in the order of their first appearance, `[...new Set(l)]`. Collected from many parts, they come in an order
that the order of the parts does not show exactly when what any two parts add is a prefix of one another.
-/
import IcttSentinel.Lib.Sorting

namespace IcttSentinel.Lib

variable {α β : Type*} [DecidableEq α]

theorem eraseDups_of_nodup {l : List α} (h : l.Nodup) : l.eraseDups = l := by
  induction l with
  | nil => rfl
  | cons a l ih =>
    obtain ⟨ha, hl⟩ := List.nodup_cons.1 h
    rw [List.eraseDups_cons, List.filter_eq_self.2 fun b hb => by simpa using ne_of_mem_of_not_mem hb ha, ih hl]

theorem eraseDups_filter (p : α → Bool) (l : List α) : (l.filter p).eraseDups = l.eraseDups.filter p := by
  induction h : l.length using Nat.strong_induction_on generalizing l with
  | _ n ih =>
    cases l with
    | nil => rfl
    | cons a l =>
      have hlt : (l.filter fun b => !b == a).length < n := by
        have := List.length_filter_le (fun b => !b == a) l
        simp only [List.length_cons] at h
        omega
      have hrest := ih _ hlt (l.filter fun b => !b == a) rfl
      rw [List.eraseDups_cons]
      by_cases ha : p a = true
      · rw [List.filter_cons_of_pos ha, List.filter_cons_of_pos ha, List.eraseDups_cons, ← hrest, List.filter_comm]
      · rw [List.filter_cons_of_neg ha, List.filter_cons_of_neg ha, ← hrest, List.filter_filter]
        -- what fails the test is gone already
        refine congrArg List.eraseDups (List.filter_congr fun b _ => ?_)
        by_cases hb : b = a
        · rw [hb, Bool.eq_false_iff.2 ha, Bool.false_and]
        · simp [hb]

theorem removeAll_congr {k k' : List α} (h : ∀ a, a ∈ k ↔ a ∈ k') (l : List α) : l.removeAll k = l.removeAll k' := by
  refine List.filter_congr fun a _ => ?_
  simp only [List.elem_eq_mem, h a]

theorem removeAll_append (l m k : List α) : (l ++ m).removeAll k = l.removeAll k ++ m.removeAll k :=
  List.filter_append _ _

theorem removeAll_flatMap (f : β → List α) (l : List β) (k : List α) :
    (l.flatMap f).removeAll k = l.flatMap fun x => (f x).removeAll k := by
  induction l with
  | nil => rfl
  | cons x l ih => rw [List.flatMap_cons, List.flatMap_cons, removeAll_append, ih]

/-- A prefix of another list without repetitions is taken out of it from the front. -/
theorem append_removeAll_cancel {l m : List α} (hm : m.Nodup) (h : l <+: m) : l ++ m.removeAll l = m := by
  obtain ⟨rest, rfl⟩ := h
  have hdisjoint := List.disjoint_of_nodup_append hm
  have hgone : l.removeAll l = [] := by
    refine List.filter_eq_nil_iff.2 fun a ha => ?_
    simpa using ha
  have hkept : rest.removeAll l = rest := by
    refine List.filter_eq_self.2 fun a ha => ?_
    simpa using fun hal => hdisjoint hal ha
  rw [removeAll_append, hgone, hkept, List.nil_append]

theorem removeAll_of_subset {l m : List α} (h : l ⊆ m) : l.removeAll m = [] := by
  refine List.filter_eq_nil_iff.2 fun a ha => ?_
  simpa using h ha

/-! ## Collected from parts -/

/-- What a part adds to what is already there, in the order of its first appearance. -/
def added (base : List α) (f : β → List α) (x : β) : List α := ((f x).removeAll base).eraseDups

/-- What any two parts add is a prefix of one another. -/
def Aligned (base : List α) (f : β → List α) (l : List β) : Prop :=
  ∀ x ∈ l, ∀ y ∈ l, added base f x <+: added base f y ∨ added base f y <+: added base f x

theorem Aligned.of_perm {base : List α} {f : β → List α} {l l' : List β} (h : Aligned base f l) (hl : l'.Perm l) :
    Aligned base f l' :=
  fun x hx y hy => h x (hl.mem_iff.1 hx) y (hl.mem_iff.1 hy)

theorem eraseDups_parts (base : List α) (f : β → List α) (l : List β) (suffix : List α) :
    (base ++ l.flatMap f ++ suffix).eraseDups = base.eraseDups ++ ((l.flatMap fun x => (f x).removeAll base).eraseDups ++
      (suffix.removeAll (base ++ l.flatMap f)).eraseDups) := by
  rw [List.eraseDups_append, List.eraseDups_append, removeAll_flatMap, List.append_assoc]

/-- The part that adds most is what aligned parts add together. -/
theorem eraseDups_flatMap_of_aligned {base : List α} {f : β → List α} {l : List β} (h : Aligned base f l) :
    (∀ x ∈ l, added base f x <+: (l.flatMap fun x => (f x).removeAll base).eraseDups) ∧
      ((l.flatMap fun x => (f x).removeAll base).eraseDups = [] ∨
        ∃ x ∈ l, (l.flatMap fun x => (f x).removeAll base).eraseDups = added base f x) := by
  induction l with
  | nil => exact ⟨fun x hx => absurd hx List.not_mem_nil, Or.inl rfl⟩
  | cons x l ih =>
    obtain ⟨hstarts, hlongest⟩ := ih fun y hy z hz => h y (List.mem_cons_of_mem x hy) z (List.mem_cons_of_mem x hz)
    have hsplit : ((x :: l).flatMap fun x => (f x).removeAll base).eraseDups =
        added base f x ++ ((l.flatMap fun x => (f x).removeAll base).eraseDups).removeAll (added base f x) := by
      rw [List.flatMap_cons, List.eraseDups_append]
      show added base f x ++ (List.filter _ _).eraseDups = _
      rw [eraseDups_filter]
      refine congrArg (added base f x ++ ·) (removeAll_congr (fun a => ?_) _)
      rw [added, List.mem_eraseDups]
    rw [hsplit]
    generalize hrest : (l.flatMap fun x => (f x).removeAll base).eraseDups = rest at hstarts hlongest ⊢
    have hnodup : rest.Nodup := hrest ▸ nodup_eraseDups _
    -- what the tail keeps is the longest addition so far, so it compares with the next one
    have hcomparable : rest <+: added base f x ∨ added base f x <+: rest := by
      rcases hlongest with rfl | ⟨y, hy, rfl⟩
      · exact Or.inl List.nil_prefix
      · exact h y (List.mem_cons_of_mem x hy) x List.mem_cons_self
    rcases hcomparable with hshorter | hlonger
    · rw [removeAll_of_subset hshorter.subset, List.append_nil]
      refine ⟨fun y hy => ?_, Or.inr ⟨x, List.mem_cons_self, rfl⟩⟩
      rcases List.mem_cons.1 hy with rfl | hy
      · exact List.prefix_refl _
      · exact (hstarts y hy).trans hshorter
    · rw [append_removeAll_cancel hnodup hlonger]
      refine ⟨fun y hy => ?_, hlongest.imp_right fun ⟨y, hy, heq⟩ => ⟨y, List.mem_cons_of_mem x hy, heq⟩⟩
      rcases List.mem_cons.1 hy with rfl | hy
      · exact hlonger
      · exact hstarts y hy

/-- Aligned parts add the same in every order. -/
theorem eraseDups_parts_of_perm {base : List α} {f : β → List α} {l l' : List β} (suffix : List α)
    (h : Aligned base f l) (hl : l'.Perm l) :
    (base ++ l'.flatMap f ++ suffix).eraseDups = (base ++ l.flatMap f ++ suffix).eraseDups := by
  have hparts : ∀ {m m' : List β}, Aligned base f m → m'.Perm m →
      (m.flatMap fun x => (f x).removeAll base).eraseDups <+: (m'.flatMap fun x => (f x).removeAll base).eraseDups := by
    intro m m' hm hperm
    rcases (eraseDups_flatMap_of_aligned hm).2 with hnil | ⟨x, hx, heq⟩
    · rw [hnil]
      exact List.nil_prefix
    · rw [heq]
      exact (eraseDups_flatMap_of_aligned (hm.of_perm hperm)).1 x (hperm.mem_iff.2 hx)
  have hadded := (hparts (h.of_perm hl) hl.symm).eq_of_length_le (hparts h hl).length_le
  have hmem : ∀ a, a ∈ base ++ l'.flatMap f ↔ a ∈ base ++ l.flatMap f := by
    intro a
    rw [List.mem_append, List.mem_append, (hl.flatMap_right f).mem_iff]
  rw [eraseDups_parts, eraseDups_parts, hadded, removeAll_congr hmem]

/-- Parts that are not aligned show their order. -/
theorem aligned_of_eraseDups_parts {base : List α} {f : β → List α} {l : List β} (suffix : List α)
    (h : ∀ l' : List β, l'.Perm l →
      (base ++ l'.flatMap f ++ suffix).eraseDups = (base ++ l.flatMap f ++ suffix).eraseDups) : Aligned base f l := by
  have hfirst : ∀ x ∈ l, base.eraseDups ++ added base f x <+: (base ++ l.flatMap f ++ suffix).eraseDups := by
    intro x hx
    obtain ⟨before, after, rfl⟩ := List.append_of_mem hx
    rw [← h (x :: (before ++ after)) List.perm_middle.symm, eraseDups_parts, List.flatMap_cons, List.eraseDups_append]
    simp only [added, List.append_assoc, List.prefix_append_right_inj, List.prefix_append]
  intro x hx y hy
  have hcomparable := List.prefix_or_prefix_of_prefix (hfirst x hx) (hfirst y hy)
  rwa [List.prefix_append_right_inj, List.prefix_append_right_inj] at hcomparable

/-- Parts give the same elements in the same order, however they are ordered, exactly when they are aligned. -/
theorem eraseDups_parts_iff {base : List α} {f : β → List α} {l : List β} (suffix : List α) :
    (∀ l' : List β, l'.Perm l → (base ++ l'.flatMap f ++ suffix).eraseDups = (base ++ l.flatMap f ++ suffix).eraseDups) ↔
      Aligned base f l :=
  ⟨aligned_of_eraseDups_parts suffix, fun h _ hl => eraseDups_parts_of_perm suffix h hl⟩

end IcttSentinel.Lib
