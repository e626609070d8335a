/-
The maximal runs of a list: the longest stretches of consecutive elements that meet a condition, each with the element
that ends it.
-/
import Mathlib.Tactic

namespace IcttSentinel.Lib

section Runs

variable {α : Type*} {p : α → Bool} {l : List α}

/-- A stretch that meets the condition, between elements that do not; `next` is the element after it. -/
structure MaximalRun (p : α → Bool) (l run : List α) (next : Option α) : Prop where
  nonempty : run ≠ []
  meets : ∀ a ∈ run, p a = true
  within : ∃ pre post, l = pre ++ run ++ post ∧ post.head? = next ∧ ∀ a, pre.getLast? = some a → p a = false
  ended : ∀ a, next = some a → p a = false

/-- The run that is open, if it has begun. -/
def closed (run : List α) (next : Option α) : List (List α × Option α) := if run.isEmpty then [] else [(run, next)]

/-- The runs of a list that comes after an open one. -/
def runsFrom (p : α → Bool) (run : List α) : List α → List (List α × Option α)
  | [] => closed run none
  | a :: l => if p a then runsFrom p (run ++ [a]) l else closed run (some a) ++ runsFrom p [] l

theorem mem_closed {run r : List α} {next n : Option α} : (r, n) ∈ closed run next ↔ r = run ∧ r ≠ [] ∧ n = next := by
  unfold closed
  cases run with
  | nil =>
    refine iff_of_false List.not_mem_nil ?_
    rintro ⟨rfl, hne, -⟩
    exact hne rfl
  | cons a run =>
    rw [List.isEmpty_cons, if_neg Bool.false_ne_true, List.mem_singleton, Prod.mk.injEq]
    constructor
    · rintro ⟨rfl, rfl⟩
      exact ⟨rfl, List.cons_ne_nil _ _, rfl⟩
    · rintro ⟨rfl, -, rfl⟩
      exact ⟨rfl, rfl⟩

theorem flatMap_closed (run : List α) (next : Option α) : (closed run next).flatMap Prod.fst = run := by
  cases run <;> simp [closed]

/-- What ends with an element that fails the condition, and meets it throughout, is empty. -/
theorem eq_nil_of_getLast {pre : List α} (hlast : ∀ a, pre.getLast? = some a → p a = false)
    (hmeets : ∀ a ∈ pre, p a = true) : pre = [] := by
  by_contra hne
  have h := hlast _ (List.getLast?_eq_some_getLast hne)
  rw [hmeets _ (List.getLast_mem hne)] at h
  cases h

/-- What starts with an element that fails the condition, and meets it throughout, is empty. -/
theorem eq_nil_of_head {post : List α} (hhead : ∀ a, post.head? = some a → p a = false)
    (hmeets : ∀ a ∈ post, p a = true) : post = [] := by
  cases post with
  | nil => rfl
  | cons a post =>
    have h := hhead a rfl
    rw [hmeets a List.mem_cons_self] at h
    cases h

/-- A list that meets the condition throughout is its own one run. -/
theorem maximalRun_self {run r : List α} {n : Option α} (hrun : ∀ a ∈ run, p a = true) :
    MaximalRun p run r n ↔ r = run ∧ r ≠ [] ∧ n = none := by
  constructor
  · rintro ⟨hne, -, ⟨pre, post, rfl, rfl, hpre⟩, hended⟩
    obtain rfl := eq_nil_of_getLast hpre fun a ha => hrun a (by simp [ha])
    obtain rfl := eq_nil_of_head hended fun a ha => hrun a (by simp [ha])
    exact ⟨by simp, hne, rfl⟩
  · rintro ⟨rfl, hne, rfl⟩
    exact ⟨hne, hrun, ⟨[], [], by simp, rfl, by simp⟩, by simp⟩

/-- An element that fails the condition ends the open run, and the others are those that come after it. -/
theorem maximalRun_break {run r : List α} {a : α} {n : Option α} (hrun : ∀ b ∈ run, p b = true) (ha : p a = false) :
    MaximalRun p (run ++ a :: l) r n ↔ (r = run ∧ r ≠ [] ∧ n = some a) ∨ MaximalRun p l r n := by
  constructor
  · rintro ⟨hne, hmeets, ⟨pre, post, heq, rfl, hpre⟩, hended⟩
    have hnot : a ∉ r := fun hmem => by rw [hmeets a hmem] at ha; cases ha
    rw [List.append_assoc] at heq
    rcases List.append_eq_append_iff.1 heq with ⟨mid, rfl, hmid⟩ | ⟨mid, rfl, hmid⟩
    · -- the element is behind what precedes the run, or begins it
      cases mid with
      | nil =>
        obtain ⟨b, r, rfl⟩ := List.exists_cons_of_ne_nil hne
        rw [List.nil_append, List.cons_append] at hmid
        cases hmid
        exact absurd List.mem_cons_self hnot
      | cons b mid =>
        rw [List.cons_append] at hmid
        cases hmid
        refine Or.inr ⟨hne, hmeets, ⟨mid, post, by simp, rfl, fun b hb => hpre b ?_⟩, hended⟩
        rw [List.getLast?_append, List.getLast?_cons, hb]
        rfl
    · -- nothing of the open run precedes the run
      obtain rfl := eq_nil_of_getLast hpre fun b hb => hrun b (List.mem_append_left _ hb)
      rw [List.nil_append] at hrun ⊢
      left
      rcases List.append_eq_append_iff.1 hmid with ⟨rest, rfl, hrest⟩ | ⟨rest, rfl, hrest⟩
      · obtain rfl : rest = [] := by
          refine eq_nil_of_head (fun b hb => hended b ?_) fun b hb => hrun b (List.mem_append_right _ hb)
          rw [hrest, List.head?_append, hb]
          rfl
        exact ⟨by simp, hne, by rw [hrest]; rfl⟩
      · cases rest with
        | nil =>
          rw [List.nil_append] at hrest
          exact ⟨by simp, hne, by rw [← hrest]; rfl⟩
        | cons b rest =>
          rw [List.cons_append] at hrest
          cases hrest
          exact absurd (by simp) hnot
  · rintro (⟨rfl, hne, rfl⟩ | ⟨hne, hmeets, ⟨pre, post, rfl, rfl, hpre⟩, hended⟩)
    · refine ⟨hne, hrun, ⟨[], a :: l, by simp, rfl, by simp⟩, fun b hb => ?_⟩
      rw [← Option.some.inj hb]
      exact ha
    · refine ⟨hne, hmeets, ⟨run ++ a :: pre, post, by simp, rfl, fun b hb => ?_⟩, hended⟩
      rw [List.getLast?_append, List.getLast?_cons] at hb
      cases hlast : pre.getLast? with
      | none =>
        rw [hlast] at hb
        rw [← Option.some.inj hb]
        exact ha
      | some c =>
        rw [hlast] at hb
        rw [← Option.some.inj hb]
        exact hpre c hlast

/-- The runs that are listed are the maximal ones. -/
theorem mem_runsFrom {run r : List α} {n : Option α} (hrun : ∀ a ∈ run, p a = true) :
    (r, n) ∈ runsFrom p run l ↔ MaximalRun p (run ++ l) r n := by
  induction l generalizing run with
  | nil =>
    rw [runsFrom, mem_closed, List.append_nil, maximalRun_self hrun]
  | cons a l ih =>
    rw [runsFrom]
    split
    next ha =>
      rw [ih, List.append_assoc, List.singleton_append]
      intro b hb
      rcases List.mem_append.1 hb with hb | hb
      · exact hrun b hb
      · rwa [List.mem_singleton.1 hb]
    next ha =>
      rw [List.mem_append, mem_closed, ih (by simp), List.nil_append, maximalRun_break hrun (Bool.not_eq_true _ ▸ ha)]

/-- Together they are the elements that meet the condition, each once and in order. -/
theorem flatMap_runsFrom (p : α → Bool) (run l : List α) : (runsFrom p run l).flatMap Prod.fst = run ++ l.filter p := by
  induction l generalizing run with
  | nil => rw [runsFrom, flatMap_closed, List.filter_nil, List.append_nil]
  | cons a l ih =>
    rw [runsFrom]
    split
    next ha => rw [ih, List.filter_cons_of_pos ha, List.append_assoc, List.singleton_append]
    next ha => rw [List.flatMap_append, flatMap_closed, ih, List.nil_append, List.filter_cons_of_neg ha]

end Runs

end IcttSentinel.Lib
