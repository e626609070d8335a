/-
A history that is read in windows. Every window extends what was found by the part of the history within it, from a
progress that was stored or from the start, so what is stored is at any time the whole part below the position reached,
however often reading was broken off or begun again.
-/
import Mathlib.Tactic

namespace IcttSentinel.Lib

section Between

variable {α : Type*} (position : α → Int)

/-- The part of a history at positions from `lo` to below `hi`. -/
def between (history : List α) (lo hi : Int) : List α := history.filter fun a => lo ≤ position a && position a < hi

variable {position} {history : List α} {lo mid hi : Int}

theorem mem_between {a : α} : a ∈ between position history lo hi ↔ a ∈ history ∧ lo ≤ position a ∧ position a < hi := by
  unfold between
  rw [List.mem_filter, Bool.and_eq_true, decide_eq_true_iff, decide_eq_true_iff]

theorem between_of_le (h : hi ≤ lo) : between position history lo hi = [] := by
  rw [List.eq_nil_iff_forall_not_mem]
  intro a ha
  have hbounds := (mem_between.1 ha).2
  omega

/-- Neighbouring parts of an ordered history join. -/
theorem between_append (hordered : history.Pairwise fun a b => position a ≤ position b) (hlo : lo ≤ mid) (hhi : mid ≤ hi) :
    between position history lo mid ++ between position history mid hi = between position history lo hi := by
  induction history with
  | nil => rfl
  | cons a history ih =>
    obtain ⟨hfirst, hordered⟩ := List.pairwise_cons.1 hordered
    have hjoin := ih hordered
    unfold between at hjoin ⊢
    rw [List.filter_cons, List.filter_cons, List.filter_cons]
    by_cases hbelow : position a < mid
    · -- the element is in the first part, if in any
      have hnot : (decide (mid ≤ position a) && decide (position a < hi)) = false := by
        rw [decide_eq_false (by omega), Bool.false_and]
      have hsame : decide (position a < hi) = decide (position a < mid) := by
        rw [decide_eq_true hbelow, decide_eq_true (by omega)]
      rw [hnot, hsame, if_neg Bool.false_ne_true]
      split
      · rw [List.cons_append, hjoin]
      · exact hjoin
    · -- nothing from here on is in the first part
      have hempty : between position history lo mid = [] := by
        rw [List.eq_nil_iff_forall_not_mem]
        intro b hb
        obtain ⟨hmem, -, hlt⟩ := mem_between.1 hb
        have hle := hfirst b hmem
        omega
      have hnot : (decide (lo ≤ position a) && decide (position a < mid)) = false := by
        rw [decide_eq_false hbelow, Bool.and_false]
      have hsame : decide (lo ≤ position a) = decide (mid ≤ position a) := by
        rw [decide_eq_true (by omega), decide_eq_true (by omega)]
      unfold between at hempty
      rw [hempty, List.nil_append] at hjoin
      rw [hnot, hsame, if_neg Bool.false_ne_true, hempty, List.nil_append, hjoin]

end Between

/-- What was found below a position. -/
structure Progress (α : Type*) where
  next : Int
  found : List α

/-! ## Scans -/

section Scan

variable {α : Type*} (reads : Int → Int → List α → Prop) (first last : Int)

/-- Nothing is found yet. -/
def Progress.start : Progress α := ⟨first, []⟩

/-- One more window was read, up to below `last` at most. -/
inductive Extends (p : Progress α) : Progress α → Prop
  | window {hi : Int} {found : List α} (forward : p.next ≤ hi) (within : hi ≤ last) (read : reads p.next hi found) :
      Extends p ⟨hi, p.found ++ found⟩

/-- What becomes of a stored progress: it stays, or is replaced by one window more than it, or than nothing. -/
inductive ScanStep (stored : Option (Progress α)) : Option (Progress α) → Prop
  | keep : ScanStep stored stored
  | fresh {p : Progress α} (h : Extends reads last (.start first) p) : ScanStep stored (some p)
  | resume {p p' : Progress α} (hstored : stored = some p) (h : Extends reads last p p') : ScanStep stored (some p')

/-- Every position that was passed is in a window that was read, none of which goes further. -/
def Progress.Backed (p : Progress α) : Prop :=
  ∀ b, first ≤ b → b < p.next → ∃ lo hi found, lo ≤ b ∧ b < hi ∧ hi ≤ p.next ∧ reads lo hi found

variable (position : α → Int) (history : List α)

/-- What was found is the part of the history that was passed, and all of it was read. -/
structure Progress.Exact (p : Progress α) : Prop where
  atLeast : first ≤ p.next
  atMost : p.next ≤ last ∨ p.next = first
  found : p.found = between position history first p.next
  backed : p.Backed reads first

variable {reads first last position history}

theorem Progress.Exact.start : (Progress.start first).Exact reads first last position history where
  atLeast := le_refl first
  atMost := Or.inr rfl
  found := (between_of_le (le_refl first)).symm
  backed := fun _ hfirst hnext => absurd hnext (not_lt_of_ge hfirst)

/-- A window extends an exact progress to an exact one, where what it read is the part of the history within it. -/
theorem Progress.Exact.extends (hordered : history.Pairwise fun a b => position a ≤ position b)
    (hreads : ∀ lo hi found, reads lo hi found → found = between position history lo hi) {p p' : Progress α}
    (h : p.Exact reads first last position history) (hstep : Extends reads last p p') :
    p'.Exact reads first last position history := by
  cases hstep with
  | @window hi found forward within read =>
    refine ⟨h.atLeast.trans forward, Or.inl within, ?_, ?_⟩
    · show p.found ++ found = _
      rw [h.found, hreads _ _ _ read, between_append hordered h.atLeast forward]
    · intro b hfirst hnext
      have hnext : b < hi := hnext
      by_cases hpassed : b < p.next
      · obtain ⟨lo, hi', found', hlo, hhi, hle, hread⟩ := h.backed b hfirst hpassed
        exact ⟨lo, hi', found', hlo, hhi, hle.trans forward, hread⟩
      · exact ⟨p.next, hi, found, not_lt.1 hpassed, hnext, le_refl hi, read⟩

theorem ScanStep.exact (hordered : history.Pairwise fun a b => position a ≤ position b)
    (hreads : ∀ lo hi found, reads lo hi found → found = between position history lo hi) {stored stored' : Option (Progress α)}
    (h : ∀ p ∈ stored, p.Exact reads first last position history) (hstep : ScanStep reads first last stored stored') :
    ∀ p ∈ stored', p.Exact reads first last position history := by
  cases hstep with
  | keep => exact h
  | fresh hwindow =>
    intro p hp
    cases hp
    exact Progress.Exact.start.extends hordered hreads hwindow
  | resume hstored hwindow =>
    intro p hp
    cases hp
    exact (h _ hstored).extends hordered hreads hwindow

/-- A step is one for any reads that are among it. -/
theorem ScanStep.mono {reads' : Int → Int → List α → Prop} (hmono : ∀ lo hi found, reads lo hi found → reads' lo hi found)
    {stored stored' : Option (Progress α)} (h : ScanStep reads first last stored stored') :
    ScanStep reads' first last stored stored' := by
  have hextends : ∀ {p p' : Progress α}, Extends reads last p p' → Extends reads' last p p' := by
    rintro p _ ⟨forward, within, read⟩
    exact .window forward within (hmono _ _ _ read)
  cases h with
  | keep => exact .keep
  | fresh hwindow => exact .fresh (hextends hwindow)
  | resume hstored hwindow => exact .resume hstored (hextends hwindow)

/-- A progress that reached the end found the whole part. -/
theorem Progress.Exact.complete {p : Progress α} (h : p.Exact reads first last position history) (hlast : last ≤ p.next) :
    p.found = between position history first last := by
  rcases h.atMost with hle | hfirst
  · rw [h.found, le_antisymm hle hlast]
  · rw [h.found, hfirst, between_of_le (le_refl first), between_of_le (hfirst ▸ hlast)]

end Scan

end IcttSentinel.Lib
