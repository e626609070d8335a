/-
What `findRangeGaps` of packages/replay/src/range.ts finds, and `isGapClosed` of completeness.ts. The sweep never
clips a gap to the end of its window, and it trusts every range to end where it starts or later: the ranges under
which the gaps are the maximal uncovered runs of the window are characterised.
-/
import IcttSentinel.Replay.Range

namespace IcttSentinel.Replay

open IcttSentinel.Lib IcttSentinel.Storage

/-- The recovered ranges leave nothing of the gap. -/
def isGapClosed (gap : BlockRange) (committed : List BlockRange) : Bool := (findRangeGaps committed gap).length = 0

/-! ## Maximal runs -/

/-- The ranges are the maximal runs of the heights from `lo` to `hi` that are not `covered`, in ascending order. -/
structure MaximalRuns (covered : Int → Prop) (lo hi : Int) (runs : List BlockRange) : Prop where
  inside : ∀ g ∈ runs, lo ≤ g.fromBlock ∧ g.fromBlock ≤ g.toBlock ∧ g.toBlock ≤ hi
  uncovered : ∀ g ∈ runs, ∀ b, Within g b → ¬ covered b
  leftEnd : ∀ g ∈ runs, g.fromBlock = lo ∨ covered (g.fromBlock - 1)
  rightEnd : ∀ g ∈ runs, g.toBlock = hi ∨ covered (g.toBlock + 1)
  ascending : runs.Pairwise fun g g' => g.toBlock < g'.fromBlock
  exhaustive : ∀ b, lo ≤ b → b ≤ hi → ¬ covered b → Covered runs b

namespace MaximalRuns

variable {covered covered' : Int → Prop} {lo lo' hi m : Int} {runs runs' : List BlockRange}

theorem nil (h : hi < lo) : MaximalRuns covered lo hi [] where
  inside := by simp
  uncovered := by simp
  leftEnd := by simp
  rightEnd := by simp
  ascending := List.Pairwise.nil
  exhaustive b hlo hhi := by omega

/-- Only the heights in between matter. -/
theorem congr (h : MaximalRuns covered lo hi runs) (hsame : ∀ b, lo ≤ b → (covered b ↔ covered' b)) :
    MaximalRuns covered' lo hi runs where
  inside := h.inside
  uncovered g hg b hb := by
    rw [← hsame b ((h.inside g hg).1.trans hb.1)]
    exact h.uncovered g hg b hb
  leftEnd g hg := by
    rcases h.leftEnd g hg with heq | hcov
    · exact Or.inl heq
    · rcases (h.inside g hg).1.eq_or_lt with heq | hlt
      · exact Or.inl heq.symm
      · exact Or.inr ((hsame _ (by omega)).mp hcov)
  rightEnd g hg := by
    rcases h.rightEnd g hg with heq | hcov
    · exact Or.inl heq
    · obtain ⟨hlo, hle, -⟩ := h.inside g hg
      exact Or.inr ((hsame _ (by omega)).mp hcov)
  ascending := h.ascending
  exhaustive b hlo hhi hb := h.exhaustive b hlo hhi fun hcov => hb ((hsame b hlo).mp hcov)

/-- Covered heights in front add no run. -/
theorem extend (h : MaximalRuns covered lo' hi runs) (hle : lo ≤ lo') (hcov : ∀ b, lo ≤ b → b < lo' → covered b) :
    MaximalRuns covered lo hi runs where
  inside g hg := ⟨hle.trans (h.inside g hg).1, (h.inside g hg).2⟩
  uncovered := h.uncovered
  leftEnd g hg := by
    rcases h.leftEnd g hg with heq | hprev
    · rcases hle.eq_or_lt with hsame | hlt
      · exact Or.inl (heq.trans hsame.symm)
      · exact Or.inr (hcov _ (by omega) (by omega))
    · exact Or.inr hprev
  rightEnd := h.rightEnd
  ascending := h.ascending
  exhaustive b hlo hhi hb := by
    by_cases hin : lo' ≤ b
    · exact h.exhaustive b hin hhi hb
    · exact absurd (hcov b hlo (by omega)) hb

/-- An uncovered stretch in front that ends at a covered height, or at the last one, is one more run. -/
theorem cons (h : MaximalRuns covered (m + 1) hi runs) (hlo : lo ≤ m) (hm : m ≤ hi)
    (hrun : ∀ b, lo ≤ b → b ≤ m → ¬ covered b) (hend : m = hi ∨ covered (m + 1)) :
    MaximalRuns covered lo hi ({ fromBlock := lo, toBlock := m } :: runs) where
  inside g hg := by
    rcases List.mem_cons.mp hg with rfl | hg
    · exact ⟨le_rfl, hlo, hm⟩
    · obtain ⟨hfrom, hrest⟩ := h.inside g hg
      exact ⟨by omega, hrest⟩
  uncovered g hg b hb := by
    rcases List.mem_cons.mp hg with rfl | hg
    · exact hrun b hb.1 hb.2
    · exact h.uncovered g hg b hb
  leftEnd g hg := by
    rcases List.mem_cons.mp hg with rfl | hg
    · exact Or.inl rfl
    · rcases h.leftEnd g hg with heq | hcov
      · -- the run would start at the height that ends the first one
        obtain ⟨-, hle, hhi⟩ := h.inside g hg
        rcases hend with hlast | hcov
        · omega
        · exact absurd hcov (h.uncovered g hg _ ⟨heq.le, by omega⟩)
      · exact Or.inr hcov
  rightEnd g hg := by
    rcases List.mem_cons.mp hg with rfl | hg
    · exact hend
    · exact h.rightEnd g hg
  ascending := List.pairwise_cons.mpr ⟨fun g hg => by
    have := (h.inside g hg).1
    dsimp only
    omega, h.ascending⟩
  exhaustive b hb hhi hcov := by
    by_cases hfirst : b ≤ m
    · exact ⟨_, List.mem_cons_self, hb, hfirst⟩
    · obtain ⟨g, hg, hin⟩ := h.exhaustive b (by omega) hhi hcov
      exact ⟨g, List.mem_cons_of_mem _ hg, hin⟩

/-- A height inside one run and at the start of another makes them one run. -/
theorem mem_of_mem (h : MaximalRuns covered lo hi runs) (h' : MaximalRuns covered lo hi runs') {g : BlockRange}
    (hg : g ∈ runs) : g ∈ runs' := by
  obtain ⟨hlo, hle, hhi⟩ := h.inside g hg
  obtain ⟨g', hg', hfrom, hto⟩ :=
    h'.exhaustive g.fromBlock hlo (by omega) (h.uncovered g hg _ ⟨le_rfl, hle⟩)
  obtain ⟨hlo', hle', hhi'⟩ := h'.inside g' hg'
  have hstart : g.fromBlock = g'.fromBlock := by
    rcases h.leftEnd g hg with heq | hcov
    · omega
    · by_contra hne
      exact h'.uncovered g' hg' _ ⟨by omega, by omega⟩ hcov
  have hend : g.toBlock = g'.toBlock := by
    rcases lt_trichotomy g.toBlock g'.toBlock with hlt | heq | hlt
    · rcases h.rightEnd g hg with hlast | hcov
      · omega
      · exact absurd hcov (h'.uncovered g' hg' _ ⟨by omega, by omega⟩)
    · exact heq
    · rcases h'.rightEnd g' hg' with hlast | hcov
      · omega
      · exact absurd hcov (h.uncovered g hg _ ⟨by omega, by omega⟩)
  cases g
  cases g'
  dsimp only at hstart hend
  subst hstart hend
  exact hg'

theorem nodup (h : MaximalRuns covered lo hi runs) : runs.Nodup :=
  h.ascending.imp_of_mem fun {g g'} hg _ hlt heq => by
    have := (h.inside g hg).2.1
    rw [← heq] at hlt
    omega

/-- A window has one list of maximal runs. -/
theorem unique (h : MaximalRuns covered lo hi runs) (h' : MaximalRuns covered lo hi runs') : runs = runs' := by
  have hperm : runs.Perm runs' := by
    rw [List.perm_ext_iff_of_nodup h.nodup h'.nodup]
    exact fun g => ⟨h.mem_of_mem h', h'.mem_of_mem h⟩
  refine hperm.eq_of_pairwise (fun g g' hg hg' hlt hlt' => ?_) h.ascending h'.ascending
  have hle := (h.inside g hg).2.1
  have hle' := (h'.inside g' hg').2.1
  omega

/-- No run is left exactly when every height is covered. -/
theorem eq_nil_iff (h : MaximalRuns covered lo hi runs) : runs = [] ↔ ∀ b, lo ≤ b → b ≤ hi → covered b := by
  constructor
  · rintro rfl b hlo hhi
    by_contra hb
    obtain ⟨g, hg, -⟩ := h.exhaustive b hlo hhi hb
    simp at hg
  · intro hall
    rw [List.eq_nil_iff_forall_not_mem]
    intro g hg
    obtain ⟨hlo, hle, hhi⟩ := h.inside g hg
    exact h.uncovered g hg _ ⟨le_rfl, hle⟩ (hall _ hlo (by omega))

end MaximalRuns

/-! ## The sweep -/

/-- A range that starts right behind an uncovered height starts inside the window or directly behind it, and it
covers its start (or, empty, leaves that to another range). -/
def StartsInside (covered : List BlockRange) (last : Int) (r : BlockRange) : Prop :=
  ¬ Covered covered (r.fromBlock - 1) →
    r.fromBlock - 1 ≤ last ∧ r.fromBlock - 1 ≤ r.toBlock ∧ (r.fromBlock - 1 = last ∨ Covered covered r.fromBlock)

/-- The condition under which the gaps are right. -/
def Sweepable (covered : List BlockRange) (window : BlockRange) : Prop :=
  ∀ r ∈ covered, window.fromBlock < r.fromBlock → StartsInside covered window.toBlock r

theorem covered_cons {r : BlockRange} {rest : List BlockRange} {b : Int} :
    Covered (r :: rest) b ↔ Within r b ∨ Covered rest b := by
  simp [Covered]

theorem Covered.perm {covered covered' : List BlockRange} (h : covered.Perm covered') {b : Int} :
    Covered covered b ↔ Covered covered' b := by
  simp only [Covered, h.mem_iff]

/-- Behind the cursor only the ranges still to come cover anything. -/
theorem covered_behind {r : BlockRange} {rest : List BlockRange} {b : Int} (h : r.toBlock < b) :
    Covered (r :: rest) b ↔ Covered rest b := by
  rw [covered_cons, or_iff_right]
  exact fun hin => absurd hin.2 (not_le.mpr h)

/-- One pass over ascending ranges, from the cursor on. The induction carries the condition to the ranges left. -/
theorem scanGaps_maximal {window : BlockRange} {ranges : List BlockRange} {cursor : Int}
    (hsorted : ranges.Pairwise fun a b => a.fromBlock ≤ b.fromBlock)
    (hstart : ∀ r ∈ ranges, cursor < r.fromBlock → StartsInside ranges window.toBlock r) :
    MaximalRuns (Covered ranges) cursor window.toBlock (scanGaps window cursor ranges) := by
  induction ranges generalizing cursor with
  | nil =>
    unfold scanGaps
    split
    · rename_i hle
      refine MaximalRuns.cons (MaximalRuns.nil (by omega)) hle le_rfl (fun b _ _ => ?_) (Or.inl rfl)
      simp [Covered]
    · rename_i hle
      exact MaximalRuns.nil (by omega)
  | cons r rest ih =>
    obtain ⟨hfirst, hrest⟩ := List.pairwise_cons.mp hsorted
    -- past this range only the later ones count
    have hnext : ∀ next, cursor ≤ next → r.toBlock < next →
        MaximalRuns (Covered (r :: rest)) next window.toBlock (scanGaps window next rest) := by
      intro next hcursor hpast
      refine MaximalRuns.congr (ih hrest fun x hx hlt hprev => ?_) fun b hb => (covered_behind (by omega)).symm
      rw [← covered_behind (r := r) (by omega)] at hprev
      obtain ⟨hlast, hempty, hcov⟩ := hstart x (List.mem_cons_of_mem _ hx) (by omega) hprev
      rw [covered_behind (by omega)] at hcov
      exact ⟨hlast, hempty, hcov⟩
    unfold scanGaps
    by_cases hgap : r.fromBlock > cursor
    · -- nothing covers the heights between the cursor and the range
      have hrun : ∀ b, cursor ≤ b → b ≤ r.fromBlock - 1 → ¬ Covered (r :: rest) b := by
        rintro b - hb ⟨x, hx, hin⟩
        have hle : r.fromBlock ≤ x.fromBlock := by
          rcases List.mem_cons.mp hx with rfl | hx
          · exact le_rfl
          · exact hfirst x hx
        have := hin.1
        omega
      obtain ⟨hlast, hempty, hend⟩ :=
        hstart r List.mem_cons_self hgap (hrun _ (by omega) le_rfl)
      rw [if_pos hgap, if_pos (by omega)]
      refine MaximalRuns.cons ?_ (by omega) hlast hrun ?_
      · refine (hnext (r.toBlock + 1) (by omega) (by omega)).extend (by omega) fun b hb hlt => ?_
        exact covered_cons.mpr (Or.inl ⟨by omega, by omega⟩)
      · rwa [sub_add_cancel]
    · rw [if_neg hgap, List.nil_append]
      refine (hnext _ (by split <;> omega) (by split <;> omega)).extend (by split <;> omega) fun b hb hlt => ?_
      refine covered_cons.mpr (Or.inl ⟨by omega, ?_⟩)
      split at hlt <;> omega

/-- In any order of the ranges, the gaps are the maximal uncovered runs of the window. -/
theorem Sweepable.maximal {covered : List BlockRange} {window : BlockRange} (h : Sweepable covered window) :
    MaximalRuns (Covered covered) window.fromBlock window.toBlock (findRangeGaps covered window) := by
  have hsame : ∀ b, Covered (sortOn (·.fromBlock) covered) b ↔ Covered covered b := fun b =>
    Covered.perm (sortOn_perm _ _)
  refine (scanGaps_maximal (pairwise_sortOn _ _) fun r hr hlt hprev => ?_).congr fun b _ => hsame b
  rw [hsame] at hprev
  obtain ⟨hlast, hempty, hend⟩ := h r (mem_sortOn.mp hr) hlt hprev
  exact ⟨hlast, hempty, hend.imp_right (hsame _).mpr⟩

theorem Sweepable.perm {covered covered' : List BlockRange} {window : BlockRange} (hperm : covered'.Perm covered)
    (h : Sweepable covered window) : Sweepable covered' window := by
  intro r hr hlt hprev
  rw [Covered.perm hperm] at hprev
  obtain ⟨hlast, hempty, hend⟩ := h r (hperm.mem_iff.mp hr) hlt hprev
  exact ⟨hlast, hempty, hend.imp_right (Covered.perm hperm).mpr⟩

/-! ## What a wrong range does -/

/-- The sweep over the ranges of a list is one over its first part, then over the rest from wherever that part ended:
not behind a height that ends nothing of it. -/
theorem scanGaps_append (window : BlockRange) (first rest : List BlockRange) (cursor : Int) :
    ∃ gaps next, scanGaps window cursor (first ++ rest) = gaps ++ scanGaps window next rest ∧
      ∀ b, cursor ≤ b → (∀ x ∈ first, x.toBlock < b) → next ≤ b := by
  induction first generalizing cursor with
  | nil => exact ⟨[], cursor, rfl, fun b hb _ => hb⟩
  | cons r first ih =>
    obtain ⟨gaps, next, hscan, hnext⟩ := ih (if r.toBlock ≥ cursor then r.toBlock + 1 else cursor)
    rw [List.cons_append, scanGaps, hscan, ← List.append_assoc]
    refine ⟨_, next, rfl, fun b hb hpast => hnext b ?_ fun x hx => hpast x (List.mem_cons_of_mem _ hx)⟩
    have := hpast r List.mem_cons_self
    split <;> omega

/-- A cursor in the window that no later range has reached starts the next gap. -/
theorem scanGaps_starts (window : BlockRange) {ranges : List BlockRange} {cursor : Int}
    (hlast : cursor ≤ window.toBlock) (hbehind : ∀ x ∈ ranges, cursor < x.fromBlock) :
    ∃ g ∈ scanGaps window cursor ranges, g.fromBlock = cursor := by
  cases ranges with
  | nil => exact ⟨{ fromBlock := cursor, toBlock := window.toBlock }, by simp [scanGaps, hlast], rfl⟩
  | cons r rest =>
    have := hbehind r List.mem_cons_self
    exact ⟨{ fromBlock := cursor, toBlock := r.fromBlock - 1 }, by simp [scanGaps, this], rfl⟩

/-- A range put in front of the others comes before all of them that start where it does. -/
theorem sortOn_cons (r : BlockRange) (l : List BlockRange) : ∃ pre post,
    sortOn (·.fromBlock) (r :: l) = pre ++ r :: post ∧ (∀ x ∈ pre, x.fromBlock < r.fromBlock) ∧
      ∀ x ∈ post, r.fromBlock ≤ x.fromBlock := by
  have hsort : sortOn (·.fromBlock) (r :: l) = _ := List.orderedInsert_eq_take_drop ..
  refine ⟨_, _, hsort, fun x hx => ?_, ?_⟩
  · have := List.all_eq_true.mp List.all_takeWhile x hx
    simpa using this
  · have hsorted := pairwise_sortOn (·.fromBlock) (r :: l)
    rw [hsort] at hsorted
    exact (List.pairwise_cons.mp (List.pairwise_append.mp hsorted).2.1).1

/-- Whatever the order of the ranges, the gaps are the maximal uncovered runs of the window, and none is left exactly
when the window is covered. -/
structure ExactGaps (covered : List BlockRange) (window : BlockRange) : Prop where
  maximal : MaximalRuns (Covered covered) window.fromBlock window.toBlock (findRangeGaps covered window)
  unordered : ∀ covered', covered'.Perm covered → findRangeGaps covered' window = findRangeGaps covered window
  closed : isGapClosed window covered = true ↔ ∀ b, Within window b → Covered covered b

variable {covered : List BlockRange} {window : BlockRange}

theorem Sweepable.exactGaps (h : Sweepable covered window) : ExactGaps covered window where
  maximal := h.maximal
  unordered covered' hperm := by
    refine (h.perm hperm).maximal.unique ?_
    exact h.maximal.congr fun b _ => (Covered.perm hperm).symm
  closed := by
    rw [isGapClosed, decide_eq_true_eq, List.length_eq_zero_iff, h.maximal.eq_nil_iff]
    exact ⟨fun hall b hb => hall b hb.1 hb.2, fun hall b hlo hhi => hall b ⟨hlo, hhi⟩⟩

theorem ExactGaps.sweepable (h : ExactGaps covered window) : Sweepable covered window := by
  intro r hr hfirst hprev
  -- the order in which the range comes before its ties
  have hperm := (List.perm_cons_erase hr).symm
  have hruns := h.maximal
  rw [← h.unordered _ hperm] at hruns
  obtain ⟨pre, post, hsort, hpre, hpost⟩ := sortOn_cons r (covered.erase r)
  have hmem : ∀ x ∈ pre, x ∈ covered := fun x hx => by
    rw [← hperm.mem_iff, ← mem_sortOn (f := (·.fromBlock)), hsort]
    exact List.mem_append_left _ hx
  obtain ⟨gaps, cursor, hscan, hcursor⟩ := scanGaps_append window pre (r :: post) window.fromBlock
  have hle : cursor ≤ r.fromBlock - 1 := by
    refine hcursor _ (by omega) fun x hx => ?_
    by_contra hto
    have := hpre x hx
    exact hprev ⟨x, hmem x hx, by omega, by omega⟩
  unfold findRangeGaps at hruns
  rw [hsort, hscan, scanGaps, if_pos (by omega)] at hruns
  have hgap : { fromBlock := cursor, toBlock := r.fromBlock - 1 } ∈
      gaps ++ ([{ fromBlock := cursor, toBlock := r.fromBlock - 1 }] ++
        scanGaps window (if r.toBlock ≥ cursor then r.toBlock + 1 else cursor) post) := by simp
  have hlast := (hruns.inside _ hgap).2.2
  refine ⟨hlast, ?_, ?_⟩
  · by_contra hempty
    -- the cursor falls back into the gap that was just closed
    have hback : (if r.toBlock ≥ cursor then r.toBlock + 1 else cursor) ≤ r.fromBlock - 1 := by
      split <;> omega
    obtain ⟨g, hg, hfrom⟩ := scanGaps_starts window (hback.trans hlast) fun x hx => by
      have := hpost x hx
      omega
    have hpairs := (List.pairwise_append.mp hruns.ascending).2.1
    rw [List.singleton_append] at hpairs
    have := (List.pairwise_cons.mp hpairs).1 g hg
    dsimp only at this
    omega
  · refine (hruns.rightEnd _ hgap).imp_right fun hcov => ?_
    rwa [show r.fromBlock - 1 + 1 = r.fromBlock by omega] at hcov

/-- The gaps are exact for precisely the ranges that the sweep can handle. -/
theorem exactGaps_iff (covered : List BlockRange) (window : BlockRange) :
    ExactGaps covered window ↔ Sweepable covered window :=
  ⟨ExactGaps.sweepable, Sweepable.exactGaps⟩

/-- A range behind the window ends the last gap outside it, and a window covered in full is not closed. -/
theorem exactGaps_fails :
    let window : BlockRange := { fromBlock := 0, toBlock := 10 }
    let covered : List BlockRange := [{ fromBlock := 0, toBlock := 10 }, { fromBlock := 20, toBlock := 30 }]
    findRangeGaps covered window = [{ fromBlock := 11, toBlock := 19 }] ∧ isGapClosed window covered = false ∧
      ¬ ExactGaps covered window := by
  refine ⟨by decide, by decide, fun h => ?_⟩
  have := (h.maximal.inside { fromBlock := 11, toBlock := 19 } (by decide)).2.2
  exact absurd this (by decide)

end IcttSentinel.Replay
