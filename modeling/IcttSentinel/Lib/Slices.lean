/-
Stretches of a list, by where they start and how long they are: how they split, and where the parts of a
concatenation stand in it.
-/
import Mathlib.Tactic

namespace IcttSentinel.Lib

variable {α : Type*}

/-- `len` elements from `start` on, or as many as there are. -/
def slice (l : List α) (start len : Nat) : List α := (l.drop start).take len

theorem length_slice (l : List α) (start len : Nat) : (slice l start len).length = min len (l.length - start) := by
  rw [slice, List.length_take, List.length_drop]

/-- A stretch of full length lies within the list. -/
theorem slice_within {l : List α} {start len : Nat} (h : (slice l start len).length = len) (hlen : 0 < len) :
    start + len ≤ l.length := by
  rw [length_slice] at h
  omega

theorem length_slice_of_le {l : List α} {start len : Nat} (h : start + len ≤ l.length) :
    (slice l start len).length = len := by
  rw [length_slice]
  omega

theorem mem_of_mem_slice {l : List α} {start len : Nat} {a : α} (h : a ∈ slice l start len) : a ∈ l :=
  List.mem_of_mem_drop (List.mem_of_mem_take h)

theorem slice_add (l : List α) (start m n : Nat) : slice l start (m + n) = slice l start m ++ slice l (start + m) n := by
  unfold slice
  rw [List.take_add, List.drop_drop]

theorem slice_drop (l : List α) (k start len : Nat) : slice (l.drop k) start len = slice l (k + start) len := by
  unfold slice
  rw [List.drop_drop]

theorem slice_self {l : List α} {n : Nat} (h : l.length = n) : slice l 0 n = l := by
  unfold slice
  rw [List.drop_zero, ← h, List.take_length]

theorem drop_take_slice (l : List α) (start stop : Nat) : (l.take stop).drop start = slice l start (stop - start) :=
  List.drop_take

/-- The first part of a concatenation. -/
theorem slice_head {x y : List α} {n : Nat} (h : x.length = n) : slice (x ++ y) 0 n = x := by
  unfold slice
  rw [List.drop_zero, ← h, List.take_left]

/-- What follows changes no stretch of the first part. -/
theorem slice_append {x : List α} {start len : Nat} (h : start + len ≤ x.length) (y : List α) :
    slice (x ++ y) start len = slice x start len := by
  have hstart : start ≤ x.length := by omega
  have hlen : len ≤ (x.drop start).length := by
    rw [List.length_drop]
    omega
  unfold slice
  rw [List.drop_append_of_le_length hstart, List.take_append_of_le_length hlen]

/-- Behind the first part of a concatenation. -/
theorem slice_skip {x y : List α} {k : Nat} (h : x.length = k) (start len : Nat) :
    slice (x ++ y) (k + start) len = slice y start len := by
  unfold slice
  rw [← List.drop_drop, ← h, List.drop_left]

end IcttSentinel.Lib
