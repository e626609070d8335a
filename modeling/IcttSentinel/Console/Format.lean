/-
Amounts on the console, apps/console/src/model/format.ts: base units at a scale, in groups of three and cut to a number of
fraction digits. Without its separators the text is the rendering of the domain, of the amount or of what was left of it.
-/
import IcttSentinel.Domain.Amount
import Mathlib

namespace IcttSentinel.Console

open IcttSentinel.Domain IcttSentinel.Lib

def DIGIT_SEPARATOR : Char := ' '

/-- A group of digits before those that are grouped already. -/
def joinGroup (digits out : List Char) : List Char := digits ++ if out = [] then [] else DIGIT_SEPARATOR :: out

/-- The loop of `group`, from the position `i` down. -/
def groupFrom (digits : List Char) : Nat → List Char → List Char
  | 0, out => out
  | 1, out => joinGroup (digits.take 1) out
  | 2, out => joinGroup (digits.take 2) out
  | i + 3, out => groupFrom digits i (joinGroup ((digits.take (i + 3)).drop i) out)

/-- Group an integer digit string in threes, from the right. -/
def group (digits : List Char) : List Char := groupFrom digits digits.length []

def formatAmount (baseUnits : RawAmount) (decimals : Int) (maxFractionDigits : Nat) : Except String String :=
  if decimals < 0 ∨ decimals > 77 then .error ("decimals out of range: " ++ toString decimals)
  else
    let raw := baseUnits.text.toList
    let negative := raw.head? = some '-'
    let magnitude := if negative then raw.drop 1 else raw
    if !isNumeral magnitude then .error ("not a canonical base-unit integer: " ++ Json.quote baseUnits.text)
    else
      let d := decimals.toNat
      let padded := padStart (d + 1) magnitude
      let whole := padded.take (padded.length - d)
      let fraction := if d = 0 then [] else padded.drop (padded.length - d)
      let shown := trimZeros (fraction.take maxFractionDigits)
      let truncated := fraction.length > maxFractionDigits ∧
        (fraction.drop maxFractionDigits).any fun c => '1' ≤ c ∧ c ≤ '9'
      .ok (String.ofList ((if negative then ['-'] else []) ++ group whole ++
        (if shown = [] then [] else '.' :: shown) ++ if truncated then ['…'] else []))

/-- The text without the separators of its groups. -/
def withoutSeparators (s : String) : String := String.ofList (s.toList.filter (· ≠ DIGIT_SEPARATOR))

/-- The number of digits behind the point of a text. -/
def fractionDigits (s : String) : Nat := (splitPoint s).2.length

/-! ## Groups -/

theorem filter_joinGroup (digits out : List Char) : (joinGroup digits out).filter (· ≠ DIGIT_SEPARATOR) =
    digits.filter (· ≠ DIGIT_SEPARATOR) ++ out.filter (· ≠ DIGIT_SEPARATOR) := by
  unfold joinGroup
  rw [List.filter_append]
  split
  next hout => rw [hout]
  next => rw [List.filter_cons_of_neg (by simp)]

/-- Only separators are put between the digits. -/
theorem filter_groupFrom (digits : List Char) : ∀ (i : Nat) (out : List Char),
    (groupFrom digits i out).filter (· ≠ DIGIT_SEPARATOR) =
      (digits.take i).filter (· ≠ DIGIT_SEPARATOR) ++ out.filter (· ≠ DIGIT_SEPARATOR)
  | 0, out => by simp [groupFrom]
  | 1, out => filter_joinGroup _ _
  | 2, out => filter_joinGroup _ _
  | i + 3, out => by
    have hparts : (digits.take (i + 3)).take i ++ (digits.take (i + 3)).drop i = digits.take (i + 3) :=
      List.take_append_drop i _
    rw [List.take_take, Nat.min_eq_left (by omega)] at hparts
    rw [groupFrom, filter_groupFrom digits i, filter_joinGroup, ← hparts, List.filter_append, List.append_assoc, hparts]

theorem filter_digits {digits : List Char} (h : ∀ c ∈ digits, c.isDigit = true) :
    digits.filter (· ≠ DIGIT_SEPARATOR) = digits := by
  refine List.filter_eq_self.2 fun c hc => decide_eq_true ?_
  rintro rfl
  exact absurd (h _ hc) (by decide)

theorem filter_group {digits : List Char} (h : ∀ c ∈ digits, c.isDigit = true) :
    (group digits).filter (· ≠ DIGIT_SEPARATOR) = digits := by
  rw [group, filter_groupFrom, List.take_length, List.filter_nil, List.append_nil, filter_digits h]

theorem mem_group {digits : List Char} (h : ∀ c ∈ digits, c.isDigit = true) {c : Char} (hc : c ∈ group digits) :
    c.isDigit = true ∨ c = DIGIT_SEPARATOR := by
  by_cases hseparator : c = DIGIT_SEPARATOR
  · exact Or.inr hseparator
  · refine Or.inl (h c ?_)
    rw [← filter_group h]
    exact List.mem_filter.2 ⟨hc, decide_eq_true hseparator⟩

/-! ## The parts of a text -/

/-- What is shown of an amount: its groups, the digits that are not cut, and a sign that one of those cut is not zero. -/
theorem formatAmount_eq {base : RawAmount} {v : Nat} (hbase : base.text = toString v) (d : Decimals) (k : Nat) :
    formatAmount base d.value k = .ok (String.ofList (group (Nat.toDigits 10 (v / 10 ^ d.value)) ++
      (if trimZeros ((lowDigits d.value v).take k) = [] then [] else '.' :: trimZeros ((lowDigits d.value v).take k)) ++
        if ∃ c ∈ (lowDigits d.value v).drop k, c ≠ '0' then ['…'] else [])) := by
  have hle := d.le
  have htext : base.text.toList = Nat.toDigits 10 v := by rw [hbase, toList_toString_nat]
  have hsign : ¬ (Nat.toDigits 10 v).head? = some '-' := by
    intro hhead
    have hdigit := isDigit_of_mem_toDigits (List.mem_of_mem_head? hhead)
    exact absurd hdigit (by decide)
  have hlength : (Nat.toDigits 10 (v / 10 ^ d.value) ++ lowDigits d.value v).length - d.value =
      (Nat.toDigits 10 (v / 10 ^ d.value)).length := by
    rw [List.length_append, length_lowDigits, Nat.add_sub_cancel]
  have hfraction : (if d.value = 0 then [] else lowDigits d.value v) = lowDigits d.value v := by
    split
    next hzero => rw [hzero]; rfl
    next => rfl
  -- the ellipsis stands exactly for a digit other than zero among those cut off
  have hcut : (d.value > k ∧ ((lowDigits d.value v).drop k).any (fun c => '1' ≤ c ∧ c ≤ '9') = true) ↔
      ∃ c ∈ (lowDigits d.value v).drop k, c ≠ '0' := by
    rw [List.any_eq_true]
    constructor
    · rintro ⟨-, c, hc, hdigit⟩
      refine ⟨c, hc, ?_⟩
      rintro rfl
      exact absurd hdigit (by decide)
    · rintro ⟨c, hc, hne⟩
      have hlong := List.length_pos_of_mem hc
      rw [List.length_drop, length_lowDigits] at hlong
      refine ⟨by omega, c, hc, ?_⟩
      obtain ⟨hlt, hchar⟩ := digitChar_of_isDigit (isDigit_of_mem_lowDigits (List.mem_of_mem_drop hc))
      rw [← hchar] at hne ⊢
      generalize c.toNat - '0'.toNat = n at hlt hne
      interval_cases n
      · exact absurd rfl hne
      all_goals decide
  unfold formatAmount
  rw [if_neg (by omega)]
  simp only [htext, hsign, if_false, isNumeral_toDigits, Bool.not_true, Bool.false_eq_true, Int.toNat_natCast,
    padStart_toDigits, hlength, List.take_left, List.drop_left, hfraction, List.nil_append, length_lowDigits, hcut]

theorem fractionDigits_decimalString (v d : Nat) :
    fractionDigits (decimalString v d) = (trimZeros (lowDigits d v)).length := by
  rw [fractionDigits, decimalString_eq, splitPoint_joinPoint fun c hc => isDigit_of_mem_toDigits hc]

/-- Without its separators the text is a whole part with the digits that are not cut, and the sign of what is. -/
theorem withoutSeparators_shown {whole frac : List Char} (hwhole : ∀ c ∈ whole, c.isDigit = true)
    (hfrac : ∀ c ∈ frac, c.isDigit = true) (cut : Bool) :
    withoutSeparators (String.ofList (group whole ++ (if frac = [] then [] else '.' :: frac) ++
        if cut then ['…'] else [])) =
      String.ofList (joinPoint whole frac) ++ if cut then "…" else "" := by
  rw [← String.toList_inj, withoutSeparators, String.toList_append, String.toList_ofList, String.toList_ofList,
    String.toList_ofList, List.filter_append, List.filter_append, filter_group hwhole]
  have hpoint : ((if frac = [] then [] else '.' :: frac : List Char)).filter (· ≠ DIGIT_SEPARATOR) =
      if frac = [] then [] else '.' :: frac := by
    split
    next => rfl
    next => rw [List.filter_cons_of_pos (by decide), filter_digits hfrac]
  have hsign : ((if cut then ['…'] else [] : List Char)).filter (· ≠ DIGIT_SEPARATOR) =
      (if cut then "…" else "").toList := by
    cases cut <;> rfl
  rw [hpoint, hsign, joinPoint]
  cases frac with
  | nil => simp
  | cons c frac => simp

theorem mem_shown_iff {whole frac : List Char} (hwhole : ∀ c ∈ whole, c.isDigit = true)
    (hfrac : ∀ c ∈ frac, c.isDigit = true) (cut : Bool) :
    '…' ∈ (String.ofList (group whole ++ (if frac = [] then [] else '.' :: frac) ++
      if cut then ['…'] else [])).toList ↔ cut = true := by
  have hgroup : '…' ∉ group whole := fun hmem => (mem_group hwhole hmem).elim (by decide) (by decide)
  have hpoint : '…' ∉ (if frac = [] then [] else '.' :: frac : List Char) := by
    split
    next => exact List.not_mem_nil
    next =>
      rw [List.mem_cons, not_or]
      exact ⟨by decide, fun hmem => absurd (hfrac _ hmem) (by decide)⟩
  rw [String.toList_ofList, List.mem_append, List.mem_append]
  cases cut <;> simp [hgroup, hpoint]

/-- The text of an amount on the console: its rendering where no digit other than zero is cut, else the rendering of what
is left and a sign of the cut. -/
structure ShownExactly (v d k : Nat) (shown : String) : Prop where
  whole : fractionDigits (decimalString v d) ≤ k → withoutSeparators shown = decimalString v d
  truncated : k < fractionDigits (decimalString v d) →
    withoutSeparators shown = decimalString (v / 10 ^ (d - k)) k ++ "…"
  marked : '…' ∈ shown.toList ↔ ∃ c ∈ (lowDigits d v).drop k, c ≠ '0'

theorem formatAmount_exact {base : RawAmount} {v : Nat} (hbase : base.text = toString v) (d : Decimals) (k : Nat) :
    ∃ shown, formatAmount base d.value k = .ok shown ∧ ShownExactly v d.value k shown := by
  refine ⟨_, formatAmount_eq hbase d k, ?_⟩
  have hwhole : ∀ c ∈ Nat.toDigits 10 (v / 10 ^ d.value), c.isDigit = true := fun c hc => isDigit_of_mem_toDigits hc
  have hfrac : ∀ c ∈ trimZeros ((lowDigits d.value v).take k), c.isDigit = true := fun c hc =>
    isDigit_of_mem_lowDigits (List.mem_of_mem_take ((trimZeros_sublist _).mem hc))
  have htext := withoutSeparators_shown hwhole hfrac (decide (∃ c ∈ (lowDigits d.value v).drop k, c ≠ '0'))
  have hmark := mem_shown_iff hwhole hfrac (decide (∃ c ∈ (lowDigits d.value v).drop k, c ≠ '0'))
  simp only [decide_eq_true_eq] at htext hmark
  refine ⟨fun hle => ?_, fun hlt => ?_, hmark⟩
  · rw [fractionDigits_decimalString, length_trimZeros_le] at hle
    have hnone : ¬ ∃ c ∈ (lowDigits d.value v).drop k, c ≠ '0' := by
      rintro ⟨c, hc, hne⟩
      exact hne (hle c hc)
    rw [htext, if_neg hnone, trimZeros_take hle, decimalString_eq, String.append_empty]
  · rw [fractionDigits_decimalString] at hlt
    have hscale : k < d.value := by
      have hle := (trimZeros_sublist (lowDigits d.value v)).length_le
      rw [length_lowDigits] at hle
      omega
    have hsome : ∃ c ∈ (lowDigits d.value v).drop k, c ≠ '0' := by
      by_contra hnone
      push Not at hnone
      exact absurd (length_trimZeros_le.2 hnone) (Nat.not_le.2 hlt)
    have hquotient : v / 10 ^ (d.value - k) / 10 ^ k = v / 10 ^ d.value := by
      rw [Nat.div_div_eq_div_mul, ← Nat.pow_add, Nat.sub_add_cancel hscale.le]
    rw [htext, if_pos hsome, take_lowDigits hscale.le, decimalString_eq, hquotient]

/-- Amount texts are exact: a rendering is read back, and is the one canonical text of its amount; the column keeps the
amount; and the console shows its rendering, or what is left of it under a mark. -/
theorem amount_texts_exact (a : Amount) (d : Decimals) :
    parseAmountAtScale (amountToDecimalString a d) d = .ok a ∧
      (∀ s, parseAmountAtScale s d = .ok a → canonicalForm s = amountToDecimalString a d) ∧
      (∃! s, parseAmountAtScale s d = .ok a ∧ canonicalForm s = s) ∧
      columnToAmount (.string (amountToColumn a)) = .ok a ∧
      ∀ base : RawAmount, base.text = toString a.value → ∀ k, ∃ shown,
        formatAmount base d.value k = .ok shown ∧ ShownExactly a.value d.value k shown := by
  have hparse := parseAmountAtScale_amountToDecimalString a d
  refine ⟨hparse, fun s hs => canonicalForm_of_parse hs, ?_, columnToAmount_amountToColumn a, fun base hbase k =>
    formatAmount_exact hbase d k⟩
  refine ⟨amountToDecimalString a d, ⟨hparse, canonicalForm_of_parse hparse⟩, ?_⟩
  rintro s ⟨hs, hcanonical⟩
  rw [← hcanonical]
  exact canonicalForm_of_parse hs

example : formatAmount (.bigint 1234567890123) 6 2 = .ok "1 234 567.89…" ∧
    formatAmount (.string "1234500000") 6 6 = .ok "1 234.5" := by
  decide +kernel

end IcttSentinel.Console
