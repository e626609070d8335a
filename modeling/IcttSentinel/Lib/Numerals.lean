/-
Decimal numerals with a movable point: the digits of a number split at a scale into those of its quotient and a block of
fixed width, the zeros such a block may lose at its end, and the values that are read back.
-/
import IcttSentinel.Lib.JsonText
import Mathlib.Data.List.DropRight

namespace IcttSentinel.Lib

/-- `/^(0|[1-9][0-9]*)$/`. -/
def isNumeral : List Char → Bool
  | [] => false
  | c :: cs => (c = '0' && cs.isEmpty) || (c ≠ '0' && c.isDigit && cs.all Char.isDigit)

/-- The number that digits write. -/
def valueOf (cs : List Char) : Nat := Nat.ofDigitChars 10 cs 0

/-- `s.padStart(n, '0')`. -/
def padStart (n : Nat) (cs : List Char) : List Char := List.replicate (n - cs.length) '0' ++ cs

/-- `s.padEnd(n, '0')`. -/
def padEnd (n : Nat) (cs : List Char) : List Char := cs ++ List.replicate (n - cs.length) '0'

/-- `s.replace(/0+$/, '')`. -/
def trimZeros (cs : List Char) : List Char := cs.rdropWhile (· = '0')

/-- The last `w` digits of a number, all of them written. -/
def lowDigits : Nat → Nat → List Char
  | 0, _ => []
  | w + 1, n => lowDigits w (n / 10) ++ [(n % 10).digitChar]

/-! ## Digits and values -/

theorem isDigit_of_mem_toDigits {n : Nat} {c : Char} (h : c ∈ Nat.toDigits 10 n) : c.isDigit = true :=
  Nat.isDigit_of_mem_toDigits (by decide) (by decide) h

theorem isNumeral_toDigits (n : Nat) : isNumeral (Nat.toDigits 10 n) = true := by
  obtain ⟨c, cs, hcons⟩ := List.exists_cons_of_ne_nil (Nat.toDigits_ne_nil (n := n) (b := 10))
  have hdigits : ∀ d ∈ c :: cs, d.isDigit = true := fun d hd => isDigit_of_mem_toDigits (hcons ▸ hd)
  rw [hcons, isNumeral]
  by_cases hzero : c = '0'
  · -- only zero starts with a zero
    subst hzero
    cases cs with
    | nil => rfl
    | cons d cs => exact absurd hcons (Json.toDigits_ne_zero_cons _ _ _)
  · have hall : cs.all Char.isDigit = true := List.all_eq_true.2 fun d hd => hdigits d (List.mem_cons_of_mem c hd)
    simp [hzero, hall, hdigits c List.mem_cons_self]

theorem isDigit_of_isNumeral {cs : List Char} (h : isNumeral cs = true) : ∀ c ∈ cs, c.isDigit = true := by
  cases cs with
  | nil => cases h
  | cons c cs =>
    rw [isNumeral, Bool.or_eq_true, Bool.and_eq_true, Bool.and_eq_true, Bool.and_eq_true] at h
    rcases h with ⟨hzero, hempty⟩ | ⟨⟨-, hc⟩, hcs⟩
    · rw [List.isEmpty_iff.1 hempty, of_decide_eq_true hzero]
      intro d hd
      rw [List.mem_singleton.1 hd]
      rfl
    · exact List.forall_mem_cons.2 ⟨hc, List.all_eq_true.1 hcs⟩

/-- The digit a character is. -/
theorem digitChar_of_isDigit {c : Char} (h : c.isDigit = true) :
    c.toNat - '0'.toNat < 10 ∧ (c.toNat - '0'.toNat).digitChar = c := by
  have hbounds : 48 ≤ c.toNat ∧ c.toNat ≤ 57 := by
    rw [Char.isDigit, Bool.and_eq_true, decide_eq_true_eq, decide_eq_true_eq] at h
    exact h
  refine ⟨by rw [show '0'.toNat = 48 from rfl]; omega, ?_⟩
  have hall : ∀ n : Fin 10, (n.val).digitChar = Char.ofNat (48 + n.val) := by decide
  have h := hall ⟨c.toNat - 48, by omega⟩
  rw [show '0'.toNat = 48 from rfl, h, show 48 + (c.toNat - 48) = c.toNat by omega, Char.ofNat_toNat]

theorem valueOf_concat (cs : List Char) (c : Char) : valueOf (cs ++ [c]) = 10 * valueOf cs + (c.toNat - '0'.toNat) := by
  rw [valueOf, Nat.ofDigitChars_append, Nat.ofDigitChars_cons, Nat.ofDigitChars_nil]
  rfl

theorem valueOf_append (l m : List Char) : valueOf (l ++ m) = 10 ^ m.length * valueOf l + valueOf m := by
  rw [valueOf, Nat.ofDigitChars_append, Nat.ofDigitChars_eq_ofDigitChars_zero]
  rfl

theorem valueOf_toDigits (n : Nat) : valueOf (Nat.toDigits 10 n) = n := Nat.ofDigitChars_ten_toDigits

/-- A numeral without leading zeros is the one of its value. -/
theorem toDigits_valueOf {cs : List Char} (h : isNumeral cs = true) : Nat.toDigits 10 (valueOf cs) = cs := by
  have hdigits := isDigit_of_isNumeral h
  induction cs using List.reverseRecOn with
  | nil => cases h
  | append_singleton cs c ih =>
    obtain ⟨hlt, hchar⟩ := digitChar_of_isDigit (hdigits c (by simp))
    rw [valueOf_concat]
    cases cs with
    | nil =>
      rw [show valueOf [] = 0 from rfl, Nat.mul_zero, Nat.zero_add, Nat.toDigits_of_lt_base hlt, hchar]
      rfl
    | cons d cs =>
      have hd : d ≠ '0' := by
        rintro rfl
        simp [isNumeral] at h
      have hinit : isNumeral (d :: cs) = true := by
        have hall : cs.all Char.isDigit = true := List.all_eq_true.2 fun e he => hdigits e (by simp [he])
        simp [isNumeral, hd, hall, hdigits d (by simp)]
      have hpos : 0 < valueOf (d :: cs) := by
        rw [Nat.pos_iff_ne_zero]
        intro hzero
        have hsame := ih hinit fun e he => hdigits e (List.mem_append_left _ he)
        rw [hzero, Nat.toDigits_zero] at hsame
        exact hd (List.cons.inj hsame).1.symm
      rw [← Nat.toDigits_append_toDigits (by decide) hpos hlt, ih hinit fun e he => hdigits e (List.mem_append_left _ he),
        Nat.toDigits_of_lt_base hlt, hchar]

/-! ## Blocks of fixed width -/

@[simp] theorem length_lowDigits (w n : Nat) : (lowDigits w n).length = w := by
  induction w generalizing n with
  | zero => rfl
  | succ w ih => rw [lowDigits, List.length_append, ih, List.length_singleton]

theorem isDigit_of_mem_lowDigits {w n : Nat} {c : Char} (h : c ∈ lowDigits w n) : c.isDigit = true := by
  induction w generalizing n with
  | zero => cases h
  | succ w ih =>
    rw [lowDigits, List.mem_append, List.mem_singleton] at h
    rcases h with h | rfl
    · exact ih h
    · rw [Nat.isDigit_digitChar]
      exact decide_eq_true (Nat.mod_lt n (by decide))

/-- A wider block starts with the digits of the quotient. -/
theorem lowDigits_add (v w n : Nat) : lowDigits (v + w) n = lowDigits v (n / 10 ^ w) ++ lowDigits w n := by
  induction w generalizing n with
  | zero => rw [Nat.add_zero, Nat.pow_zero, Nat.div_one, lowDigits, List.append_nil]
  | succ w ih =>
    rw [← Nat.add_assoc, lowDigits, ih, lowDigits, List.append_assoc, Nat.div_div_eq_div_mul, Nat.pow_succ, Nat.mul_comm 10]

theorem take_lowDigits {k w : Nat} (h : k ≤ w) (n : Nat) : (lowDigits w n).take k = lowDigits k (n / 10 ^ (w - k)) := by
  obtain ⟨v, rfl⟩ := Nat.exists_eq_add_of_le h
  rw [lowDigits_add, List.take_left' (length_lowDigits _ _), Nat.add_sub_cancel_left]

theorem valueOf_lowDigits (w n : Nat) : valueOf (lowDigits w n) = n % 10 ^ w := by
  induction w generalizing n with
  | zero => rw [Nat.pow_zero, Nat.mod_one]; rfl
  | succ w ih =>
    have hdigit : (n % 10).digitChar.toNat - '0'.toNat = n % 10 :=
      Nat.toNat_digitChar_sub_48_of_lt_ten (Nat.mod_lt n (by decide))
    rw [lowDigits, valueOf_concat, ih, hdigit, Nat.pow_succ, Nat.mul_comm (10 ^ w), Nat.mod_mul, Nat.add_comm]

/-- Digits are the block of their own width of any number that ends in them. -/
theorem lowDigits_valueOf {cs : List Char} (h : ∀ c ∈ cs, c.isDigit = true) (q : Nat) :
    lowDigits cs.length (10 ^ cs.length * q + valueOf cs) = cs := by
  induction cs using List.reverseRecOn generalizing q with
  | nil => rfl
  | append_singleton cs c ih =>
    obtain ⟨hlt, hchar⟩ := digitChar_of_isDigit (h c (by simp))
    have hsum : 10 ^ (cs ++ [c]).length * q + valueOf (cs ++ [c]) =
        10 * (10 ^ cs.length * q + valueOf cs) + (c.toNat - '0'.toNat) := by
      rw [valueOf_concat, List.length_append, List.length_singleton, Nat.pow_succ]
      ring
    rw [hsum, List.length_append, List.length_singleton, lowDigits, Nat.mul_add_div (by decide), Nat.div_eq_of_lt hlt,
      Nat.add_zero, ih fun d hd => h d (List.mem_append_left _ hd), Nat.mul_add_mod, Nat.mod_eq_of_lt hlt, hchar]

theorem valueOf_lt {cs : List Char} (h : ∀ c ∈ cs, c.isDigit = true) : valueOf cs < 10 ^ cs.length := by
  have hlow := lowDigits_valueOf h 0
  have hmod := valueOf_lowDigits cs.length (10 ^ cs.length * 0 + valueOf cs)
  rw [hlow, Nat.mul_zero, Nat.zero_add] at hmod
  rw [hmod]
  exact Nat.mod_lt _ (Nat.pow_pos (by decide))

/-- A number padded beyond a scale splits into its quotient and the block of the scale. -/
theorem padStart_toDigits (w n : Nat) :
    padStart (w + 1) (Nat.toDigits 10 n) = Nat.toDigits 10 (n / 10 ^ w) ++ lowDigits w n := by
  induction w generalizing n with
  | zero =>
    have hpos : 0 < (Nat.toDigits 10 n).length := Nat.length_toDigits_pos
    have hnone : 0 + 1 - (Nat.toDigits 10 n).length = 0 := by omega
    rw [padStart, hnone, Nat.pow_zero, Nat.div_one, lowDigits, List.append_nil]
    rfl
  | succ w ih =>
    have hstep : padStart (w + 1 + 1) (Nat.toDigits 10 n) =
        padStart (w + 1) (Nat.toDigits 10 (n / 10)) ++ [(n % 10).digitChar] := by
      by_cases hlt : n < 10
      · rw [Nat.toDigits_of_lt_base hlt, Nat.div_eq_of_lt hlt, Nat.toDigits_zero, Nat.mod_eq_of_lt hlt]
        simp [padStart, List.replicate_succ']
      · rw [Nat.toDigits_of_base_le (by decide) (Nat.le_of_not_lt hlt)]
        simp [padStart]
    rw [hstep, ih, Nat.div_div_eq_div_mul, List.append_assoc, lowDigits, Nat.pow_succ, Nat.mul_comm 10]

/-! ## Zeros at the end -/

theorem trimZeros_append_zeros (cs : List Char) (n : Nat) : trimZeros (cs ++ List.replicate n '0') = trimZeros cs := by
  induction n with
  | zero => rw [List.replicate_zero, List.append_nil]
  | succ n ih =>
    rw [List.replicate_succ', ← List.append_assoc, trimZeros, List.rdropWhile_concat_pos _ _ _ (by simp)]
    exact ih

theorem trimZeros_padEnd (n : Nat) (cs : List Char) : trimZeros (padEnd n cs) = trimZeros cs :=
  trimZeros_append_zeros cs _

/-- What was trimmed is put back by padding. -/
theorem padEnd_trimZeros (cs : List Char) : padEnd cs.length (trimZeros cs) = cs := by
  induction cs using List.reverseRecOn with
  | nil => rfl
  | append_singleton cs c ih =>
    by_cases hc : c = '0'
    · subst hc
      have hle : (trimZeros cs).length ≤ cs.length := (List.rdropWhile_prefix _ _).length_le
      have htrim : trimZeros (cs ++ ['0']) = trimZeros cs := trimZeros_append_zeros cs 1
      have hone : cs.length + 1 - (trimZeros cs).length = cs.length - (trimZeros cs).length + 1 := by omega
      rw [htrim, padEnd, List.length_append, List.length_singleton, hone, List.replicate_succ', ← List.append_assoc]
      exact congrArg (· ++ ['0']) ih
    · have htrim : trimZeros (cs ++ [c]) = cs ++ [c] := List.rdropWhile_concat_neg _ _ _ (by simpa using hc)
      rw [htrim, padEnd, Nat.sub_self, List.replicate_zero, List.append_nil]

theorem trimZeros_sublist (cs : List Char) : (trimZeros cs).Sublist cs := (List.rdropWhile_prefix _ _).sublist

/-- Zeros behind the first `k` characters are trimmed with them. -/
theorem trimZeros_take {cs : List Char} {k : Nat} (hzeros : ∀ c ∈ cs.drop k, c = '0') :
    trimZeros (cs.take k) = trimZeros cs := by
  have hdrop : cs.drop k = List.replicate (cs.drop k).length '0' := List.eq_replicate_of_mem hzeros
  conv_rhs => rw [← List.take_append_drop k cs, hdrop]
  exact (trimZeros_append_zeros _ _).symm

/-- At most `k` digits are left exactly when all behind them are zeros. -/
theorem length_trimZeros_le {cs : List Char} {k : Nat} : (trimZeros cs).length ≤ k ↔ ∀ c ∈ cs.drop k, c = '0' := by
  constructor
  · intro hle c hc
    rw [← padEnd_trimZeros cs, padEnd, List.drop_append, List.drop_eq_nil_of_le hle, List.nil_append] at hc
    exact List.eq_of_mem_replicate (List.mem_of_mem_drop hc)
  · intro hzeros
    rw [← trimZeros_take hzeros]
    exact (trimZeros_sublist _).length_le.trans (List.length_take_le _ _)

end IcttSentinel.Lib
