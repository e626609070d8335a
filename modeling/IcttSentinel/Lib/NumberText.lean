/-
The texts of integral numbers in JavaScript. A number is a double, and `Number::toString` writes the fewest digits that
are read back as it, with an exponent behind them from 10 ^ 21 on. No two numbers share a text.
-/
import IcttSentinel.Lib.Numerals

namespace IcttSentinel.Lib

/-! ## Doubles -/

/-- A natural number rounded to 53 significant bits, ties to even. -/
def nearestDouble (n : Nat) : Nat :=
  let unit := 2 ^ (n.log2 - 52)
  let below := n / unit
  let rest := n % unit
  if unit < 2 * rest ∨ unit = 2 * rest ∧ below % 2 = 1 then (below + 1) * unit else below * unit

/-- A number without a fraction. A zero has no sign here. -/
structure IntegralNumber where
  value : Int
  isDouble : nearestDouble value.natAbs = value.natAbs ∧ value.natAbs < 2 ^ 1024
  deriving DecidableEq

/-! ## Digits -/

/-- The multiple of `10 ^ zeros` next to a double that is read back as it: the nearer one of two, the even one of two that
are equally near. -/
def digitsAt (n zeros : Nat) : Option Nat :=
  let below := n / 10 ^ zeros
  let rest := n % 10 ^ zeros
  let reads := fun digits => decide (0 < digits ∧ nearestDouble (digits * 10 ^ zeros) = n)
  if reads below && reads (below + 1) then
    if 2 * rest < 10 ^ zeros ∨ 2 * rest = 10 ^ zeros ∧ below % 2 = 0 then some below else some (below + 1)
  else if reads below then some below
  else if reads (below + 1) then some (below + 1)
  else none

/-- The digits before as many zeros as there can be, `most` of them at most. -/
def shortestDigits (n : Nat) : Nat → Nat × Nat
  | 0 => (n, 0)
  | most + 1 =>
    match digitsAt n (most + 1) with
    | some digits => (digits, most + 1)
    | none => shortestDigits n most

/-- The digits with a point behind the first one. -/
def pointed : List Char → List Char
  | c :: d :: cs => c :: '.' :: d :: cs
  | cs => cs

/-- `Number::toString` of a number that is not negative. -/
def magnitudeText (n : Nat) : String :=
  let (digits, zeros) := shortestDigits n (Nat.toDigits 10 n).length
  let length := (Nat.toDigits 10 digits).length + zeros
  if length ≤ 21 then (digits * 10 ^ zeros).repr
  else String.ofList (pointed (Nat.toDigits 10 digits)) ++ "e+" ++ (length - 1).repr

/-- `Number::toString`. -/
def numberText (x : IntegralNumber) : String :=
  if x.value < 0 then "-" ++ magnitudeText x.value.natAbs else magnitudeText x.value.natAbs

example : magnitudeText (2 ^ 67) = "147573952589676410000" := by decide +kernel

example : magnitudeText 99999999999999991611392 = "1e+23" := by decide +kernel

/-! ## Reading back -/

theorem digitsAt_reads {n zeros digits : Nat} (h : digitsAt n zeros = some digits) :
    nearestDouble (digits * 10 ^ zeros) = n := by
  unfold digitsAt at h
  dsimp only at h
  split at h
  · rename_i hboth
    obtain ⟨hbelow, habove⟩ := Bool.and_eq_true_iff.1 hboth
    split at h
    · cases h
      exact (of_decide_eq_true hbelow).2
    · cases h
      exact (of_decide_eq_true habove).2
  · split at h
    · rename_i hbelow
      cases h
      exact (of_decide_eq_true hbelow).2
    · split at h
      · rename_i habove
        cases h
        exact (of_decide_eq_true habove).2
      · cases h

/-- A double is the one nearest to its shortest digits. -/
theorem shortestDigits_reads {n : Nat} (hn : nearestDouble n = n) (most : Nat) :
    nearestDouble ((shortestDigits n most).1 * 10 ^ (shortestDigits n most).2) = n := by
  induction most with
  | zero =>
    rw [shortestDigits, Nat.pow_zero, Nat.mul_one]
    exact hn
  | succ most ih =>
    rw [shortestDigits]
    cases hdigits : digitsAt n (most + 1) with
    | some digits => exact digitsAt_reads hdigits
    | none => exact ih

/-! ## Texts -/

theorem isDigit_of_mem_pointed {cs : List Char} (hcs : ∀ c ∈ cs, c.isDigit = true) {c : Char} (hc : c ∈ pointed cs) :
    c.isDigit = true ∨ c = '.' := by
  unfold pointed at hc
  split at hc
  · rename_i d e cs
    rcases List.mem_cons.1 hc with rfl | hc
    · exact Or.inl (hcs _ List.mem_cons_self)
    · rcases List.mem_cons.1 hc with rfl | hc
      · exact Or.inr rfl
      · exact Or.inl (hcs _ (List.mem_cons_of_mem _ hc))
  · exact Or.inl (hcs c hc)

theorem pointed_filter {cs : List Char} (hcs : ∀ c ∈ cs, c.isDigit = true) : (pointed cs).filter Char.isDigit = cs := by
  unfold pointed
  split
  · rename_i c d cs
    have hpoint : Char.isDigit '.' = false := by decide
    rw [List.filter_cons_of_pos (hcs c List.mem_cons_self), List.filter_cons_of_neg (by simp [hpoint]),
      List.filter_eq_self.2 fun e he => hcs e (List.mem_cons_of_mem _ he)]
  · exact List.filter_eq_self.2 hcs

theorem digits_injective {m n : Nat} (h : Nat.toDigits 10 m = Nat.toDigits 10 n) : m = n := by
  rw [← Nat.ofDigitChars_ten_toDigits (n := m), h, Nat.ofDigitChars_ten_toDigits]

/-- A text is the decimal of its digits and zeros, or the digits and an exponent. -/
theorem magnitudeText_cases (n : Nat) : ∃ digits zeros : Nat,
    (nearestDouble n = n → nearestDouble (digits * 10 ^ zeros) = n) ∧
      ((magnitudeText n).toList = Nat.toDigits 10 (digits * 10 ^ zeros) ∨
        (magnitudeText n).toList = pointed (Nat.toDigits 10 digits) ++ 'e' :: '+' ::
          Nat.toDigits 10 ((Nat.toDigits 10 digits).length + zeros - 1)) := by
  refine ⟨(shortestDigits n (Nat.toDigits 10 n).length).1, (shortestDigits n (Nat.toDigits 10 n).length).2,
    fun hn => shortestDigits_reads hn _, ?_⟩
  unfold magnitudeText
  dsimp only
  split
  · exact Or.inl Nat.toList_repr
  · refine Or.inr ?_
    rw [String.toList_append, String.toList_append, String.toList_ofList, Nat.toList_repr, List.append_assoc]
    rfl

theorem e_notMem_digits (n : Nat) : 'e' ∉ Nat.toDigits 10 n := fun h => absurd (isDigit_of_mem_toDigits h) (by decide)

theorem e_notMem_pointed (n : Nat) : 'e' ∉ pointed (Nat.toDigits 10 n) := fun h =>
  (isDigit_of_mem_pointed (fun _ => isDigit_of_mem_toDigits) h).elim (by decide) (by decide)

theorem magnitudeText_injective {m n : Nat} (hm : nearestDouble m = m) (hn : nearestDouble n = n)
    (h : magnitudeText m = magnitudeText n) : m = n := by
  obtain ⟨digits, zeros, hreads, htext⟩ := magnitudeText_cases m
  obtain ⟨digits', zeros', hreads', htext'⟩ := magnitudeText_cases n
  have hsame : (magnitudeText m).toList = (magnitudeText n).toList := by rw [h]
  have hvalue : digits * 10 ^ zeros = digits' * 10 ^ zeros' := by
    rcases htext with htext | htext <;> rcases htext' with htext' | htext' <;> rw [htext, htext'] at hsame
    · exact digits_injective hsame
    · exact absurd (hsame ▸ List.mem_append_right _ List.mem_cons_self) (e_notMem_digits _)
    · exact absurd (hsame ▸ List.mem_append_right _ List.mem_cons_self) (e_notMem_digits _)
    · obtain ⟨hdigits, hexponent⟩ := append_cons_inj (e_notMem_pointed digits) (e_notMem_pointed digits') hsame
      have hfiltered := congrArg (List.filter Char.isDigit) hdigits
      rw [pointed_filter fun _ => isDigit_of_mem_toDigits, pointed_filter fun _ => isDigit_of_mem_toDigits] at hfiltered
      have hlength := digits_injective (List.cons.inj hexponent).2
      have hpos : 0 < (Nat.toDigits 10 digits').length := List.length_pos_of_ne_nil Nat.toDigits_ne_nil
      rw [hfiltered] at hlength
      have hzeros : zeros = zeros' := by omega
      rw [digits_injective hfiltered, hzeros]
  rw [← hreads hm, ← hreads' hn, hvalue]

/-- The characters of a number. -/
def isNumberChar (c : Char) : Bool := c.isDigit || c = '-' || c = '+' || c = '.' || c = 'e'

theorem isNumberChar_of_isDigit {c : Char} (h : c.isDigit = true) : isNumberChar c = true := by
  unfold isNumberChar
  rw [h]
  rfl

theorem isNumberChar_of_mem {n : Nat} {c : Char} (h : c ∈ (magnitudeText n).toList) : isNumberChar c = true := by
  obtain ⟨digits, zeros, -, htext | htext⟩ := magnitudeText_cases n
  · rw [htext] at h
    exact isNumberChar_of_isDigit (isDigit_of_mem_toDigits h)
  · rw [htext, List.mem_append, List.mem_cons, List.mem_cons] at h
    rcases h with h | rfl | rfl | h
    · rcases isDigit_of_mem_pointed (fun _ => isDigit_of_mem_toDigits) h with h | rfl
      · exact isNumberChar_of_isDigit h
      · rfl
    · rfl
    · rfl
    · exact isNumberChar_of_isDigit (isDigit_of_mem_toDigits h)

/-- A text without a sign starts with a digit. -/
theorem magnitudeText_cons (n : Nat) : ∃ c cs, (magnitudeText n).toList = c :: cs ∧ c.isDigit = true := by
  have hdigits : ∀ m, ∃ c cs, Nat.toDigits 10 m = c :: cs ∧ c.isDigit = true := by
    intro m
    obtain ⟨c, cs, hcons⟩ := List.exists_cons_of_ne_nil (@Nat.toDigits_ne_nil m 10)
    exact ⟨c, cs, hcons, isDigit_of_mem_toDigits (hcons ▸ List.mem_cons_self)⟩
  obtain ⟨digits, zeros, -, htext | htext⟩ := magnitudeText_cases n
  · rw [htext]
    exact hdigits _
  · obtain ⟨c, cs, hcons, hc⟩ := hdigits digits
    rw [htext, hcons]
    cases cs with
    | nil => exact ⟨c, _, rfl, hc⟩
    | cons d cs => exact ⟨c, _, rfl, hc⟩

/-- A number, by its sign. -/
theorem numberText_cases (x : IntegralNumber) :
    (0 ≤ x.value ∧ (numberText x).toList = (magnitudeText x.value.natAbs).toList) ∨
      (x.value < 0 ∧ (numberText x).toList = '-' :: (magnitudeText x.value.natAbs).toList) := by
  unfold numberText
  split
  · rename_i hsign
    refine Or.inr ⟨hsign, ?_⟩
    rw [String.toList_append]
    rfl
  · rename_i hsign
    exact Or.inl ⟨not_lt.1 hsign, rfl⟩

theorem numberText_injective : Function.Injective numberText := by
  intro x y h
  have hlists : (numberText x).toList = (numberText y).toList := by rw [h]
  have hsigned : ∀ {n : Nat} {cs : List Char}, (magnitudeText n).toList ≠ '-' :: cs := by
    intro n cs heq
    obtain ⟨c, _, hcons, hc⟩ := magnitudeText_cons n
    rw [hcons] at heq
    rw [(List.cons.inj heq).1] at hc
    exact absurd hc (by decide)
  have hmagnitude : (magnitudeText x.value.natAbs).toList = (magnitudeText y.value.natAbs).toList →
      x.value.natAbs = y.value.natAbs := fun heq =>
    magnitudeText_injective x.isDouble.1 y.isDouble.1 (String.toList_inj.1 heq)
  have hvalue : x.value = y.value := by
    rcases numberText_cases x with ⟨hx, htext⟩ | ⟨hx, htext⟩ <;>
      rcases numberText_cases y with ⟨hy, htext'⟩ | ⟨hy, htext'⟩ <;> rw [htext, htext'] at hlists
    · have := hmagnitude hlists
      omega
    · exact absurd hlists hsigned
    · exact absurd hlists.symm hsigned
    · have := hmagnitude (List.cons.inj hlists).2
      omega
  obtain ⟨_, _⟩ := x
  obtain ⟨_, _⟩ := y
  subst hvalue
  rfl

theorem numberText_chars {x : IntegralNumber} {c : Char} (h : c ∈ (numberText x).toList) : isNumberChar c = true := by
  rcases numberText_cases x with ⟨-, htext⟩ | ⟨-, htext⟩ <;> rw [htext] at h
  · exact isNumberChar_of_mem h
  · rcases List.mem_cons.1 h with rfl | h
    · rfl
    · exact isNumberChar_of_mem h

theorem numberText_cons (x : IntegralNumber) :
    ∃ c cs, (numberText x).toList = c :: cs ∧ (c.isDigit = true ∨ c = '-') := by
  rcases numberText_cases x with ⟨-, htext⟩ | ⟨-, htext⟩ <;> rw [htext]
  · obtain ⟨c, cs, hcons, hc⟩ := magnitudeText_cons x.value.natAbs
    exact ⟨c, cs, hcons, Or.inl hc⟩
  · exact ⟨'-', _, rfl, Or.inr rfl⟩

/-! ## Safe integers -/

theorem nearestDouble_of_lt {n : Nat} (hn : n < 2 ^ 53) : nearestDouble n = n := by
  have hlog : n.log2 - 52 = 0 := by
    rcases Nat.eq_zero_or_pos n with rfl | hpos
    · rfl
    · have := (Nat.log2_lt hpos.ne').2 hn
      omega
  unfold nearestDouble
  rw [hlog]
  simp [Nat.mod_one]

def IntegralNumber.ofSafe (n : Nat) (h : n < 2 ^ 53) : IntegralNumber where
  value := n
  isDouble := by
    have hlt : n < 2 ^ 1024 := h.trans_le (pow_le_pow_right₀ one_le_two (by decide))
    rw [Int.natAbs_natCast]
    exact ⟨nearestDouble_of_lt h, hlt⟩

end IcttSentinel.Lib
