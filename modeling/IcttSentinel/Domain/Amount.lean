/-
Amounts in base units and their texts, packages/domain/src/amount.ts, and the `NUMERIC(78,0)` column they are stored in,
packages/storage-postgres/src/numeric.ts.
-/
import IcttSentinel.Lib.Numerals

namespace IcttSentinel.Domain

open IcttSentinel.Lib

/-- Largest value representable by an EVM uint256. -/
def MAX_UINT256 : Nat := 2 ^ 256 - 1

/-- A token quantity in base units. -/
structure Amount where
  value : Nat
  le : value ≤ MAX_UINT256
  deriving DecidableEq, Repr

/-- Number of decimals a token declares. -/
structure Decimals where
  value : Nat
  le : value ≤ 77
  deriving DecidableEq, Repr

inductive RawAmount where
  | bigint (v : Int)
  | string (s : String)
  deriving DecidableEq, Repr

/-- The text of an amount in base units. -/
def RawAmount.text : RawAmount → String
  | .bigint v => toString v
  | .string s => s

def amountOf (v : Int) : Except String Amount :=
  if v < 0 then .error ("Amount: must be non-negative, got " ++ toString v)
  else if h : v.toNat ≤ MAX_UINT256 then .ok ⟨v.toNat, h⟩
  else .error "Amount: exceeds uint256 maximum"

def parseAmount : RawAmount → Except String Amount
  | .bigint v => amountOf v
  | .string s =>
    if isNumeral s.toList then amountOf (valueOf s.toList)
    else .error ("Amount: expected canonical base-unit decimal string, got " ++ Json.quote s)

/-! ## Texts at a scale -/

/-- A whole part and the fraction behind its point, if there is one. -/
def joinPoint (whole frac : List Char) : List Char := if frac.length > 0 then whole ++ '.' :: frac else whole

/-- What stands before the first point of a text, and what stands after it. -/
def splitPoint (s : String) : List Char × List Char :=
  (s.toList.takeWhile (· ≠ '.'), (s.toList.dropWhile (· ≠ '.')).drop 1)

/-- A number of base units at a scale. -/
def decimalString (v d : Nat) : String :=
  if d = 0 then toString v
  else
    let s := padStart (d + 1) (toString v).toList
    let whole := s.take (s.length - d)
    let frac := trimZeros (s.drop (s.length - d))
    String.ofList (joinPoint whole frac)

def amountToDecimalString (a : Amount) (decimals : Decimals) : String := decimalString a.value decimals.value

/-- `/^(0|[1-9][0-9]*)(\.[0-9]+)?$/`. -/
def isDecimalString (s : String) : Bool :=
  isNumeral (s.toList.takeWhile (· ≠ '.')) &&
    match s.toList.dropWhile (· ≠ '.') with
    | [] => true
    | _ :: frac => !frac.isEmpty && frac.all Char.isDigit

def parseAmountAtScale (raw : String) (decimals : Decimals) : Except String Amount :=
  if !isDecimalString raw then .error ("Amount: not a canonical decimal string: " ++ Json.quote raw)
  else
    let (whole, frac) := splitPoint raw
    if frac.length > decimals.value then
      .error ("Amount: " ++ toString frac.length ++ " fractional digits exceed the token scale of " ++
        toString decimals.value)
    else parseAmount (.bigint (valueOf (whole ++ padEnd decimals.value frac)))

/-- The text without the zeros at the end of its fraction. -/
def canonicalForm (s : String) : String := String.ofList (joinPoint (splitPoint s).1 (trimZeros (splitPoint s).2))

theorem amountOf_eq_ok {v : Int} {a : Amount} : amountOf v = .ok a ↔ v = a.value := by
  unfold amountOf
  constructor
  · intro h
    split at h
    · cases h
    · split at h
      · have ha : v.toNat = a.value := congrArg Amount.value (Except.ok.inj h)
        omega
      · cases h
  · rintro rfl
    rw [if_neg (by omega), dif_pos (by simpa using a.le)]
    simp

theorem toList_toString_nat (n : Nat) : (toString n).toList = Nat.toDigits 10 n := Nat.toList_repr

/-- The text of a number is that of its quotient, and the digits of its remainder behind the point. -/
theorem decimalString_eq (v d : Nat) :
    decimalString v d = String.ofList (joinPoint (Nat.toDigits 10 (v / 10 ^ d)) (trimZeros (lowDigits d v))) := by
  unfold decimalString
  split
  next hd =>
    subst hd
    rw [Nat.pow_zero, Nat.div_one, ← String.toList_inj, toList_toString_nat]
    simp [lowDigits, trimZeros, joinPoint]
  next hd =>
    have hpad := padStart_toDigits d v
    have hlength : (Nat.toDigits 10 (v / 10 ^ d) ++ lowDigits d v).length - d = (Nat.toDigits 10 (v / 10 ^ d)).length := by
      rw [List.length_append, length_lowDigits, Nat.add_sub_cancel]
    simp only [toList_toString_nat, hpad, hlength, List.take_left, List.drop_left]

/-- A text of digits and a fraction is parted at its point. -/
theorem parted_joinPoint {whole frac : List Char} (hwhole : ∀ c ∈ whole, c.isDigit = true) :
    (joinPoint whole frac).takeWhile (· ≠ '.') = whole ∧
      (joinPoint whole frac).dropWhile (· ≠ '.') = if frac.length > 0 then '.' :: frac else [] := by
  have hpoint : ∀ c ∈ whole, decide (c ≠ '.') = true := by
    intro c hc
    rw [decide_eq_true_eq]
    rintro rfl
    exact absurd (hwhole _ hc) (by decide)
  unfold joinPoint
  split
  next => exact ⟨by rw [List.takeWhile_append_of_pos hpoint]; simp, by rw [List.dropWhile_append_of_pos hpoint]; simp⟩
  next => exact ⟨List.takeWhile_eq_self_iff.2 hpoint, List.dropWhile_eq_nil_iff.2 hpoint⟩

/-- A text is split where it was joined. -/
theorem splitPoint_joinPoint {whole frac : List Char} (hwhole : ∀ c ∈ whole, c.isDigit = true) :
    splitPoint (String.ofList (joinPoint whole frac)) = (whole, frac) := by
  obtain ⟨htake, hdrop⟩ := @parted_joinPoint whole frac hwhole
  unfold splitPoint
  rw [String.toList_ofList, htake, hdrop]
  split
  next => rfl
  next hnil =>
    rw [List.length_eq_zero_iff.1 (Nat.le_zero.1 (Nat.not_lt.1 hnil))]
    rfl

theorem isDecimalString_joinPoint {whole frac : List Char} (hwhole : isNumeral whole = true)
    (hfrac : ∀ c ∈ frac, c.isDigit = true) : isDecimalString (String.ofList (joinPoint whole frac)) = true := by
  obtain ⟨htake, hdrop⟩ := @parted_joinPoint whole frac (isDigit_of_isNumeral hwhole)
  unfold isDecimalString
  rw [String.toList_ofList, htake, hdrop, hwhole, Bool.true_and]
  cases frac with
  | nil => rfl
  | cons c frac => simpa using hfrac

/-- A text that is accepted is a numeral, or one with digits behind its point. -/
theorem joinPoint_of_isDecimalString {s : String} (h : isDecimalString s = true) :
    isNumeral (splitPoint s).1 = true ∧ (∀ c ∈ (splitPoint s).2, c.isDigit = true) ∧
      s = String.ofList (joinPoint (splitPoint s).1 (splitPoint s).2) := by
  unfold isDecimalString at h
  rw [Bool.and_eq_true] at h
  refine ⟨h.1, ?_⟩
  have hparts : s.toList.takeWhile (· ≠ '.') ++ s.toList.dropWhile (· ≠ '.') = s.toList :=
    List.takeWhile_append_dropWhile
  unfold splitPoint
  cases hrest : s.toList.dropWhile (· ≠ '.') with
  | nil =>
    rw [hrest, List.append_nil] at hparts
    refine ⟨by simp, ?_⟩
    rw [← String.toList_inj, String.toList_ofList]
    exact hparts.symm
  | cons c frac =>
    obtain rfl : c = '.' := by
      have hhead := List.head?_dropWhile_not (fun c => decide (c ≠ '.')) s.toList
      rw [hrest] at hhead
      simpa using hhead
    rw [hrest, Bool.and_eq_true] at h
    refine ⟨by simpa using h.2.2, ?_⟩
    have hpos : 0 < frac.length := by
      cases frac with
      | nil => exact absurd h.2.1 (by decide)
      | cons d frac => exact Nat.succ_pos _
    rw [← String.toList_inj, String.toList_ofList, joinPoint, List.drop_one, List.tail_cons, if_pos hpos, ← hrest]
    exact hparts.symm

/-- What is accepted: a numeral and at most as many digits as the scale, and their value is that of the amount. -/
theorem parseAmountAtScale_eq_ok {s : String} {d : Decimals} {a : Amount} :
    parseAmountAtScale s d = .ok a ↔ ∃ whole frac, s = String.ofList (joinPoint whole frac) ∧ isNumeral whole = true ∧
      (∀ c ∈ frac, c.isDigit = true) ∧ frac.length ≤ d.value ∧ valueOf (whole ++ padEnd d.value frac) = a.value := by
  have hparse : ∀ v : Nat, parseAmount (.bigint v) = .ok a ↔ v = a.value := fun v => by
    rw [parseAmount, amountOf_eq_ok]
    exact Int.ofNat_inj
  unfold parseAmountAtScale
  constructor
  · intro h
    split at h
    · cases h
    · rename_i hform
      obtain ⟨hwhole, hfrac, hs⟩ := joinPoint_of_isDecimalString (by simpa using hform)
      dsimp only at h
      split at h
      · cases h
      · rename_i hlength
        exact ⟨(splitPoint s).1, (splitPoint s).2, hs, hwhole, hfrac, Nat.not_lt.1 hlength, (hparse _).1 h⟩
  · rintro ⟨whole, frac, rfl, hwhole, hfrac, hlength, hvalue⟩
    rw [isDecimalString_joinPoint hwhole hfrac, splitPoint_joinPoint (isDigit_of_isNumeral hwhole)]
    dsimp only
    rw [if_neg (by simp), if_neg (Nat.not_lt.2 hlength)]
    exact (hparse _).2 hvalue

/-- The rendering is read back. -/
theorem parseAmountAtScale_amountToDecimalString (a : Amount) (d : Decimals) :
    parseAmountAtScale (amountToDecimalString a d) d = .ok a := by
  rw [parseAmountAtScale_eq_ok]
  refine ⟨_, _, decimalString_eq _ _, isNumeral_toDigits _, fun c hc => ?_, ?_, ?_⟩
  · exact isDigit_of_mem_lowDigits ((trimZeros_sublist _).mem hc)
  · exact (trimZeros_sublist _).length_le.trans_eq (length_lowDigits _ _)
  · have hpad := padEnd_trimZeros (lowDigits d.value a.value)
    rw [length_lowDigits] at hpad
    rw [hpad, valueOf_append, length_lowDigits, valueOf_toDigits, valueOf_lowDigits]
    exact Nat.div_add_mod _ _

/-- Every text of an amount is its rendering, but for zeros at the end of the fraction. -/
theorem canonicalForm_of_parse {s : String} {d : Decimals} {a : Amount} (h : parseAmountAtScale s d = .ok a) :
    canonicalForm s = amountToDecimalString a d := by
  obtain ⟨whole, frac, rfl, hwhole, hfrac, hlength, hvalue⟩ := parseAmountAtScale_eq_ok.1 h
  have hwidth : (padEnd d.value frac).length = d.value := by
    rw [padEnd, List.length_append, List.length_replicate]
    omega
  have hdigits : ∀ c ∈ padEnd d.value frac, c.isDigit = true := by
    intro c hc
    rcases List.mem_append.1 hc with hc | hc
    · exact hfrac c hc
    · rw [List.eq_of_mem_replicate hc]
      rfl
  have hlow := lowDigits_valueOf hdigits (valueOf whole)
  have hsmall := valueOf_lt hdigits
  rw [valueOf_append, hwidth] at hvalue
  rw [hwidth] at hsmall
  rw [hwidth, hvalue] at hlow
  have hquotient : a.value / 10 ^ d.value = valueOf whole := by
    rw [← hvalue, Nat.mul_add_div (Nat.pow_pos (by decide)), Nat.div_eq_of_lt hsmall, Nat.add_zero]
  rw [canonicalForm, splitPoint_joinPoint (isDigit_of_isNumeral hwhole), amountToDecimalString, decimalString_eq, hquotient,
    toDigits_valueOf hwhole, hlow, trimZeros_padEnd]

/-! ## The column -/

/-- What a driver hands over for a column. -/
inductive ColumnValue where
  | bigint (v : Int)
  | string (s : String)
  | other (typeName : String)
  deriving DecidableEq, Repr

def amountToColumn (a : Amount) : String := toString a.value

/-- `/^(0|[1-9][0-9]{0,77})$/`. -/
def isNumeric78 (s : String) : Bool := isNumeral s.toList && s.length ≤ 78

def columnToAmount : ColumnValue → Except String Amount
  | .bigint v => parseAmount (.bigint v)
  | .other typeName => .error ("NUMERIC column: expected a string from the driver, got " ++ typeName)
  | .string s =>
    if !isNumeric78 s then .error ("NUMERIC column: not a canonical 78-digit integer: " ++ Json.quote s)
    else parseAmount (.string s)

theorem columnToAmount_amountToColumn (a : Amount) : columnToAmount (.string (amountToColumn a)) = .ok a := by
  have hform : isNumeral (toString a.value).toList = true := by
    rw [toList_toString_nat]
    exact isNumeral_toDigits _
  have hlength : (toString a.value).length ≤ 78 := by
    have hbound : a.value < 10 ^ 78 := lt_of_le_of_lt a.le (by norm_num [MAX_UINT256])
    rw [← String.length_toList, toList_toString_nat]
    exact (Nat.length_toDigits_le_iff (by decide) (by decide)).2 hbound
  rw [amountToColumn, columnToAmount, isNumeric78, hform, decide_eq_true hlength]
  rw [if_neg (by decide), parseAmount, if_pos hform, toList_toString_nat, valueOf_toDigits]
  exact amountOf_eq_ok.2 rfl

end IcttSentinel.Domain
