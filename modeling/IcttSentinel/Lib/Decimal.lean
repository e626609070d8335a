/-
Decimal texts of integers: no two integers share one, and none contains a separator, so texts
joined by a separator can be told apart.
-/
import IcttSentinel.Lib.Joined

namespace IcttSentinel.Lib

/-- A separator of decimal texts. -/
def separator : Char := '|'

/-- A character that is no digit is not in the text of a natural number. -/
theorem notMem_repr {c : Char} (hc : c.isDigit = false) (m : Nat) : c ∉ m.repr.toList := by
  intro h
  have hmem : c ∈ Nat.toDigits 10 m := by simpa [Nat.repr] using h
  rw [Nat.isDigit_of_mem_toDigits (by decide) (by decide) hmem] at hc
  cases hc

theorem repr_injective {m n : Nat} (h : m.repr = n.repr) : m = n := by
  have hdigits : Nat.toDigits 10 m = Nat.toDigits 10 n := by
    have hlists := congrArg String.toList h
    simpa [Nat.repr] using hlists
  calc
    m = Nat.ofDigitChars 10 (Nat.toDigits 10 m) 0 := Nat.ofDigitChars_ten_toDigits.symm
    _ = Nat.ofDigitChars 10 (Nat.toDigits 10 n) 0 := by rw [hdigits]
    _ = n := Nat.ofDigitChars_ten_toDigits

/-- The text of a negative number starts with a sign, which no other text contains. -/
theorem decimal_injective {a b : Int} (h : toString a = toString b) : a = b := by
  have hsign : ∀ m n : Nat, m.repr ≠ "-" ++ (n + 1).repr := by
    intro m n h
    refine notMem_repr (c := '-') (by decide) m ?_
    rw [h, String.toList_append]
    exact List.mem_append_left _ (by decide)
  cases a with
  | ofNat m =>
    cases b with
    | ofNat n => exact congrArg Int.ofNat (repr_injective h)
    | negSucc n => exact absurd h (hsign m n)
  | negSucc m =>
    cases b with
    | ofNat n => exact absurd h.symm (hsign n m)
    | negSucc n =>
      have hlists := congrArg String.toList h
      change ("-" ++ (m + 1).repr).toList = ("-" ++ (n + 1).repr).toList at hlists
      rw [String.toList_append, String.toList_append] at hlists
      have hrepr := repr_injective (String.toList_inj.1 (List.append_cancel_left hlists))
      exact congrArg Int.negSucc (by omega)

/-- A decimal text consists of digits behind at most a sign. -/
theorem notMem_decimal {c : Char} (hdigit : c.isDigit = false) (hsign : c ≠ '-') (n : Int) : c ∉ (toString n).toList := by
  have hdigits := notMem_repr hdigit
  cases n with
  | ofNat m => exact hdigits m
  | negSucc m =>
    change c ∉ ("-" ++ (m + 1).repr).toList
    rw [String.toList_append, List.mem_append, not_or]
    exact ⟨fun h => hsign (List.mem_singleton.1 h), hdigits (m + 1)⟩

theorem separator_notMem_decimal (n : Int) : separator ∉ (toString n).toList :=
  notMem_decimal (by decide) (by decide) n

/-- Two integers can be read back from their texts joined behind a common start. -/
theorem joined_inj {start : String} {a b a' b' : Int}
    (h : start ++ toString a ++ "|" ++ toString b = start ++ toString a' ++ "|" ++ toString b') :
    a = a' ∧ b = b' := by
  have hlists := congrArg String.toList h
  simp only [String.toList_append, List.append_assoc] at hlists
  obtain ⟨ha, hb⟩ := append_cons_inj (separator_notMem_decimal a) (separator_notMem_decimal a')
    (List.append_cancel_left hlists)
  exact ⟨decimal_injective (String.toList_inj.1 ha), decimal_injective (String.toList_inj.1 hb)⟩

end IcttSentinel.Lib
