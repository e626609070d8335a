/-
Reading JSON texts back. The reader is a recursive descent over the characters with the length of the text as its
fuel; it gives every value back from the text `Json.stringify` writes for it, so that no two values share a text.
-/
import IcttSentinel.Lib.Decimal
import IcttSentinel.Lib.Json

namespace IcttSentinel.Lib.Json

/-! ## The reader -/

def isSpace (c : Char) : Bool := c = ' ' || c = '\t' || c = '\n' || c = '\r'

def skipSpaces (cs : List Char) : List Char := cs.dropWhile isSpace

def hexDigit (c : Char) : Option Nat :=
  if '0' ≤ c ∧ c ≤ '9' then some (c.toNat - 48)
  else if 'a' ≤ c ∧ c ≤ 'f' then some (c.toNat - 87)
  else if 'A' ≤ c ∧ c ≤ 'F' then some (c.toNat - 55)
  else none

/-- The character of an escaped code unit. A surrogate has none. -/
def unescapeUnit (a b c d : Char) : Option Char := do
  let unit := ((← hexDigit a) * 16 + (← hexDigit b)) * 256 + ((← hexDigit c) * 16 + (← hexDigit d))
  if unit < 0xD800 ∨ 0xDFFF < unit then some (Char.ofNat unit) else none

/-- The character of a short escape. -/
def unescape : Char → Option Char
  | '"' => some '"'
  | '\\' => some '\\'
  | '/' => some '/'
  | 'b' => some (Char.ofNat 8)
  | 'f' => some (Char.ofNat 12)
  | 'n' => some '\n'
  | 'r' => some '\r'
  | 't' => some '\t'
  | _ => none

/-- The characters up to the closing quote, and what follows it. -/
def readString : List Char → Option (List Char × List Char)
  | '"' :: rest => some ([], rest)
  | '\\' :: 'u' :: a :: b :: c :: d :: rest =>
    match unescapeUnit a b c d, readString rest with
    | some char, some (chars, rest) => some (char :: chars, rest)
    | _, _ => none
  | '\\' :: c :: rest =>
    match unescape c, readString rest with
    | some char, some (chars, rest) => some (char :: chars, rest)
    | _, _ => none
  | c :: rest =>
    if c.toNat < 32 then none
    else match readString rest with
      | some (chars, rest) => some (c :: chars, rest)
      | none => none
  | [] => none

/-- The digits a text starts with; no number has a leading zero. -/
def readNat (cs : List Char) : Option (Nat × List Char) :=
  match cs.takeWhile Char.isDigit with
  | [] => none
  | '0' :: _ :: _ => none
  | digits => some (Nat.ofDigitChars 10 digits 0, cs.dropWhile Char.isDigit)

def readNumber : List Char → Option (Int × List Char)
  | '-' :: rest => (readNat rest).map fun r => (-(r.1 : Int), r.2)
  | cs => (readNat cs).map fun r => ((r.1 : Int), r.2)

mutual

def readValue : Nat → List Char → Option (Json × List Char)
  | 0, _ => none
  | fuel + 1, cs =>
    match skipSpaces cs with
    | 'n' :: 'u' :: 'l' :: 'l' :: rest => some (.null, rest)
    | 't' :: 'r' :: 'u' :: 'e' :: rest => some (.bool true, rest)
    | 'f' :: 'a' :: 'l' :: 's' :: 'e' :: rest => some (.bool false, rest)
    | '"' :: rest => (readString rest).map fun r => (.str (String.ofList r.1), r.2)
    | '[' :: rest =>
      match skipSpaces rest with
      | ']' :: rest => some (.arr [], rest)
      | rest => (readElements fuel rest).map fun r => (.arr r.1, r.2)
    | '\x7b' :: rest =>
      match skipSpaces rest with
      | '\x7d' :: rest => some (.obj [], rest)
      | rest => (readFields fuel rest).map fun r => (.obj r.1, r.2)
    | rest => (readNumber rest).map fun r => (.num r.1, r.2)

def readElements : Nat → List Char → Option (List Json × List Char)
  | 0, _ => none
  | fuel + 1, cs =>
    match readValue fuel cs with
    | none => none
    | some (j, rest) =>
      match skipSpaces rest with
      | ',' :: rest => (readElements fuel rest).map fun r => (j :: r.1, r.2)
      | ']' :: rest => some ([j], rest)
      | _ => none

def readFields : Nat → List Char → Option (List (String × Json) × List Char)
  | 0, _ => none
  | fuel + 1, cs =>
    match skipSpaces cs with
    | '"' :: rest =>
      match readString rest with
      | none => none
      | some (name, rest) =>
        match skipSpaces rest with
        | ':' :: rest =>
          match readValue fuel rest with
          | none => none
          | some (j, rest) =>
            match skipSpaces rest with
            | ',' :: rest => (readFields fuel rest).map fun r => ((String.ofList name, j) :: r.1, r.2)
            | '\x7d' :: rest => some ([(String.ofList name, j)], rest)
            | _ => none
        | _ => none
    | _ => none

end

/-- The value a text stands for, where it stands for one. -/
def parse (s : String) : Option Json :=
  match readValue (s.toList.length + 1) s.toList with
  | some (j, rest) => if skipSpaces rest = [] then some j else none
  | none => none

example : (parse " [1, -20]").map stringify = some "[1,-20]" := by decide +kernel

/-! ## Strings -/

/-- Every control character is written as an escape of its code. -/
theorem unescapeUnit_hex4 : ∀ n : Fin 32, ∃ a b c d,
    (hex4 n).toList = [a, b, c, d] ∧ unescapeUnit a b c d = some (Char.ofNat n) := by
  have key : ∀ n : Fin 32, (hex4 n).toList = ['0', '0', Nat.digitChar (n / 16), Nat.digitChar (n % 16)] ∧
      unescapeUnit '0' '0' (Nat.digitChar (n / 16)) (Nat.digitChar (n % 16)) = some (Char.ofNat n) := by
    decide +kernel
  exact fun n => ⟨_, _, _, _, key n⟩

/-- Reading takes back what the escape of a character wrote. -/
theorem readString_escape (c : Char) (tail : List Char) :
    readString ((escape c).toList ++ tail) = (readString tail).map fun r => (c :: r.1, r.2) := by
  -- the seven escapes of two characters are read back by one rule
  have hshort : ∀ e char : Char, e ≠ 'u' → unescape e = some char →
      readString ('\\' :: e :: tail) = (readString tail).map fun r => (char :: r.1, r.2) := by
    intro e char he hchar
    rw [readString.eq_3 _ _ (by rintro _ _ _ _ _ rfl; exact absurd rfl he), hchar]
    cases readString tail <;> rfl
  unfold escape
  split
  · rename_i hquote
    subst hquote
    exact hshort '"' '"' (by decide) rfl
  rename_i hquote
  split
  · rename_i hslash
    subst hslash
    exact hshort '\\' '\\' (by decide) rfl
  rename_i hslash
  split
  · rename_i hback
    have hc : c = Char.ofNat 8 := Char.toNat_inj.1 (by rw [hback]; rfl)
    subst hc
    exact hshort 'b' _ (by decide) rfl
  split
  · rename_i hform
    have hc : c = Char.ofNat 12 := Char.toNat_inj.1 (by rw [hform]; rfl)
    subst hc
    exact hshort 'f' _ (by decide) rfl
  split
  · rename_i hline
    subst hline
    exact hshort 'n' '\n' (by decide) rfl
  split
  · rename_i hreturn
    subst hreturn
    exact hshort 'r' '\r' (by decide) rfl
  split
  · rename_i htab
    subst htab
    exact hshort 't' '\t' (by decide) rfl
  split
  · rename_i hcontrol
    -- any other control character is written as four hex digits
    obtain ⟨a, b, d, e, hhex, hunit⟩ := unescapeUnit_hex4 ⟨c.toNat, hcontrol⟩
    have hchar : Char.ofNat c.toNat = c := Char.ofNat_toNat c
    simp only [String.toList_append, hhex] at hunit ⊢
    rw [hchar] at hunit
    show readString ('\\' :: 'u' :: a :: b :: d :: e :: tail) = _
    rw [readString, hunit]
    cases readString tail <;> rfl
  rename_i hcontrol
  rw [Char.toString_eq_singleton, String.toList_singleton, List.singleton_append,
    readString.eq_4 _ _ (by rintro rfl; exact absurd rfl hquote) (by rintro _ _ _ _ _ rfl; exact absurd rfl hslash)
      (by rintro _ _ rfl; exact absurd rfl hslash),
    if_neg hcontrol]
  cases readString tail <;> rfl

theorem readString_quoted (s : List Char) (rest : List Char) :
    readString (s.flatMap (fun c => (escape c).toList) ++ '"' :: rest) = some (s, rest) := by
  induction s with
  | nil => rfl
  | cons c s ih =>
    rw [List.flatMap_cons, List.append_assoc, readString_escape, ih]
    rfl

theorem toList_quote (s : String) :
    (quote s).toList = '"' :: (s.toList.flatMap (fun c => (escape c).toList) ++ ['"']) := by
  have hjoin : ∀ l : List String, (String.join l).toList = l.flatMap String.toList := by
    intro l
    induction l with
    | nil => rfl
    | cons a l ih => rw [String.join_cons, String.toList_append, ih, List.flatMap_cons]
  rw [quote, String.toList_append, String.toList_append, hjoin, List.flatMap_map]
  rfl

/-! ## Numbers -/

/-- A number ends where its text does. -/
def Ends (rest : List Char) : Prop := ∀ c ∈ rest.head?, c.isDigit = false

theorem takeWhile_digits {digits rest : List Char} (hdigits : ∀ c ∈ digits, c.isDigit = true) (hrest : Ends rest) :
    (digits ++ rest).takeWhile Char.isDigit = digits ∧ (digits ++ rest).dropWhile Char.isDigit = rest := by
  have hnone : rest.takeWhile Char.isDigit = [] ∧ rest.dropWhile Char.isDigit = rest := by
    cases rest with
    | nil => exact ⟨rfl, rfl⟩
    | cons c rest =>
      have hc := hrest c rfl
      exact ⟨List.takeWhile_cons_of_neg (by simp [hc]), List.dropWhile_cons_of_neg (by simp [hc])⟩
  exact ⟨by rw [List.takeWhile_append_of_pos hdigits, hnone.1, List.append_nil],
    by rw [List.dropWhile_append_of_pos hdigits, hnone.2]⟩

/-- The digits of a positive number do not start with a zero. -/
theorem head?_toDigits {n : Nat} (hn : 0 < n) : (Nat.toDigits 10 n).head? ≠ some '0' := by
  induction n using Nat.strong_induction_on with
  | _ n ih =>
    rw [Nat.toDigits_eq_if (by decide)]
    split
    · have hdigit : ∀ d : Fin 10, d ≠ 0 → Nat.digitChar d ≠ '0' := by decide
      have hne := hdigit ⟨n, by assumption⟩ (Fin.ne_of_val_ne hn.ne')
      rw [List.head?_cons, ne_eq, Option.some_inj]
      exact hne
    · rw [List.head?_append_of_ne_nil _ Nat.toDigits_ne_nil]
      exact ih (n / 10) (by omega) (by omega)

theorem toDigits_ne_zero_cons (n : Nat) (c : Char) (cs : List Char) : Nat.toDigits 10 n ≠ '0' :: c :: cs := by
  intro h
  rcases Nat.eq_zero_or_pos n with rfl | hn
  · rw [Nat.toDigits_zero] at h
    cases h
  · apply head?_toDigits hn
    rw [h]
    rfl

theorem readNat_repr (n : Nat) {rest : List Char} (hrest : Ends rest) :
    readNat (Nat.toDigits 10 n ++ rest) = some (n, rest) := by
  have hdigits : ∀ c ∈ Nat.toDigits 10 n, c.isDigit = true :=
    fun c hc => Nat.isDigit_of_mem_toDigits (by decide) (by decide) hc
  obtain ⟨htake, hdrop⟩ := takeWhile_digits hdigits hrest
  rw [readNat, htake, hdrop]
  split
  · rename_i hnil
    exact absurd hnil Nat.toDigits_ne_nil
  · rename_i hzero
    exact absurd hzero (toDigits_ne_zero_cons n _ _)
  · rw [Nat.ofDigitChars_ten_toDigits]

/-- The text of an integer, by its sign. -/
theorem toList_toString : ∀ n : Int,
    (toString n).toList = Nat.toDigits 10 n.natAbs ∧ 0 ≤ n ∨ (toString n).toList = '-' :: Nat.toDigits 10 n.natAbs ∧ n < 0
  | .ofNat m => Or.inl ⟨Nat.toList_repr, Int.natCast_nonneg m⟩
  | .negSucc m => by
    refine Or.inr ⟨?_, Int.negSucc_lt_zero m⟩
    show ("-" ++ (m + 1).repr).toList = _
    rw [String.toList_append, Nat.toList_repr]
    rfl

theorem readNumber_toString (n : Int) {rest : List Char} (hrest : Ends rest) :
    readNumber ((toString n).toList ++ rest) = some (n, rest) := by
  have hread := readNat_repr n.natAbs hrest
  rcases toList_toString n with ⟨htext, hsign⟩ | ⟨htext, hsign⟩
  · rw [htext, readNumber]
    · rw [hread]
      simp [abs_of_nonneg hsign]
    · -- a digit is no sign
      intro tail htail
      obtain ⟨c, cs, hcons⟩ := List.exists_cons_of_ne_nil (Nat.toDigits_ne_nil (n := n.natAbs) (b := 10))
      have hdigit : c.isDigit = true :=
        Nat.isDigit_of_mem_toDigits (by decide) (by decide) (hcons ▸ List.mem_cons_self)
      rw [hcons, List.cons_append, List.cons.injEq] at htail
      rw [htail.1] at hdigit
      cases hdigit
  · rw [htext, List.cons_append, readNumber, hread]
    simp [abs_of_neg hsign]

/-! ## Values -/

/-- The text between the brackets of an array. -/
def elementsText (js : List Json) : List Char := (",".intercalate (stringifyElements js)).toList

/-- The text between the braces of an object. -/
def fieldsText (fields : List (String × Json)) : List Char := (",".intercalate (stringifyFields fields)).toList

theorem elementsText_singleton (j : Json) : elementsText [j] = (stringify j).toList := by
  rw [elementsText, stringifyElements, stringifyElements, String.intercalate_singleton]

theorem elementsText_cons_cons (j k : Json) (js : List Json) :
    elementsText (j :: k :: js) = (stringify j).toList ++ ',' :: elementsText (k :: js) := by
  rw [elementsText, stringifyElements, stringifyElements, String.intercalate_cons_cons, String.toList_append,
    String.toList_append, List.append_assoc]
  rfl

theorem toList_arr (js : List Json) : (stringify (.arr js)).toList = '[' :: (elementsText js ++ [']']) := by
  rw [stringify, String.toList_append, String.toList_append]
  rfl

theorem fieldsText_singleton (name : String) (j : Json) :
    fieldsText [(name, j)] = (quote name).toList ++ ':' :: (stringify j).toList := by
  rw [fieldsText, stringifyFields, stringifyFields, String.intercalate_singleton, String.toList_append,
    String.toList_append, List.append_assoc]
  rfl

theorem fieldsText_cons_cons (name : String) (j : Json) (field : String × Json) (fields : List (String × Json)) :
    fieldsText ((name, j) :: field :: fields) =
      (quote name).toList ++ ':' :: ((stringify j).toList ++ ',' :: fieldsText (field :: fields)) := by
  rw [fieldsText, stringifyFields, stringifyFields, String.intercalate_cons_cons, String.toList_append,
    String.toList_append, String.toList_append, String.toList_append, List.append_assoc, List.append_assoc,
    List.append_assoc]
  rfl

theorem toList_obj (fields : List (String × Json)) :
    (stringify (.obj fields)).toList = '\x7b' :: (fieldsText fields ++ ['\x7d']) := by
  rw [stringify, String.toList_append, String.toList_append]
  rfl

@[simp] theorem skipSpaces_cons {c : Char} {cs : List Char} (h : isSpace c = false) : skipSpaces (c :: cs) = c :: cs :=
  List.dropWhile_cons_of_neg (by simp [h])

theorem digit_or_sign {c : Char} (h : c.isDigit = true ∨ c = '-') : isSpace c = false ∧ c ≠ ']' ∧ c ≠ '"' ∧ c ≠ '[' ∧
    c ≠ '\x7b' ∧ c ≠ 'n' ∧ c ≠ 't' ∧ c ≠ 'f' := by
  rcases h with h | rfl
  · have hspace : isSpace c = false := by
      by_contra hspace
      simp only [isSpace, Bool.not_eq_false, Bool.or_eq_true, decide_eq_true_eq] at hspace
      rcases hspace with ((rfl | rfl) | rfl) | rfl <;> cases h
    refine ⟨hspace, ?_, ?_, ?_, ?_, ?_, ?_, ?_⟩ <;> (rintro rfl; cases h)
  · decide

/-- What a number starts with. -/
theorem toList_toString_cons (n : Int) : ∃ c cs, (toString n).toList = c :: cs ∧ (c.isDigit = true ∨ c = '-') := by
  rcases toList_toString n with ⟨htext, -⟩ | ⟨htext, -⟩
  · obtain ⟨c, cs, hcons⟩ := List.exists_cons_of_ne_nil (Nat.toDigits_ne_nil (n := n.natAbs) (b := 10))
    refine ⟨c, cs, htext.trans hcons, Or.inl ?_⟩
    exact Nat.isDigit_of_mem_toDigits (by decide) (by decide) (hcons ▸ List.mem_cons_self)
  · exact ⟨_, _, htext, Or.inr rfl⟩

/-- No value starts with a space or with the end of an array. -/
theorem toList_stringify_cons (j : Json) : ∃ c cs, (stringify j).toList = c :: cs ∧ isSpace c = false ∧ c ≠ ']' := by
  cases j with
  | null => exact ⟨'n', ['u', 'l', 'l'], rfl, by decide⟩
  | bool b =>
    cases b with
    | false => exact ⟨'f', ['a', 'l', 's', 'e'], rfl, by decide⟩
    | true => exact ⟨'t', ['r', 'u', 'e'], rfl, by decide⟩
  | num n =>
    obtain ⟨c, cs, htext, hc⟩ := toList_toString_cons n
    rw [stringify]
    exact ⟨c, cs, htext, (digit_or_sign hc).1, (digit_or_sign hc).2.1⟩
  | str s =>
    rw [stringify, toList_quote]
    exact ⟨_, _, rfl, by decide⟩
  | arr js =>
    rw [toList_arr]
    exact ⟨_, _, rfl, by decide⟩
  | obj fields =>
    rw [toList_obj]
    exact ⟨_, _, rfl, by decide⟩

theorem readValue_number {fuel : Nat} {c : Char} {cs : List Char} (hc : c.isDigit = true ∨ c = '-') :
    readValue (fuel + 1) (c :: cs) = (readNumber (c :: cs)).map fun r => (.num r.1, r.2) := by
  obtain ⟨hspace, -, hquote, hbracket, hbrace, hn, ht, hf⟩ := digit_or_sign hc
  rw [readValue, skipSpaces_cons hspace]
  split
  · exact absurd (List.cons.inj ‹_›).1 hn
  · exact absurd (List.cons.inj ‹_›).1 ht
  · exact absurd (List.cons.inj ‹_›).1 hf
  · exact absurd (List.cons.inj ‹_›).1 hquote
  · exact absurd (List.cons.inj ‹_›).1 hbracket
  · exact absurd (List.cons.inj ‹_›).1 hbrace
  · rfl

theorem ends_cons {c : Char} {rest : List Char} (hc : c.isDigit = false) : Ends (c :: rest) := by
  intro d hd
  rw [List.head?_cons, Option.mem_some_iff] at hd
  rw [← hd]
  exact hc

/-- An array whose bracket is not followed by the other one has elements. -/
theorem readValue_bracket {fuel : Nat} {c : Char} {cs : List Char} (hspace : isSpace c = false) (hbracket : c ≠ ']') :
    readValue (fuel + 1) ('[' :: c :: cs) = (readElements fuel (c :: cs)).map fun r => (.arr r.1, r.2) := by
  rw [readValue, skipSpaces_cons (by decide)]
  show (match skipSpaces (c :: cs) with
    | ']' :: rest => some (Json.arr [], rest)
    | rest => (readElements fuel rest).map fun r : List Json × List Char => (Json.arr r.1, r.2)) = _
  rw [skipSpaces_cons hspace]
  split
  · exact absurd (List.cons.inj ‹_›).1 hbracket
  · rfl

theorem readValue_arr {fuel : Nat} {js : List Json} (hne : js ≠ []) (rest : List Char) :
    readValue (fuel + 1) ('[' :: (elementsText js ++ rest)) =
      (readElements fuel (elementsText js ++ rest)).map fun r => (.arr r.1, r.2) := by
  have hhead : ∃ c cs, elementsText js = c :: cs ∧ isSpace c = false ∧ c ≠ ']' := by
    match js, hne with
    | [j], _ =>
      rw [elementsText_singleton]
      exact toList_stringify_cons j
    | j :: k :: js, _ =>
      obtain ⟨c, cs, htext, hc⟩ := toList_stringify_cons j
      rw [elementsText_cons_cons, htext]
      exact ⟨c, _, rfl, hc⟩
  obtain ⟨c, cs, htext, hspace, hbracket⟩ := hhead
  rw [htext, List.cons_append, readValue_bracket hspace hbracket]

theorem fieldsText_cons (field : String × Json) (fields : List (String × Json)) :
    ∃ cs, fieldsText (field :: fields) = '"' :: cs := by
  cases fields with
  | nil =>
    rw [fieldsText_singleton, toList_quote]
    exact ⟨_, rfl⟩
  | cons next fields =>
    rw [fieldsText_cons_cons, toList_quote]
    exact ⟨_, rfl⟩

theorem readValue_obj {fuel : Nat} {fields : List (String × Json)} (hne : fields ≠ []) (rest : List Char) :
    readValue (fuel + 1) ('\x7b' :: (fieldsText fields ++ rest)) =
      (readFields fuel (fieldsText fields ++ rest)).map fun r => (.obj r.1, r.2) := by
  obtain ⟨field, fields, rfl⟩ := List.exists_cons_of_ne_nil hne
  obtain ⟨cs, htext⟩ := fieldsText_cons field fields
  rw [htext]
  rfl

/-- A field is read up to its value. -/
theorem readFields_name {fuel : Nat} (name : String) (tail : List Char) :
    readFields (fuel + 1) ((quote name).toList ++ ':' :: tail) =
      match readValue fuel tail with
      | none => none
      | some (j, rest) =>
        match skipSpaces rest with
        | ',' :: rest => (readFields fuel rest).map fun r => ((name, j) :: r.1, r.2)
        | '\x7d' :: rest => some ([(name, j)], rest)
        | _ => none := by
  rw [toList_quote, List.cons_append, List.append_assoc, readFields, skipSpaces_cons (by decide)]
  show (match readString (name.toList.flatMap (fun c => (escape c).toList) ++ '"' :: ':' :: tail) with
    | none => none
    | some (name, rest) => _) = _
  rw [readString_quoted]
  show (match readValue fuel tail with
    | none => none
    | some (j, rest) =>
      match skipSpaces rest with
      | ',' :: rest => (readFields fuel rest).map fun r : List (String × Json) × List Char =>
        ((String.ofList name.toList, j) :: r.1, r.2)
      | '\x7d' :: rest => some ([(String.ofList name.toList, j)], rest)
      | _ => none) = _
  rw [String.ofList_toList]

/-- With this fuel, what is written for a value is read as the value. -/
def ReadsValues (fuel : Nat) : Prop := ∀ (j : Json) (rest : List Char), (stringify j).toList.length < fuel →
  Ends rest → readValue fuel ((stringify j).toList ++ rest) = some (j, rest)

def ReadsElements (fuel : Nat) : Prop := ∀ (js : List Json) (rest : List Char), js ≠ [] →
  (elementsText js).length + 1 < fuel → readElements fuel (elementsText js ++ ']' :: rest) = some (js, rest)

def ReadsFields (fuel : Nat) : Prop := ∀ (fields : List (String × Json)) (rest : List Char), fields ≠ [] →
  (fieldsText fields).length + 1 < fuel →
    readFields fuel (fieldsText fields ++ '\x7d' :: rest) = some (fields, rest)

theorem readsValues_succ {fuel : Nat} (helements : ReadsElements fuel) (hfields : ReadsFields fuel) :
    ReadsValues (fuel + 1) := by
  intro j rest hfuel hrest
  cases j with
  | null => rfl
  | bool b => cases b <;> rfl
  | num n =>
    obtain ⟨c, cs, htext, hc⟩ := toList_toString_cons n
    -- a number is read up to where it ends, which is why rest must not go on with a digit
    have hread := readNumber_toString n hrest
    rw [stringify]
    rw [htext, List.cons_append] at hread ⊢
    rw [readValue_number hc, hread]
    rfl
  | str s =>
    rw [stringify, toList_quote, List.cons_append, List.append_assoc, readValue, skipSpaces_cons (by decide)]
    show (readString (s.toList.flatMap (fun c => (escape c).toList) ++ '"' :: rest)).map _ = _
    rw [readString_quoted, Option.map_some, String.ofList_toList]
  | arr js =>
    by_cases hne : js = []
    · subst hne
      rfl
    rw [toList_arr, List.length_cons, List.length_append, List.length_singleton] at hfuel
    rw [toList_arr, List.cons_append, List.append_assoc, readValue_arr hne, List.singleton_append,
      helements js rest hne (by omega)]
    rfl
  | obj fields =>
    by_cases hne : fields = []
    · subst hne
      rfl
    rw [toList_obj, List.length_cons, List.length_append, List.length_singleton] at hfuel
    rw [toList_obj, List.cons_append, List.append_assoc, readValue_obj hne, List.singleton_append,
      hfields fields rest hne (by omega)]
    rfl

theorem readsElements_succ {fuel : Nat} (hvalues : ReadsValues fuel) (helements : ReadsElements fuel) :
    ReadsElements (fuel + 1) := by
  intro js rest hne hfuel
  obtain ⟨j, js, rfl⟩ := List.exists_cons_of_ne_nil hne
  cases js with
  | nil =>
    rw [elementsText_singleton] at hfuel ⊢
    rw [readElements, hvalues j _ (by omega) (ends_cons (by decide))]
    rfl
  | cons k js =>
    rw [elementsText_cons_cons, List.length_append, List.length_cons] at hfuel
    rw [elementsText_cons_cons, List.append_assoc, List.cons_append, readElements,
      hvalues j _ (by omega) (ends_cons (by decide))]
    show (readElements fuel (elementsText (k :: js) ++ ']' :: rest)).map _ = _
    rw [helements (k :: js) rest (List.cons_ne_nil k js) (by omega)]
    rfl

theorem readsFields_succ {fuel : Nat} (hvalues : ReadsValues fuel) (hfields : ReadsFields fuel) :
    ReadsFields (fuel + 1) := by
  intro fields rest hne hfuel
  obtain ⟨⟨name, j⟩, fields, rfl⟩ := List.exists_cons_of_ne_nil hne
  cases fields with
  | nil =>
    rw [fieldsText_singleton, List.length_append, List.length_cons] at hfuel
    rw [fieldsText_singleton, List.append_assoc, List.cons_append, readFields_name,
      hvalues j _ (by omega) (ends_cons (by decide))]
    rfl
  | cons field fields =>
    rw [fieldsText_cons_cons, List.length_append, List.length_cons, List.length_append, List.length_cons] at hfuel
    rw [fieldsText_cons_cons, List.append_assoc, List.cons_append, readFields_name, List.append_assoc,
      List.cons_append, hvalues j _ (by omega) (ends_cons (by decide))]
    show (readFields fuel (fieldsText (field :: fields) ++ '\x7d' :: rest)).map _ = _
    rw [hfields (field :: fields) rest (List.cons_ne_nil field fields) (by omega)]
    rfl

theorem reads (fuel : Nat) : ReadsValues fuel ∧ ReadsElements fuel ∧ ReadsFields fuel := by
  induction fuel with
  | zero => exact ⟨fun _ _ h => absurd h (Nat.not_lt_zero _), fun _ _ _ h => absurd h (Nat.not_lt_zero _),
      fun _ _ _ h => absurd h (Nat.not_lt_zero _)⟩
  | succ fuel ih =>
    obtain ⟨hvalues, helements, hfields⟩ := ih
    exact ⟨readsValues_succ helements hfields, readsElements_succ hvalues helements,
      readsFields_succ hvalues hfields⟩

/-- A value is read back from its text. -/
theorem parse_stringify (j : Json) : parse (stringify j) = some j := by
  have hread := (reads ((stringify j).toList.length + 1)).1 j [] (Nat.lt_succ_self _) (by simp [Ends])
  rw [List.append_nil] at hread
  rw [parse, hread]
  rfl

/-- No two values share a text. -/
theorem stringify_injective : Function.Injective stringify := by
  intro j k h
  have hparse := parse_stringify j
  rw [h, parse_stringify] at hparse
  exact (Option.some_inj.1 hparse).symm

end IcttSentinel.Lib.Json
