/-
Nested texts: items behind commas between brackets. Where every item tells where it ends, so does the list, and the items
can be told apart in it.
-/
import IcttSentinel.Lib.NumberText

namespace IcttSentinel.Lib

/-- What may follow an item: nothing, a comma or a closing bracket. -/
def Follows (rest : List Char) : Prop := ∀ c ∈ rest.head?, c = ',' ∨ c = ']' ∨ c = '\x7d'

/-- Two items are told apart, up to a relation, whatever follows them. -/
def ToldApart {α : Type} (R : α → α → Prop) (text : α → List Char) (x y : α) : Prop :=
  ∀ rest rest', Follows rest → Follows rest' → text x ++ rest = text y ++ rest' → R x y ∧ rest = rest'

/-! ## Items -/

/-- A quoted text tells where it ends. -/
theorem quote_told {s t : String} {rest rest' : List Char}
    (h : (Json.quote s).toList ++ rest = (Json.quote t).toList ++ rest') : s = t ∧ rest = rest' := by
  have hread : ∀ (u : String) (tail : List Char), ∃ cs, (Json.quote u).toList ++ tail = '"' :: cs ∧
      Json.readString cs = some (u.toList, tail) := by
    intro u tail
    refine ⟨_, ?_, Json.readString_quoted u.toList tail⟩
    rw [Json.toList_quote, List.cons_append, List.append_assoc]
    rfl
  obtain ⟨cs, hcs, hs⟩ := hread s rest
  obtain ⟨cs', hcs', ht⟩ := hread t rest'
  rw [hcs, hcs'] at h
  rw [(List.cons.inj h).2, ht] at hs
  obtain ⟨htext, hrest⟩ := Prod.mk.inj (Option.some.inj hs)
  exact ⟨(String.toList_inj.1 htext).symm, hrest.symm⟩

/-- A text ends where its characters do. -/
theorem chars_told {p : Char → Bool} (hp : p ',' = false ∧ p ']' = false ∧ p '\x7d' = false) {cs cs' rest rest' : List Char}
    (hcs : ∀ c ∈ cs, p c = true) (hcs' : ∀ c ∈ cs', p c = true) (hrest : Follows rest) (hrest' : Follows rest')
    (h : cs ++ rest = cs' ++ rest') : cs = cs' ∧ rest = rest' := by
  have htake : ∀ {l tail : List Char}, (∀ c ∈ l, p c = true) → Follows tail → (l ++ tail).takeWhile p = l := by
    intro l tail hl htail
    rw [List.takeWhile_append_of_pos hl]
    cases tail with
    | nil => rw [List.takeWhile_nil, List.append_nil]
    | cons c tail =>
      have hc : p c = false := by
        rcases htail c rfl with rfl | rfl | rfl
        · exact hp.1
        · exact hp.2.1
        · exact hp.2.2
      rw [List.takeWhile_cons_of_neg (by simp [hc]), List.append_nil]
  have hsame : cs = cs' := by rw [← htake hcs hrest, h, htake hcs' hrest']
  subst hsame
  exact ⟨rfl, List.append_cancel_left h⟩

theorem numberText_told {x y : IntegralNumber} {rest rest' : List Char} (hrest : Follows rest) (hrest' : Follows rest')
    (h : (numberText x).toList ++ rest = (numberText y).toList ++ rest') : x = y ∧ rest = rest' := by
  obtain ⟨htext, hrest⟩ := chars_told (by decide) (fun _ => numberText_chars) (fun _ => numberText_chars) hrest hrest' h
  exact ⟨numberText_injective (String.toList_inj.1 htext), hrest⟩

/-! ## Lists -/

section Lists

variable {α : Type} {R : α → α → Prop} {text : α → List Char} {close : Char}

/-- The items behind commas. -/
def listed (text : α → List Char) (items : List α) : List Char := [','].intercalate (items.map text)

/-- What follows the first item of a list that is closed. -/
def behindFirst (text : α → List Char) (close : Char) (rest : List Char) : List α → List Char
  | [] => close :: rest
  | items => ',' :: (listed text items ++ close :: rest)

theorem listed_cons (x : α) (items : List α) (rest : List Char) :
    listed text (x :: items) ++ close :: rest = text x ++ behindFirst text close rest items := by
  cases items with
  | nil => simp [listed, behindFirst]
  | cons y items => simp [listed, behindFirst]

theorem follows_behindFirst (hclose : close = ']' ∨ close = '\x7d') (rest : List Char) (items : List α) :
    Follows (behindFirst text close rest items) := by
  intro c hc
  cases items with
  | nil =>
    obtain rfl : close = c := Option.some.inj hc
    exact Or.inr hclose
  | cons y items =>
    obtain rfl : ',' = c := Option.some.inj hc
    exact Or.inl rfl

/-- Lists whose items are told apart are told apart by what stands before their closing bracket. -/
theorem listed_told (hclose : close = ']' ∨ close = '\x7d') {xs ys : List α} (htold : ∀ x ∈ xs, ∀ y ∈ ys, ToldApart R text x y)
    (hxs : ∀ x ∈ xs, ∃ c cs, text x = c :: cs ∧ c ≠ close) (hys : ∀ y ∈ ys, ∃ c cs, text y = c :: cs ∧ c ≠ close)
    {rest rest' : List Char} (h : listed text xs ++ close :: rest = listed text ys ++ close :: rest') :
    List.Forall₂ R xs ys ∧ rest = rest' := by
  -- an item does not start with the bracket that would close the list
  have hempty : ∀ {x : α} {items : List α} {tail tail' : List Char}, (∃ c cs, text x = c :: cs ∧ c ≠ close) →
      listed text (x :: items) ++ close :: tail ≠ close :: tail' := by
    rintro x items tail tail' ⟨c, cs, hx, hc⟩ heq
    rw [listed_cons, hx] at heq
    exact hc (List.cons.inj heq).1
  have hcomma : close ≠ ',' := by
    rcases hclose with rfl | rfl <;> decide
  induction xs generalizing ys with
  | nil =>
    cases ys with
    | nil => exact ⟨.nil, (List.cons.inj h).2⟩
    | cons y ys => exact absurd h.symm (hempty (hys y List.mem_cons_self))
  | cons x xs ih =>
    cases ys with
    | nil => exact absurd h (hempty (hxs x List.mem_cons_self))
    | cons y ys =>
      rw [listed_cons, listed_cons] at h
      obtain ⟨hxy, hbehind⟩ := htold x List.mem_cons_self y List.mem_cons_self _ _ (follows_behindFirst hclose rest xs)
        (follows_behindFirst hclose rest' ys) h
      cases xs with
      | nil =>
        cases ys with
        | nil => exact ⟨.cons hxy .nil, (List.cons.inj hbehind).2⟩
        | cons z ys => exact absurd (List.cons.inj hbehind).1 hcomma
      | cons z xs =>
        cases ys with
        | nil => exact absurd (List.cons.inj hbehind).1.symm hcomma
        | cons w ys =>
          obtain ⟨hrest, hsame⟩ := ih (fun a ha b hb => htold a (List.mem_cons_of_mem _ ha) b (List.mem_cons_of_mem _ hb))
            (fun a ha => hxs a (List.mem_cons_of_mem _ ha)) (fun b hb => hys b (List.mem_cons_of_mem _ hb))
            (List.cons.inj hbehind).2
          exact ⟨.cons hxy hrest, hsame⟩

end Lists

end IcttSentinel.Lib
