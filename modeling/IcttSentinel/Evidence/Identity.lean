/-
Which outputs of canonical JSON can be read back, and for which values they are an identity.
-/
import IcttSentinel.Evidence.Gaps

namespace IcttSentinel.Evidence

open IcttSentinel.Lib

/-! ## Texts with gaps cannot be read -/

section Unreadable

theorem toList_intercalate_cons (t u : String) (texts : List String) :
    (",".intercalate (t :: u :: texts)).toList = t.toList ++ ',' :: (",".intercalate (u :: texts)).toList := by
  rw [String.intercalate_cons_cons, String.toList_append, String.toList_append, List.append_assoc]
  rfl

theorem toList_text_arr (elements : List (Option JsValue)) :
    (JsValue.arr elements).text.toList = '[' :: ((",".intercalate (JsValue.textElements elements)).toList ++ [']']) := by
  rw [JsValue.text, String.toList_append, String.toList_append]
  rfl

theorem toList_text_obj (entries : List (String × JsValue)) :
    (JsValue.obj entries).text.toList =
      '\x7b' :: ((",".intercalate (JsValue.textEntries entries)).toList ++ ['\x7d']) := by
  rw [JsValue.text, String.toList_append, String.toList_append]
  rfl

/-- No form starts with a space or with the end of an array. -/
theorem toList_text_cons {c : JsValue} (h : IsForm c) :
    ∃ char chars, c.text.toList = char :: chars ∧ Json.isSpace char = false ∧ char ≠ ']' := by
  cases h with
  | null => exact ⟨'n', ['u', 'l', 'l'], rfl, by decide⟩
  | bool b =>
    cases b with
    | false => exact ⟨'f', ['a', 'l', 's', 'e'], rfl, by decide⟩
    | true => exact ⟨'t', ['r', 'u', 'e'], rfl, by decide⟩
  | str s =>
    rw [JsValue.text, Json.toList_quote]
    exact ⟨_, _, rfl, by decide⟩
  | arr h =>
    rw [toList_text_arr]
    exact ⟨_, _, rfl, by decide⟩
  | obj keys h =>
    rw [toList_text_obj]
    exact ⟨_, _, rfl, by decide⟩

/-- A hole is no value. -/
theorem readValue_hole {c : Char} (hc : c = ',' ∨ c = ']') (fuel : Nat) (rest : List Char) :
    Json.readValue fuel (c :: rest) = none := by
  rcases hc with rfl | rfl <;> cases fuel <;> rfl

/-- With this fuel, a form with gaps is not read. -/
def FailsValues (fuel : Nat) : Prop := ∀ (c : JsValue) (rest : List Char), IsForm c → Gapped c →
  c.text.toList.length < fuel → Json.readValue fuel (c.text.toList ++ rest) = none

def FailsElements (fuel : Nat) : Prop := ∀ (elements : List (Option JsValue)) (rest : List Char),
  (∀ v, some v ∈ elements → IsForm v) → (none ∈ elements ∨ ∃ v, some v ∈ elements ∧ Gapped v) →
    (",".intercalate (JsValue.textElements elements)).toList.length + 1 < fuel →
      Json.readElements fuel ((",".intercalate (JsValue.textElements elements)).toList ++ ']' :: rest) = none

def FailsFields (fuel : Nat) : Prop := ∀ (entries : List (String × JsValue)) (rest : List Char),
  (∀ e ∈ entries, IsForm e.2) → (∃ e ∈ entries, Gapped e.2) →
    (",".intercalate (JsValue.textEntries entries)).toList.length + 1 < fuel →
      Json.readFields fuel ((",".intercalate (JsValue.textEntries entries)).toList ++ '\x7d' :: rest) = none

/-- A form without gaps is read as its document. -/
theorem readValue_text {fuel : Nat} {c : JsValue} (h : IsForm c) (hgapped : ¬ Gapped c) {rest : List Char}
    (hfuel : c.text.toList.length < fuel) (hrest : Json.Ends rest) :
    Json.readValue fuel (c.text.toList ++ rest) = some (c.document, rest) := by
  rw [← (document_spec h hgapped).1] at hfuel ⊢
  exact (Json.reads fuel).1 c.document rest hfuel hrest

theorem failsElements_succ {fuel : Nat} (hvalues : FailsValues fuel) (helements : FailsElements fuel) :
    FailsElements (fuel + 1) := by
  intro elements rest hforms hfault hfuel
  cases elements with
  | nil =>
    rcases hfault with h | ⟨v, h, -⟩
    · cases h
    · cases h
  | cons o elements =>
    cases o with
    | none =>
      -- the text goes on with a comma or ends
      have hhole : ∃ c cs, (c = ',' ∨ c = ']') ∧
          (",".intercalate (JsValue.textElements (none :: elements))).toList ++ ']' :: rest = c :: cs := by
        cases elements with
        | nil => exact ⟨']', rest, Or.inr rfl, rfl⟩
        | cons o elements =>
          cases o <;>
          · rw [JsValue.textElements, JsValue.textElements, toList_intercalate_cons]
            exact ⟨',', _, Or.inl rfl, rfl⟩
      obtain ⟨c, cs, hc, htext⟩ := hhole
      rw [htext, Json.readElements, readValue_hole hc]
    | some v =>
      have hv := hforms v List.mem_cons_self
      by_cases hgapped : Gapped v
      · have htext : ∃ tail, (",".intercalate (JsValue.textElements (some v :: elements))).toList = v.text.toList ++ tail := by
          cases elements with
          | nil => exact ⟨[], by rw [JsValue.textElements, JsValue.textElements, String.intercalate_singleton, List.append_nil]⟩
          | cons o elements =>
            cases o <;>
            · rw [JsValue.textElements, JsValue.textElements, toList_intercalate_cons]
              exact ⟨_, rfl⟩
        obtain ⟨tail, htext⟩ := htext
        rw [htext, List.length_append] at hfuel
        rw [htext, List.append_assoc, Json.readElements, hvalues v _ hv hgapped (by omega)]
      · have hrest : none ∈ elements ∨ ∃ w, some w ∈ elements ∧ Gapped w := by
          rcases hfault with h | ⟨w, hw, hgap⟩
          · exact Or.inl ((List.mem_cons.1 h).resolve_left (Option.some_ne_none v).symm)
          · rcases List.mem_cons.1 hw with heq | hw
            · cases heq
              exact absurd hgap hgapped
            · exact Or.inr ⟨w, hw, hgap⟩
        obtain ⟨o, elements, rfl⟩ : ∃ o es, elements = o :: es := by
          cases elements with
          | nil => rcases hrest with h | ⟨w, h, -⟩ <;> cases h
          | cons o es => exact ⟨o, es, rfl⟩
        have htext : (",".intercalate (JsValue.textElements (some v :: o :: elements))).toList =
            v.text.toList ++ ',' :: (",".intercalate (JsValue.textElements (o :: elements))).toList := by
          cases o <;> exact toList_intercalate_cons _ _ _
        rw [htext, List.length_append, List.length_cons] at hfuel
        rw [htext, List.append_assoc, List.cons_append, Json.readElements,
          readValue_text hv hgapped (by omega) (Json.ends_cons (by decide))]
        show (Json.readElements fuel _).map _ = none
        rw [helements (o :: elements) rest (fun w hw => hforms w (List.mem_cons_of_mem _ hw)) hrest (by omega)]
        rfl

theorem failsFields_succ {fuel : Nat} (hvalues : FailsValues fuel) (hfields : FailsFields fuel) :
    FailsFields (fuel + 1) := by
  intro entries rest hforms hfault hfuel
  cases entries with
  | nil =>
    obtain ⟨e, he, -⟩ := hfault
    cases he
  | cons e entries =>
    obtain ⟨k, v⟩ := e
    have hv : IsForm v := hforms (k, v) List.mem_cons_self
    by_cases hgapped : Gapped v
    -- the value of the first field has the gap, so the reader fails there
    · have htext : ∃ tail, (",".intercalate (JsValue.textEntries ((k, v) :: entries))).toList =
          (Json.quote k).toList ++ ':' :: (v.text.toList ++ tail) := by
        cases entries with
        | nil =>
          refine ⟨[], ?_⟩
          rw [JsValue.textEntries, JsValue.textEntries, String.intercalate_singleton, String.toList_append,
            String.toList_append, List.append_nil, List.append_assoc]
          rfl
        | cons e entries =>
          obtain ⟨l, w⟩ := e
          rw [JsValue.textEntries, JsValue.textEntries, toList_intercalate_cons, String.toList_append,
            String.toList_append, List.append_assoc, List.append_assoc]
          exact ⟨_, rfl⟩
      obtain ⟨tail, htext⟩ := htext
      rw [htext, List.length_append, List.length_cons, List.length_append] at hfuel
      rw [htext, List.append_assoc, List.cons_append, Json.readFields_name, List.append_assoc,
        hvalues v _ hv hgapped (by omega)]
    -- the first field is read, and the gap is in a later one
    · have hrest : ∃ e ∈ entries, Gapped e.2 := by
        obtain ⟨e, he, hgap⟩ := hfault
        rcases List.mem_cons.1 he with rfl | he
        · exact absurd hgap hgapped
        · exact ⟨e, he, hgap⟩
      obtain ⟨⟨l, w⟩, entries, rfl⟩ : ∃ e es, entries = e :: es := by
        cases entries with
        | nil =>
          obtain ⟨e, he, -⟩ := hrest
          cases he
        | cons e es => exact ⟨e, es, rfl⟩
      have htext : (",".intercalate (JsValue.textEntries ((k, v) :: (l, w) :: entries))).toList =
          (Json.quote k).toList ++ ':' :: (v.text.toList ++ ',' ::
            (",".intercalate (JsValue.textEntries ((l, w) :: entries))).toList) := by
        rw [JsValue.textEntries, JsValue.textEntries, toList_intercalate_cons, String.toList_append,
          String.toList_append, List.append_assoc, List.append_assoc]
        rfl
      rw [htext, List.length_append, List.length_cons, List.length_append, List.length_cons] at hfuel
      rw [htext, List.append_assoc, List.cons_append, Json.readFields_name, List.append_assoc, List.cons_append,
        readValue_text hv hgapped (by omega) (Json.ends_cons (by decide))]
      show (Json.readFields fuel _).map _ = none
      rw [hfields ((l, w) :: entries) rest (fun e he => hforms e (List.mem_cons_of_mem _ he)) hrest (by omega)]
      rfl

/-- Elements other than a lone hole are written as something. -/
theorem toList_elements_cons {elements : List (Option JsValue)} (hforms : ∀ v, some v ∈ elements → IsForm v)
    (hne : elements ≠ []) (hlone : elements ≠ [none]) :
    ∃ c cs, (",".intercalate (JsValue.textElements elements)).toList = c :: cs ∧ Json.isSpace c = false ∧ c ≠ ']' := by
  obtain ⟨o, elements, rfl⟩ := List.exists_cons_of_ne_nil hne
  cases elements with
  | nil =>
    cases o with
    | none => exact absurd rfl hlone
    | some v =>
      rw [JsValue.textElements, JsValue.textElements, String.intercalate_singleton]
      exact toList_text_cons (hforms v List.mem_cons_self)
  | cons o' elements =>
    have htext : ∃ t u ts, JsValue.textElements (o :: o' :: elements) = t :: u :: ts ∧
        (o = none ∧ t = "" ∨ ∃ v, o = some v ∧ t = v.text) := by
      cases o with
      | none => cases o' <;> exact ⟨_, _, _, rfl, Or.inl ⟨rfl, rfl⟩⟩
      | some v => cases o' <;> exact ⟨_, _, _, rfl, Or.inr ⟨v, rfl, rfl⟩⟩
    obtain ⟨t, u, ts, htexts, ⟨-, rfl⟩ | ⟨v, rfl, rfl⟩⟩ := htext
    · rw [htexts, toList_intercalate_cons]
      exact ⟨',', _, rfl, by decide⟩
    · obtain ⟨c, cs, hcs, hc⟩ := toList_text_cons (hforms v List.mem_cons_self)
      rw [htexts, toList_intercalate_cons, hcs]
      exact ⟨c, _, rfl, hc⟩

theorem failsValues_succ {fuel : Nat} (helements : FailsElements fuel) (hfields : FailsFields fuel) :
    FailsValues (fuel + 1) := by
  intro c rest hform hgapped hfuel
  cases hform with
  | null => cases hgapped
  | bool b => cases hgapped
  | str s => cases hgapped
  | @arr elements hforms =>
    have hfault : none ∈ elements ∨ ∃ v, some v ∈ elements ∧ Gapped v := by
      cases hgapped with
      | here hole beside => exact Or.inl hole
      | element mem gapped => exact Or.inr ⟨_, mem, gapped⟩
    have hlone : elements ≠ [none] := by
      rintro rfl
      cases hgapped with
      | here hole beside => exact beside rfl
      | element mem gapped => cases List.mem_singleton.1 mem
    have hne : elements ≠ [] := by
      rintro rfl
      rcases hfault with h | ⟨v, h, -⟩ <;> cases h
    obtain ⟨char, chars, htext, hspace, hbracket⟩ := toList_elements_cons hforms hne hlone
    rw [toList_text_arr, List.length_cons, List.length_append, List.length_singleton] at hfuel
    have hfails := helements elements rest hforms hfault (by omega)
    rw [toList_text_arr, List.cons_append, List.append_assoc, List.singleton_append]
    rw [htext, List.cons_append] at hfails ⊢
    rw [Json.readValue_bracket hspace hbracket, hfails]
    rfl
  | @obj entries keys hforms =>
    have hfault : ∃ e ∈ entries, Gapped e.2 := by
      cases hgapped with
      | value mem gapped => exact ⟨_, mem, gapped⟩
    rw [toList_text_obj, List.length_cons, List.length_append, List.length_singleton] at hfuel
    have hfails := hfields entries rest hforms hfault (by omega)
    rw [toList_text_obj, List.cons_append, List.append_assoc, List.singleton_append]
    -- the first entry starts with the quote of its key
    obtain ⟨chars, htext⟩ : ∃ chars, (",".intercalate (JsValue.textEntries entries)).toList = '"' :: chars := by
      cases entries with
      | nil =>
        obtain ⟨e, he, -⟩ := hfault
        cases he
      | cons e entries =>
        obtain ⟨k, v⟩ := e
        cases entries with
        | nil =>
          rw [JsValue.textEntries, JsValue.textEntries, String.intercalate_singleton, String.toList_append,
            String.toList_append, Json.toList_quote]
          exact ⟨_, rfl⟩
        | cons e entries =>
          obtain ⟨l, w⟩ := e
          rw [JsValue.textEntries, JsValue.textEntries, toList_intercalate_cons, String.toList_append,
            String.toList_append, Json.toList_quote]
          exact ⟨_, rfl⟩
    rw [htext, List.cons_append] at hfails ⊢
    show (Json.readFields fuel _).map _ = none
    rw [hfails]
    rfl

theorem fails (fuel : Nat) : FailsValues fuel ∧ FailsElements fuel ∧ FailsFields fuel := by
  induction fuel with
  | zero => exact ⟨fun _ _ _ _ h => absurd h (Nat.not_lt_zero _), fun _ _ _ _ h => absurd h (Nat.not_lt_zero _),
      fun _ _ _ _ h => absurd h (Nat.not_lt_zero _)⟩
  | succ fuel ih =>
    obtain ⟨hvalues, helements, hfields⟩ := ih
    exact ⟨failsValues_succ helements hfields, failsElements_succ hvalues helements,
      failsFields_succ hvalues hfields⟩

theorem parse_text_of_gapped {c : JsValue} (h : IsForm c) (hgapped : Gapped c) : Json.parse c.text = none := by
  have hread := (fails (c.text.toList.length + 1)).1 c [] h hgapped (Nat.lt_succ_self _)
  rw [List.append_nil] at hread
  rw [Json.parse, hread]

theorem parse_text {c : JsValue} (h : IsForm c) (hgapped : ¬ Gapped c) : jsonParse c.text = some c.close := by
  obtain ⟨htext, hvalue⟩ := document_spec h hgapped
  rw [jsonParse, ← htext, Json.parse_stringify, Option.map_some, hvalue]

end Unreadable

/-! ## Equal texts and parsed texts -/

section Identity

variable {nfc : Nfc}

/-- What the text is parsed as has the text for its output. -/
def Reproduced (nfc : Nfc) (text : String) : Prop :=
  ∃ value, jsonParse text = some value ∧ canonicalStringify nfc value = .ok text

/-- An output is reproduced exactly when the value has no hole beside other elements. -/
theorem reproduced_iff {v : JsValue} {text : String} (h : canonicalStringify nfc v = .ok text) :
    Reproduced nfc text ↔ ¬ Gapped v := by
  obtain ⟨c, hc, rfl⟩ := canonicalStringify_ok_iff.1 h
  rw [← gapped_canon hc]
  constructor
  · rintro ⟨value, hparse, -⟩ hgapped
    rw [jsonParse, parse_text_of_gapped (isForm_canon hc) hgapped] at hparse
    cases hparse
  · intro hgapped
    have hclosed : canon nfc c.close = some c.close := by
      rw [canon_close, canon_of_canon hc]
      rfl
    exact ⟨c.close, parse_text (isForm_canon hc) hgapped, canonicalStringify_ok_iff.2 ⟨_, hclosed, text_close c⟩⟩

/-- Without such holes, one text means one value up to the identifications and lone holes. -/
theorem text_eq_iff {v w : JsValue} {s t : String} (hv : canonicalStringify nfc v = .ok s)
    (hw : canonicalStringify nfc w = .ok t) (hgappedv : ¬ Gapped v) (hgappedw : ¬ Gapped w) :
    s = t ↔ Alike nfc v.close w.close := by
  obtain ⟨c, hc, rfl⟩ := canonicalStringify_ok_iff.1 hv
  obtain ⟨d, hd, rfl⟩ := canonicalStringify_ok_iff.1 hw
  have hclosev : canon nfc v.close = some c.close := by rw [canon_close, hc, Option.map_some]
  have hclosew : canon nfc w.close = some d.close := by rw [canon_close, hd, Option.map_some]
  rw [alike_iff hclosev hclosew]
  constructor
  · intro heq
    have hparse := parse_text (isForm_canon hc) (mt (gapped_canon hc).1 hgappedv)
    rw [heq, parse_text (isForm_canon hd) (mt (gapped_canon hd).1 hgappedw)] at hparse
    exact (Option.some_inj.1 hparse).symm
  · intro heq
    rw [← text_close c, heq, text_close d]

/-- Identified values have one text. -/
theorem text_eq_of_alike {v w : JsValue} {s t : String} (hv : canonicalStringify nfc v = .ok s)
    (hw : canonicalStringify nfc w = .ok t) (h : Alike nfc v w) : s = t := by
  obtain ⟨c, hc, rfl⟩ := canonicalStringify_ok_iff.1 hv
  obtain ⟨d, hd, rfl⟩ := canonicalStringify_ok_iff.1 hw
  rw [(alike_iff hc hd).1 h]

/-- Without holes, one text means one value up to the identifications. -/
theorem text_eq_iff_of_dense {v w : JsValue} {s t : String} (hv : canonicalStringify nfc v = .ok s)
    (hw : canonicalStringify nfc w = .ok t) (hdensev : Dense v) (hdensew : Dense w) : s = t ↔ Alike nfc v w := by
  have htexts := text_eq_iff hv hw hdensev.not_gapped hdensew.not_gapped
  rwa [hdensev.close_eq, hdensew.close_eq] at htexts

/-- The output for a value without holes is parsed as its form. -/
theorem jsonParse_of_dense {v : JsValue} {text : String} (hdense : Dense v) (h : canonicalStringify nfc v = .ok text) :
    ∃ c, canon nfc v = some c ∧ jsonParse text = some c ∧ canonicalStringify nfc c = .ok text := by
  obtain ⟨c, hc, rfl⟩ := canonicalStringify_ok_iff.1 h
  have hdensec := hdense.canon hc
  refine ⟨c, hc, ?_, canonicalStringify_ok_iff.2 ⟨c, canon_of_canon hc, rfl⟩⟩
  rw [parse_text (isForm_canon hc) hdensec.not_gapped, hdensec.close_eq]

/-- Outputs are an identity of two values, and both are reproduced, exactly when neither value has a hole beside other
elements and the two are not told apart by lone holes only. -/
theorem canonicalStringify_identity_iff {v w : JsValue} {s t : String} (hv : canonicalStringify nfc v = .ok s)
    (hw : canonicalStringify nfc w = .ok t) :
    ((s = t ↔ Alike nfc v w) ∧ Reproduced nfc s ∧ Reproduced nfc t) ↔
      (¬ Gapped v ∧ ¬ Gapped w ∧ (Alike nfc v.close w.close → Alike nfc v w)) := by
  rw [reproduced_iff hv, reproduced_iff hw]
  constructor
  · rintro ⟨hidentity, hgappedv, hgappedw⟩
    refine ⟨hgappedv, hgappedw, fun h => hidentity.1 ?_⟩
    exact (text_eq_iff hv hw hgappedv hgappedw).2 h
  · rintro ⟨hgappedv, hgappedw, hclose⟩
    refine ⟨⟨fun h => hclose ?_, text_eq_of_alike hv hw⟩, hgappedv, hgappedw⟩
    exact (text_eq_iff hv hw hgappedv hgappedw).1 h

/-- Strings of ASCII characters are normalised already. -/
def sampleNfc : Nfc := ⟨id, fun _ => rfl, fun _ _ => rfl⟩

/-- A count and its decimal string, under keys in two orders. -/
theorem canonicalStringify_identity_count :
    canonicalStringify sampleNfc (.obj [("b", .integer 1), ("a", .undefined)]) = .ok "\x7b\"b\":\"1\"\x7d" ∧
      (Alike sampleNfc (.obj [("b", .integer 1), ("a", .undefined)]) (.obj [("b", .str "1")]) ∧
        Reproduced sampleNfc "\x7b\"b\":\"1\"\x7d") := by
  have hleft : canonicalStringify sampleNfc (.obj [("b", .integer 1), ("a", .undefined)]) = .ok "\x7b\"b\":\"1\"\x7d" := by
    decide +kernel
  have hright : canonicalStringify sampleNfc (.obj [("b", .str "1")]) = .ok "\x7b\"b\":\"1\"\x7d" := by decide +kernel
  have hgappedl : ¬ Gapped (.obj [("b", .integer 1), ("a", .undefined)]) := by
    intro h
    cases h with
    | value mem gapped =>
      rcases List.mem_pair.1 mem with rfl | rfl <;> cases gapped
  have hgappedr : ¬ Gapped (.obj [("b", .str "1")]) := by
    intro h
    cases h with
    | value mem gapped =>
      cases List.mem_singleton.1 mem
      cases gapped
  have hidentity := (canonicalStringify_identity_iff hleft hright).2 ⟨hgappedl, hgappedr, id⟩
  exact ⟨hleft, hidentity.1.1 rfl, hidentity.2.1⟩

/-- An array of one hole has the output of an empty array, and the output for a hole beside another element is not
parsed. -/
theorem holes_are_dropped :
    canonicalStringify sampleNfc (.arr []) = .ok "[]" ∧ canonicalStringify sampleNfc (.arr [none]) = .ok "[]" ∧
      ¬ Alike sampleNfc (.arr []) (.arr [none]) ∧
      canonicalStringify sampleNfc (.arr [none, some (.str "1")]) = .ok "[,\"1\"]" ∧
      ¬ Reproduced sampleNfc "[,\"1\"]" := by
  have hbeside : canonicalStringify sampleNfc (.arr [none, some (.str "1")]) = .ok "[,\"1\"]" := by decide +kernel
  refine ⟨by decide +kernel, by decide +kernel, ?_, hbeside, ?_⟩
  · rw [alike_iff (c := .arr []) (d := .arr [none]) rfl rfl]
    intro h
    cases h
  · rw [reproduced_iff hbeside, not_not]
    exact .here List.mem_cons_self (by rintro ⟨⟩)

end Identity

end IcttSentinel.Evidence
