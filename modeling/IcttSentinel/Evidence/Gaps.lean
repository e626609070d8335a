/-
Canonical JSON as an identity of values. On arrays without holes it is one: outputs are equal exactly for identified
values, and the parsed output has the output again. A hole is written as nothing, so that an array of one hole has
the text of an empty array, and a hole beside other elements makes a text that no value has.
-/
import IcttSentinel.Evidence.Alike

namespace IcttSentinel.Evidence

open IcttSentinel.Lib

variable {nfc : Nfc}

/-! ## Holes -/

/-- Somewhere a hole stands beside other elements. -/
inductive Gapped : JsValue → Prop
  | here {elements : List (Option JsValue)} (hole : none ∈ elements) (beside : elements ≠ [none]) : Gapped (.arr elements)
  | element {elements : List (Option JsValue)} {v : JsValue} (mem : some v ∈ elements) (gapped : Gapped v) :
    Gapped (.arr elements)
  | value {entries : List (String × JsValue)} {e : String × JsValue} (mem : e ∈ entries) (gapped : Gapped e.2) :
    Gapped (.obj entries)

mutual

/-- The value with an empty array for every array of one hole. -/
def JsValue.close : JsValue → JsValue
  | .arr [none] => .arr []
  | .arr elements => .arr (JsValue.closeElements elements)
  | .obj entries => .obj (JsValue.closeEntries entries)
  | v => v

def JsValue.closeElements : List (Option JsValue) → List (Option JsValue)
  | [] => []
  | none :: elements => none :: JsValue.closeElements elements
  | some v :: elements => some v.close :: JsValue.closeElements elements

def JsValue.closeEntries : List (String × JsValue) → List (String × JsValue)
  | [] => []
  | (k, v) :: entries => (k, v.close) :: JsValue.closeEntries entries

end

theorem close_arr {elements : List (Option JsValue)} (h : elements ≠ [none]) :
    (JsValue.arr elements).close = .arr (elements.map (Option.map JsValue.close)) := by
  have helements : JsValue.closeElements elements = elements.map (Option.map JsValue.close) := by
    clear h
    induction elements with
    | nil => rfl
    | cons o elements ih => cases o <;> rw [JsValue.closeElements, ih] <;> rfl
  rw [JsValue.close, helements]
  exact h

theorem close_obj (entries : List (String × JsValue)) :
    (JsValue.obj entries).close = .obj (entries.map fun e => (e.1, e.2.close)) := by
  have hentries : JsValue.closeEntries entries = entries.map fun e => (e.1, e.2.close) := by
    induction entries with
    | nil => rfl
    | cons e entries ih => rw [JsValue.closeEntries, ih, List.map_cons]
  rw [JsValue.close, hentries]

theorem isUndefined_close (v : JsValue) : v.close.isUndefined = v.isUndefined := by
  cases v with
  | arr elements =>
    by_cases h : elements = [none]
    · subst h
      rfl
    · rw [close_arr h]
      rfl
  | _ => rfl

theorem mapM_id_map {α β : Type} (g : α → β) (l : List (Option α)) :
    (l.map (Option.map g)).mapM id = (l.mapM id).map (List.map g) := by
  cases hm : l.mapM id with
  | some m =>
    rw [mapM_id_eq_some] at hm
    rw [Option.map_some, mapM_id_eq_some, hm, List.map_map, List.map_map]
    rfl
  | none =>
    cases hm' : (l.map (Option.map g)).mapM id with
    | none => rfl
    | some m' =>
      rw [mapM_id_eq_some] at hm'
      have hall : ∀ o ∈ l, ∃ a, o = some a := by
        intro o ho
        have hmem : o.map g ∈ m'.map some := hm' ▸ List.mem_map_of_mem ho
        obtain ⟨b, -, hb⟩ := List.mem_map.1 hmem
        obtain ⟨a, ha, -⟩ := Option.map_eq_some_iff.1 hb.symm
        exact ⟨a, ha⟩
      obtain ⟨m, hm''⟩ := exists_mapM_id hall
      rw [hm] at hm''
      cases hm''

/-- Closing commutes with taking the form. -/
theorem canon_close (v : JsValue) : canon nfc v.close = (canon nfc v).map JsValue.close := by
  induction v using JsValue.ind with
  | atom v h =>
    cases v with
    | integer n =>
      show canon nfc (.integer n) = (canon nfc (.integer n)).map JsValue.close
      rw [canon]
      split <;> rfl
    | arr elements => cases h
    | obj entries => cases h
    | _ => rfl
  | arr elements ih =>
    by_cases hlone : elements = [none]
    · subst hlone
      rfl
    rw [close_arr hlone, canon, canon, canonElements_eq, canonElements_eq, List.map_map]
    have hforms : elements.map (elementForm nfc ∘ Option.map JsValue.close) =
        (elements.map (elementForm nfc)).map (Option.map (Option.map JsValue.close)) := by
      rw [List.map_map]
      refine List.map_congr_left fun o ho => ?_
      cases o with
      | none => rfl
      | some v =>
        show (canon nfc v.close).map some = ((canon nfc v).map some).map _
        rw [ih v ho, Option.map_map, Option.map_map]
        rfl
    rw [hforms, mapM_id_map]
    cases hcs : (elements.map (elementForm nfc)).mapM id with
    | none => rfl
    | some cs =>
      show some (JsValue.arr (cs.map (Option.map JsValue.close))) = some (JsValue.arr cs).close
      -- closing changes an array only when it is a lone hole, and the form of another array is none
      rw [close_arr]
      rintro rfl
      rw [mapM_id_eq_some, List.map_cons, List.map_nil, List.map_eq_singleton_iff] at hcs
      obtain ⟨o, rfl, ho⟩ := hcs
      exact hlone (congrArg (fun o => [o]) (elementForm_eq_none.1 ho))
  | obj entries ih =>
    rw [close_obj, canon, canon, canonEntries_eq, canonEntries_eq, List.filterMap_map]
    have hforms : entries.filterMap (entryForm nfc ∘ fun e => (e.1, e.2.close)) =
        (entries.filterMap (entryForm nfc)).map (Option.map fun e => (e.1, e.2.close)) := by
      rw [List.map_filterMap]
      refine List.filterMap_congr fun e he => ?_
      simp only [Function.comp_apply, entryForm, isUndefined_close, ih e he]
      split
      · rfl
      · rw [Option.map_some, Option.map_map, Option.map_map]
        rfl
    rw [hforms, mapM_id_map]
    cases hcs : (entries.filterMap (entryForm nfc)).mapM id with
    | none => rfl
    | some cs =>
      have hkeys : (cs.map fun e => (e.1, e.2.close)).map (·.1) = cs.map (·.1) := by
        rw [List.map_map]
        rfl
      -- closing keeps the keys, so neither their order nor their repetition changes
      have hsorted : sortOn entryKey (cs.map fun e => (e.1, e.2.close)) =
          (sortOn entryKey cs).map fun e => (e.1, e.2.close) :=
        sortOn_map (fun _ => rfl) cs
      show (if ((cs.map fun e => (e.1, e.2.close)).map (·.1)).Nodup then
          some (JsValue.obj (sortOn entryKey (cs.map fun e => (e.1, e.2.close)))) else none) =
        (if (cs.map (·.1)).Nodup then some (JsValue.obj (sortOn entryKey cs)) else none).map JsValue.close
      rw [hkeys, hsorted]
      split
      · rw [Option.map_some, close_obj]
      · rfl

theorem text_close (v : JsValue) : v.close.text = v.text := by
  induction v using JsValue.ind with
  | atom v h => cases v <;> first | rfl | cases h
  | arr elements ih =>
    by_cases hlone : elements = [none]
    · subst hlone
      rfl
    have htexts : ∀ es : List (Option JsValue), (∀ v, some v ∈ es → v.close.text = v.text) →
        JsValue.textElements (es.map (Option.map JsValue.close)) = JsValue.textElements es := by
      intro es
      induction es with
      | nil => exact fun _ => rfl
      | cons o es ihes =>
        intro h
        have hrest := ihes fun v hv => h v (List.mem_cons_of_mem o hv)
        cases o with
        | none => exact congrArg ("" :: ·) hrest
        | some v => exact congrArg₂ List.cons (h v List.mem_cons_self) hrest
    rw [close_arr hlone, JsValue.text, JsValue.text, htexts elements ih]
  | obj entries ih =>
    rw [close_obj, JsValue.text, JsValue.text, textEntries_eq, textEntries_eq, List.map_map]
    refine congrArg (fun texts => "\x7b" ++ ",".intercalate texts ++ "\x7d") (List.map_congr_left fun e he => ?_)
    rw [Function.comp_apply, ih e he]

/-! ## Values without holes -/

/-- No array has a hole. -/
inductive Dense : JsValue → Prop
  | atom {v : JsValue} (h : v.isAtom = true) : Dense v
  | arr {elements : List (Option JsValue)} (filled : none ∉ elements) (h : ∀ v, some v ∈ elements → Dense v) :
    Dense (.arr elements)
  | obj {entries : List (String × JsValue)} (h : ∀ e ∈ entries, Dense e.2) : Dense (.obj entries)

theorem Dense.not_gapped {v : JsValue} (h : Dense v) : ¬ Gapped v := by
  induction h with
  | atom h => rintro (_ | _ | _) <;> cases h
  | arr filled h ih =>
    intro hgapped
    cases hgapped with
    | here hole beside => exact filled hole
    | element mem gapped => exact ih _ mem gapped
  | obj h ih =>
    intro hgapped
    cases hgapped with
    | value mem gapped => exact ih _ mem gapped

theorem Dense.close_eq {v : JsValue} (h : Dense v) : v.close = v := by
  induction h with
  | @atom v h => cases v <;> first | rfl | cases h
  | @arr elements filled h ih =>
    have hlone : elements ≠ [none] := by
      rintro rfl
      exact filled List.mem_cons_self
    rw [close_arr hlone]
    refine congrArg JsValue.arr ((List.map_congr_left fun o ho => ?_).trans (List.map_id elements))
    cases o with
    | none => exact absurd ho filled
    | some v => exact congrArg some (ih v ho)
  | @obj entries h ih =>
    rw [close_obj]
    refine congrArg JsValue.obj ((List.map_congr_left fun e he => ?_).trans (List.map_id entries))
    rw [ih e he]
    rfl

theorem Dense.canon {v c : JsValue} (h : Dense v) (hc : canon nfc v = some c) : Dense c := by
  induction h generalizing c with
  | @atom v h =>
    refine .atom ?_
    cases v with
    | integer n =>
      rw [Evidence.canon] at hc
      split at hc
      · cases hc
        rfl
      · cases hc
    | arr elements => cases h
    | obj entries => cases h
    | _ => cases hc <;> rfl
  | arr filled h ih =>
    obtain ⟨cs, hcs, rfl⟩ := canon_arr_eq_some.1 hc
    refine .arr (fun hole => filled ?_) fun d hd => ?_
    · obtain ⟨o, ho, hform⟩ := (mem_elements_form hcs none).1 hole
      exact elementForm_eq_none.1 hform ▸ ho
    · obtain ⟨o, ho, hform⟩ := (mem_elements_form hcs (some d)).1 hd
      obtain ⟨w, rfl, hw⟩ := elementForm_eq_some.1 hform
      exact ih w ho hw
  | obj h ih =>
    obtain ⟨cs, hcs, -, rfl⟩ := canon_obj_eq_some.1 hc
    refine .obj fun e he => ?_
    obtain ⟨e', he', hform⟩ := (mem_entries_form hcs e).1 (mem_sortOn.1 he)
    exact ih e' he' (entryForm_eq_some.1 hform).2.1

/-! ## Forms as documents -/

/-- What a form is made of. -/
inductive IsForm : JsValue → Prop
  | null : IsForm .null
  | bool (b : Bool) : IsForm (.bool b)
  | str (s : String) : IsForm (.str s)
  | arr {elements : List (Option JsValue)} (h : ∀ v, some v ∈ elements → IsForm v) : IsForm (.arr elements)
  | obj {entries : List (String × JsValue)} (keys : (entries.map (·.1)).Nodup) (h : ∀ e ∈ entries, IsForm e.2) :
    IsForm (.obj entries)

theorem isForm_canon {v c : JsValue} (h : canon nfc v = some c) : IsForm c := by
  induction v using JsValue.ind generalizing c with
  | atom v hatom =>
    cases v with
    | null => cases h; exact .null
    | bool b => cases h; exact .bool b
    | str s => cases h; exact .str _
    | bigint n => cases h; exact .str _
    | integer n =>
      rw [canon] at h
      split at h
      · cases h
        exact .str _
      · cases h
    | arr elements => cases hatom
    | obj entries => cases hatom
    | _ => cases h
  | arr elements ih =>
    obtain ⟨cs, hcs, rfl⟩ := canon_arr_eq_some.1 h
    refine .arr fun c hc => ?_
    obtain ⟨o, ho, hform⟩ := (mem_elements_form hcs (some c)).1 hc
    obtain ⟨v, rfl, hv⟩ := elementForm_eq_some.1 hform
    exact ih v ho hv
  | obj entries ih =>
    obtain ⟨cs, hcs, hnodup, rfl⟩ := canon_obj_eq_some.1 h
    refine .obj (((sortOn_perm entryKey cs).map (·.1)).nodup_iff.2 hnodup) fun e he => ?_
    obtain ⟨e', he', hform⟩ := (mem_entries_form hcs e).1 (mem_sortOn.1 he)
    exact ih e' he' (entryForm_eq_some.1 hform).2.1

/-- The form has its holes where the value has them. -/
theorem gapped_canon {v c : JsValue} (h : canon nfc v = some c) : Gapped c ↔ Gapped v := by
  induction v using JsValue.ind generalizing c with
  | atom v hatom =>
    have hform : c.isAtom = true := by
      cases v with
      | integer n =>
        rw [canon] at h
        split at h
        · cases h
          rfl
        · cases h
      | arr elements => cases hatom
      | obj entries => cases hatom
      | _ => cases h <;> rfl
    have hnone : ∀ u : JsValue, u.isAtom = true → ¬ Gapped u := by
      intro u hu hgapped
      cases hgapped <;> cases hu
    exact iff_of_false (hnone c hform) (hnone v hatom)
  | arr elements ih =>
    obtain ⟨cs, hcs, rfl⟩ := canon_arr_eq_some.1 h
    -- the form of an element is a hole exactly when the element is
    have hhole : none ∈ cs ↔ none ∈ elements := by
      rw [mem_elements_form hcs]
      simp only [elementForm_eq_none, exists_eq_right]
    have hlone : cs = [none] ↔ elements = [none] := by
      rw [canonElements_eq_some] at hcs
      constructor
      · rintro rfl
        rw [List.map_cons, List.map_nil, List.map_eq_singleton_iff] at hcs
        obtain ⟨o, rfl, ho⟩ := hcs
        rw [elementForm_eq_none.1 ho]
      · rintro rfl
        have hsome : [none].map some = cs.map some := hcs
        exact (List.map_injective_iff.2 (Option.some_injective _) hsome).symm
    constructor
    · intro hgapped
      cases hgapped with
      | here hole beside => exact .here (hhole.1 hole) (mt hlone.2 beside)
      | element mem gapped =>
        obtain ⟨o, ho, hform⟩ := (mem_elements_form hcs _).1 mem
        obtain ⟨v, rfl, hv⟩ := elementForm_eq_some.1 hform
        exact .element ho ((ih v ho hv).1 gapped)
    · intro hgapped
      cases hgapped with
      | here hole beside => exact .here (hhole.2 hole) (mt hlone.1 beside)
      | @element _ v mem gapped =>
        obtain ⟨c, hc, hmem⟩ := form_of_element hcs mem
        exact .element hmem ((ih v mem hc).2 gapped)
  | obj entries ih =>
    obtain ⟨cs, hcs, -, rfl⟩ := canon_obj_eq_some.1 h
    constructor
    · intro hgapped
      cases hgapped with
      | value mem gapped =>
        obtain ⟨e, he, hform⟩ := (mem_entries_form hcs _).1 (mem_sortOn.1 mem)
        exact .value he ((ih e he (entryForm_eq_some.1 hform).2.1).1 gapped)
    · intro hgapped
      cases hgapped with
      | @value _ e mem gapped =>
        -- a gapped value is an array or an object, so its entry is not dropped
        have hdefined : e.2.isUndefined = false := by
          obtain ⟨k, v⟩ := e
          cases gapped <;> rfl
        obtain ⟨c, hc, hmem⟩ := form_of_entry hcs mem hdefined
        exact .value (e := (nfc.normalize e.1, c)) (mem_sortOn.2 hmem) ((ih e mem hc).2 gapped)

mutual

/-- The JSON a form is written as. -/
def JsValue.document : JsValue → Json
  | .bool b => .bool b
  | .str s => .str s
  | .arr elements => .arr (JsValue.documentElements elements)
  | .obj entries => .obj (JsValue.documentEntries entries)
  | _ => .null

def JsValue.documentElements : List (Option JsValue) → List Json
  | [] => []
  | none :: elements => JsValue.documentElements elements
  | some v :: elements => v.document :: JsValue.documentElements elements

def JsValue.documentEntries : List (String × JsValue) → List (String × Json)
  | [] => []
  | (k, v) :: entries => (k, v.document) :: JsValue.documentEntries entries

end

theorem documentEntries_eq (entries : List (String × JsValue)) :
    JsValue.documentEntries entries = entries.map fun e => (e.1, e.2.document) := by
  induction entries with
  | nil => rfl
  | cons e entries ih => rw [JsValue.documentEntries, ih, List.map_cons]

theorem ofFields_eq (fields : List (String × Json)) :
    JsValue.ofFields fields = fields.map fun f => (f.1, JsValue.ofJson f.2) := by
  induction fields with
  | nil => rfl
  | cons f fields ih => rw [JsValue.ofFields, ih, List.map_cons]

theorem stringifyFields_eq (fields : List (String × Json)) :
    Json.stringifyFields fields = fields.map fun f => Json.quote f.1 ++ ":" ++ f.2.stringify := by
  induction fields with
  | nil => rfl
  | cons f fields ih => rw [Json.stringifyFields, ih, List.map_cons]

/-- Properties under keys of their own are set as they come. -/
theorem foldl_setProperty {entries : List (String × JsValue)} :
    ∀ {before : List (String × JsValue)}, ((before ++ entries).map (·.1)).Nodup →
      entries.foldl setProperty before = before ++ entries := by
  induction entries with
  | nil => exact fun _ => (List.append_nil _).symm
  | cons e entries ih =>
    intro before hnodup
    have hnew : e.1 ∉ before.map (·.1) := by
      rw [List.map_append, List.map_cons] at hnodup
      intro hmem
      exact (List.disjoint_of_nodup_append hnodup) hmem List.mem_cons_self
    have hset : setProperty before e = before ++ [e] := if_neg hnew
    rw [List.foldl_cons, hset, ih (by rwa [List.append_assoc]), List.append_assoc]
    rfl

/-- Without holes beside other elements, the elements of an array are all there, or there is one hole. -/
theorem elements_of_not_gapped {elements : List (Option JsValue)} (h : ¬ Gapped (.arr elements)) :
    elements = [none] ∨ ∃ vs : List JsValue, elements = vs.map some ∧ ∀ v ∈ vs, ¬ Gapped v := by
  by_cases hlone : elements = [none]
  · exact Or.inl hlone
  refine Or.inr ?_
  have hall : ∀ o ∈ elements, ∃ v, o = some v := by
    intro o ho
    cases o with
    | none => exact absurd (.here ho hlone) h
    | some v => exact ⟨v, rfl⟩
  obtain ⟨vs, hvs⟩ := exists_mapM_id hall
  rw [mapM_id_eq_some] at hvs
  refine ⟨vs, hvs, fun v hv hgapped => h ?_⟩
  exact .element (hvs ▸ List.mem_map_of_mem hv) hgapped

theorem documentElements_eq (vs : List JsValue) :
    JsValue.documentElements (vs.map some) = vs.map JsValue.document := by
  induction vs with
  | nil => rfl
  | cons v vs ih => rw [List.map_cons, JsValue.documentElements, ih, List.map_cons]

/-- Such a form is written as its document, and the document is read as the closed form. -/
theorem document_spec {c : JsValue} (h : IsForm c) (hgapped : ¬ Gapped c) :
    c.document.stringify = c.text ∧ JsValue.ofJson c.document = c.close := by
  induction h with
  | null => exact ⟨rfl, rfl⟩
  | bool b => exact ⟨rfl, rfl⟩
  | str s => exact ⟨rfl, rfl⟩
  | @arr elements h ih =>
    rcases elements_of_not_gapped hgapped with rfl | ⟨vs, rfl, hvs⟩
    · exact ⟨rfl, rfl⟩
    have helements : ∀ v ∈ vs, v.document.stringify = v.text ∧ JsValue.ofJson v.document = v.close :=
      fun v hv => ih v (List.mem_map_of_mem hv) (hvs v hv)
    -- the list walks of both sides go element by element
    have hlists : ∀ ws : List JsValue, (∀ v ∈ ws, v.document.stringify = v.text ∧ JsValue.ofJson v.document = v.close) →
        Json.stringifyElements (ws.map JsValue.document) = JsValue.textElements (ws.map some) ∧
          JsValue.ofElements (ws.map JsValue.document) = (ws.map some).map (Option.map JsValue.close) := by
      intro ws
      induction ws with
      | nil => exact fun _ => ⟨rfl, rfl⟩
      | cons w ws ihws =>
        intro hws
        obtain ⟨htexts, hvalues⟩ := ihws fun v hv => hws v (List.mem_cons_of_mem w hv)
        obtain ⟨htext, hvalue⟩ := hws w List.mem_cons_self
        refine ⟨congrArg₂ List.cons htext htexts, ?_⟩
        exact congrArg₂ List.cons (congrArg some hvalue) hvalues
    obtain ⟨htexts, hvalues⟩ := hlists vs helements
    have hlone : vs.map some ≠ [none] := by
      intro h
      cases vs with
      | nil => cases h
      | cons v vs => cases h
    rw [close_arr hlone, JsValue.document, documentElements_eq]
    exact ⟨by rw [Json.stringify, JsValue.text, htexts], by rw [JsValue.ofJson, hvalues]⟩
  | @obj entries keys h ih =>
    have hentries : ∀ e ∈ entries, e.2.document.stringify = e.2.text ∧ JsValue.ofJson e.2.document = e.2.close :=
      fun e he => ih e he fun hgap => hgapped (.value he hgap)
    rw [close_obj, JsValue.document, documentEntries_eq]
    constructor
    · rw [Json.stringify, JsValue.text, stringifyFields_eq, textEntries_eq, List.map_map]
      refine congrArg (fun texts => "\x7b" ++ ",".intercalate texts ++ "\x7d") (List.map_congr_left fun e he => ?_)
      rw [Function.comp_apply, (hentries e he).1]
    · have hvalues : (entries.map fun e => (e.1, e.2.document)).map (fun f => (f.1, JsValue.ofJson f.2)) =
          entries.map fun e => (e.1, e.2.close) := by
        rw [List.map_map]
        refine List.map_congr_left fun e he => ?_
        rw [Function.comp_apply, (hentries e he).2]
      rw [JsValue.ofJson, ofFields_eq, hvalues, foldl_setProperty]
      · rfl
      · rw [List.nil_append, List.map_map]
        exact keys

end IcttSentinel.Evidence
