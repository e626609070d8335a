/-
Objects of plain texts: they have a canonical form when their fields do, and what stands under a key, or in
an array, can be told from the form.
-/
import IcttSentinel.Evidence.RoundTrip

namespace IcttSentinel.Evidence

open IcttSentinel.Lib

variable {nfc : Nfc}

/-- A text of ASCII characters, which normalisation leaves alone. -/
def Ascii (s : String) : Prop := ∀ c ∈ s.toList, c.toNat < 128

instance (s : String) : Decidable (Ascii s) := inferInstanceAs (Decidable (∀ c ∈ s.toList, c.toNat < 128))

theorem Ascii.normalize {s : String} (h : Ascii s) : nfc.normalize s = s := nfc.ascii s h

/-- Plain texts are told apart. -/
theorem Ascii.inj {s s' : String} (h : Ascii s) (h' : Ascii s') (heq : nfc.normalize s = nfc.normalize s') : s = s' := by
  rwa [h.normalize, h'.normalize] at heq

theorem canon_ascii {s : String} (h : Ascii s) : canon nfc (.str s) = some (.str s) := by
  rw [canon, h.normalize]

/-! ## Having a form -/

theorem exists_canon_obj {entries : List (String × JsValue)} (hkeys : ∀ e ∈ entries, nfc.normalize e.1 = e.1)
    (hnodup : (entries.map (·.1)).Nodup) (h : ∀ e ∈ entries, ∃ c, canon nfc e.2 = some c) :
    ∃ c, canon nfc (.obj entries) = some c := by
  have hentries : ∃ cs, canonEntries nfc entries = some cs ∧ cs.map (·.1) = entries.map (·.1) := by
    clear hnodup
    induction entries with
    | nil => exact ⟨[], rfl, rfl⟩
    | cons e entries ih =>
      obtain ⟨k, v⟩ := e
      obtain ⟨c, hc⟩ := h (k, v) List.mem_cons_self
      obtain ⟨cs, hcs, hmap⟩ := ih (fun e he => hkeys e (List.mem_cons_of_mem _ he)) fun e he => h e (List.mem_cons_of_mem _ he)
      have hdefined : v ≠ .undefined := by
        rintro rfl
        cases hc
      refine ⟨(k, c) :: cs, ?_, ?_⟩
      · have hk : nfc.normalize k = k := hkeys (k, v) List.mem_cons_self
        have hc' : canon nfc v = some c := hc
        rw [canonEntries_cons hdefined, hc', hcs, hk]
        rfl
      · rw [List.map_cons, List.map_cons, hmap]
  obtain ⟨cs, hcs, hmap⟩ := hentries
  exact ⟨_, canon_obj_eq_some.2 ⟨cs, hcs, hmap ▸ hnodup, rfl⟩⟩

theorem exists_canon_record {entries : List (String × JsValue)} (names : List String) (hnames : entries.map (·.1) = names)
    (hplain : ∀ name ∈ names, Ascii name) (hnodup : names.Nodup)
    (h : entries.Forall fun e => ∃ c, canon nfc e.2 = some c) : ∃ c, canon nfc (.obj entries) = some c := by
  subst hnames
  exact exists_canon_obj (fun e he => (hplain _ (List.mem_map_of_mem he)).normalize) hnodup (List.forall_iff_forall_mem.1 h)

/-- A table written as an object, each row under the name of its key. -/
theorem exists_canon_rows {κ β : Type} (name : κ → String) {encode : β → JsValue} {rows : List (κ × β)}
    (hnames : ∀ row ∈ rows, nfc.normalize (name row.1) = name row.1) (hnodup : (rows.map fun row => name row.1).Nodup)
    (h : ∀ row ∈ rows, ∃ c, canon nfc (encode row.2) = some c) :
    ∃ c, canon nfc (.obj (rows.map fun row => (name row.1, encode row.2))) = some c := by
  apply exists_canon_obj
  · intro e he
    obtain ⟨row, hrow, rfl⟩ := List.mem_map.1 he
    exact hnames row hrow
  · rwa [List.map_map]
  · intro e he
    obtain ⟨row, hrow, rfl⟩ := List.mem_map.1 he
    exact h row hrow

theorem exists_canon_array {α : Type} {encode : α → JsValue} {l : List α} (h : ∀ a ∈ l, ∃ c, canon nfc (encode a) = some c) :
    ∃ c, canon nfc (.array encode l) = some c := by
  have helements : ∃ cs, canonElements nfc (l.map fun a => some (encode a)) = some cs := by
    induction l with
    | nil => exact ⟨[], rfl⟩
    | cons a l ih =>
      obtain ⟨c, hc⟩ := h a List.mem_cons_self
      obtain ⟨cs, hcs⟩ := ih fun b hb => h b (List.mem_cons_of_mem _ hb)
      refine ⟨some c :: cs, ?_⟩
      rw [List.map_cons, canonElements, hc, hcs]
      rfl
  obtain ⟨cs, hcs⟩ := helements
  exact ⟨_, canon_arr_eq_some.2 ⟨cs, hcs, rfl⟩⟩

/-! ## Telling apart -/

theorem eq_of_map_eq {α β : Type} {f : α → β} : ∀ {l l' : List α}, (∀ a ∈ l, ∀ b ∈ l', f a = f b → a = b) →
    l.map f = l'.map f → l = l'
  | [], [], _, _ => rfl
  | [], _ :: _, _, h => by cases h
  | _ :: _, [], _, h => by cases h
  | a :: l, b :: l', hf, h => by
    rw [List.map_cons, List.map_cons, List.cons.injEq] at h
    obtain rfl := hf a List.mem_cons_self b List.mem_cons_self h.1
    rw [eq_of_map_eq (fun x hx y hy => hf x (List.mem_cons_of_mem _ hx) y (List.mem_cons_of_mem _ hy)) h.2]

/-- Rows under the same keys are the same when they hold the same values. -/
theorem eq_of_values {κ β : Type} : ∀ {l l' : List (κ × β)}, l.map Prod.fst = l'.map Prod.fst →
    (∀ k v v', (k, v) ∈ l → (k, v') ∈ l' → v = v') → l = l'
  | [], [], _, _ => rfl
  | [], _ :: _, h, _ => by cases h
  | _ :: _, [], h, _ => by cases h
  | (k, v) :: l, (k', v') :: l', h, hvalues => by
    rw [List.map_cons, List.map_cons, List.cons.injEq] at h
    obtain rfl : k = k' := h.1
    obtain rfl := hvalues k v v' List.mem_cons_self List.mem_cons_self
    rw [eq_of_values h.2 fun k v v' hv hv' => hvalues k v v' (List.mem_cons_of_mem _ hv) (List.mem_cons_of_mem _ hv')]

/-- Objects of one form have values of one form under each key. -/
theorem canon_field {entries entries' : List (String × JsValue)} {c : JsValue} (h : canon nfc (.obj entries) = some c)
    (h' : canon nfc (.obj entries') = some c) {k : String} {v v' : JsValue} (hv : (k, v) ∈ entries)
    (hv' : (k, v') ∈ entries') (hdefined : v.isUndefined = false) (hdefined' : v'.isUndefined = false) :
    canon nfc v = canon nfc v' := by
  obtain ⟨cs, hcs, hnodup, rfl⟩ := canon_obj_eq_some.1 h
  obtain ⟨cs', hcs', -, heq⟩ := canon_obj_eq_some.1 h'
  obtain ⟨d, hd, hmem⟩ := form_of_entry hcs hv hdefined
  obtain ⟨d', hd', hmem'⟩ := form_of_entry hcs' hv' hdefined'
  have hsame : ∀ e, e ∈ cs' → e ∈ cs := by
    intro e he
    have hsorted : sortOn entryKey cs = sortOn entryKey cs' := JsValue.obj.inj heq
    rw [← mem_sortOn (f := entryKey), hsorted]
    exact mem_sortOn.2 he
  have hone : (nfc.normalize k, d) = (nfc.normalize k, d') :=
    List.inj_on_of_nodup_map hnodup hmem (hsame _ hmem') rfl
  have hd' : canon nfc v' = some d' := hd'
  have hd : canon nfc v = some d := hd
  have hforms : d = d' := congrArg Prod.snd hone
  rw [hd, hd', hforms]

/-- Tables with the same keys, written as objects of one form, are the same when their values can be told apart. -/
theorem rows_of_canon {κ β : Type} (name : κ → String) {encode : β → JsValue} {rows rows' : List (κ × β)} {c : JsValue}
    (h : canon nfc (.obj (rows.map fun row => (name row.1, encode row.2))) = some c)
    (h' : canon nfc (.obj (rows'.map fun row => (name row.1, encode row.2))) = some c)
    (hkeys : rows.map Prod.fst = rows'.map Prod.fst) (hdefined : ∀ b, (encode b).isUndefined = false)
    (hinj : ∀ k b b', (k, b) ∈ rows → (k, b') ∈ rows' → canon nfc (encode b) = canon nfc (encode b') → b = b') :
    rows = rows' := by
  refine eq_of_values hkeys fun k b b' hb hb' => hinj k b b' hb hb' ?_
  exact canon_field h h' (List.mem_map_of_mem hb) (List.mem_map_of_mem hb') (hdefined b) (hdefined b')

/-- Texts under one key are the same up to normalisation. -/
theorem canon_text {entries entries' : List (String × JsValue)} {c : JsValue} (h : canon nfc (.obj entries) = some c)
    (h' : canon nfc (.obj entries') = some c) (k : String) {s s' : String} (hs : (k, .str s) ∈ entries)
    (hs' : (k, .str s') ∈ entries') : nfc.normalize s = nfc.normalize s' := by
  have hforms := canon_field h h' hs hs' rfl rfl
  rw [canon, canon, Option.some_inj] at hforms
  exact JsValue.str.inj hforms

/-- Numbers under one key are the same. -/
theorem canon_number {entries entries' : List (String × JsValue)} {c : JsValue} (h : canon nfc (.obj entries) = some c)
    (h' : canon nfc (.obj entries') = some c) (k : String) {m n : Int} (hm : (k, .str (toString m)) ∈ entries)
    (hn : (k, .str (toString n)) ∈ entries') : m = n := by
  have htexts := canon_text h h' k hm hn
  rw [normalize_decimal, normalize_decimal] at htexts
  exact decimal_injective htexts

/-- Arrays of one form hold elements of one form. -/
theorem canon_array {α : Type} {encode : α → JsValue} {l l' : List α} {c : JsValue} (h : canon nfc (.array encode l) = some c)
    (h' : canon nfc (.array encode l') = some c) :
    l.map (fun a => canon nfc (encode a)) = l'.map fun a => canon nfc (encode a) := by
  obtain ⟨cs, hcs, rfl⟩ := canon_arr_eq_some.1 h
  obtain ⟨cs', hcs', heq⟩ := canon_arr_eq_some.1 h'
  obtain rfl : cs = cs' := JsValue.arr.inj heq
  have hforms := (canonElements_eq_some.1 hcs).trans (canonElements_eq_some.1 hcs').symm
  rw [List.map_map, List.map_map] at hforms
  have hinj : Function.Injective (fun o : Option JsValue => o.map some) := Option.map_injective (Option.some_injective _)
  apply List.map_injective_iff.2 hinj
  rw [List.map_map, List.map_map]
  exact hforms

end IcttSentinel.Evidence
