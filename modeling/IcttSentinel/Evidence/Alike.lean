/-
The identifications canonical JSON declares, as the equivalence they generate. Two accepted values are identified
exactly when they have one canonical form.
-/
import IcttSentinel.Evidence.Forms

namespace IcttSentinel.Evidence

open IcttSentinel.Lib

/-! ## The identifications -/

/-- Values that are equal but for the normalisation of their strings, numbers against their decimal strings, the
insertion order of their keys, and keys with an undefined value. -/
inductive Alike (nfc : Nfc) : JsValue → JsValue → Prop
  | refl (v : JsValue) : Alike nfc v v
  | symm {v w : JsValue} : Alike nfc v w → Alike nfc w v
  | trans {u v w : JsValue} : Alike nfc u v → Alike nfc v w → Alike nfc u w
  | normalized (s : String) : Alike nfc (.str s) (.str (nfc.normalize s))
  | bigint (n : Int) : Alike nfc (.bigint n) (.str (toString n))
  | integer {n : Int} (h : isSafeInteger n = true) : Alike nfc (.integer n) (.str (toString n))
  | element {v w : JsValue} (before after : List (Option JsValue)) :
    Alike nfc v w → Alike nfc (.arr (before ++ some v :: after)) (.arr (before ++ some w :: after))
  | value {v w : JsValue} (k : String) (before after : List (String × JsValue)) :
    Alike nfc v w → Alike nfc (.obj (before ++ (k, v) :: after)) (.obj (before ++ (k, w) :: after))
  | key (k : String) (v : JsValue) (before after : List (String × JsValue)) :
    Alike nfc (.obj (before ++ (k, v) :: after)) (.obj (before ++ (nfc.normalize k, v) :: after))
  | dropped (k : String) (before after : List (String × JsValue)) :
    Alike nfc (.obj (before ++ (k, .undefined) :: after)) (.obj (before ++ after))
  | order {entries entries' : List (String × JsValue)} (h : entries.Perm entries') :
    Alike nfc (.obj entries) (.obj entries')

/-! ## Forms of lists -/

theorem mapM_id_eq_some {α : Type} {l : List (Option α)} {m : List α} : l.mapM id = some m ↔ l = m.map some := by
  induction l generalizing m with
  | nil => cases m <;> simp
  | cons o l ih =>
    rw [List.mapM_cons]
    cases o with
    | none => cases m <;> simp
    | some a =>
      cases m with
      | nil => cases l.mapM id <;> simp
      | cons b m =>
        cases hl : l.mapM id with
        | none => simp [← ih, hl]
        | some m' => simp [← ih, hl]

theorem exists_mapM_id {α : Type} {l : List (Option α)} (h : ∀ o ∈ l, ∃ a, o = some a) : ∃ m, l.mapM id = some m := by
  refine ⟨l.filterMap id, mapM_id_eq_some.2 ?_⟩
  induction l with
  | nil => rfl
  | cons o l ih =>
    obtain ⟨a, rfl⟩ := h o List.mem_cons_self
    exact congrArg (some a :: ·) (ih fun o ho => h o (List.mem_cons_of_mem _ ho))

theorem mapM_id_of_perm {α : Type} {l l' : List (Option α)} (h : l.Perm l') :
    (l.mapM id = none ∧ l'.mapM id = none) ∨ ∃ m m', l.mapM id = some m ∧ l'.mapM id = some m' ∧ m.Perm m' := by
  have hsome : ∀ {k k' : List (Option α)} {m : List α}, k.Perm k' → k.mapM id = some m → ∃ m', k'.mapM id = some m' := by
    intro k k' m hk hm
    rw [mapM_id_eq_some] at hm
    subst hm
    refine exists_mapM_id fun o ho => ?_
    obtain ⟨a, -, ha⟩ := List.mem_map.1 (hk.mem_iff.2 ho)
    exact ⟨a, ha.symm⟩
  cases hm : l.mapM id with
  | some m =>
    obtain ⟨m', hm'⟩ := hsome h hm
    refine Or.inr ⟨m, m', rfl, hm', ?_⟩
    rw [mapM_id_eq_some] at hm hm'
    rw [hm, hm'] at h
    exact (List.map_perm_map_iff (Option.some_injective α)).1 h
  | none =>
    cases hm' : l'.mapM id with
    | none => exact Or.inl ⟨rfl, rfl⟩
    | some m' =>
      obtain ⟨m, hm''⟩ := hsome h.symm hm'
      rw [hm] at hm''
      cases hm''

variable {nfc : Nfc}

def JsValue.isUndefined : JsValue → Bool
  | .undefined => true
  | _ => false

/-- The form of an element, where it has one. -/
def elementForm (nfc : Nfc) : Option JsValue → Option (Option JsValue)
  | none => some none
  | some v => (canon nfc v).map some

/-- The form of an entry that is not left out, where it has one. -/
def entryForm (nfc : Nfc) (e : String × JsValue) : Option (Option (String × JsValue)) :=
  if e.2.isUndefined then none else some ((canon nfc e.2).map (nfc.normalize e.1, ·))

theorem elementForm_eq_none {o : Option JsValue} : elementForm nfc o = some none ↔ o = none := by
  cases o with
  | none => exact iff_of_true rfl rfl
  | some v => cases hc : canon nfc v <;> simp [elementForm, hc]

theorem elementForm_eq_some {o : Option JsValue} {c : JsValue} :
    elementForm nfc o = some (some c) ↔ ∃ v, o = some v ∧ canon nfc v = some c := by
  cases o with
  | none => simp [elementForm]
  | some v => cases hc : canon nfc v <;> simp [elementForm, hc]

theorem entryForm_eq_some {e c : String × JsValue} : entryForm nfc e = some (some c) ↔
    e.2.isUndefined = false ∧ canon nfc e.2 = some c.2 ∧ nfc.normalize e.1 = c.1 := by
  obtain ⟨k, c⟩ := c
  unfold entryForm
  split
  · rename_i h
    simp [h]
  · rename_i h
    cases hc : canon nfc e.2 with
    | none => simp
    | some c' => simp [h, and_comm]

theorem canonElements_eq (elements : List (Option JsValue)) :
    canonElements nfc elements = (elements.map (elementForm nfc)).mapM id := by
  induction elements with
  | nil => rfl
  | cons o elements ih =>
    rw [List.map_cons, List.mapM_cons, ← ih]
    cases o with
    | none =>
      rw [canonElements]
      cases canonElements nfc elements <;> rfl
    | some v =>
      rw [canonElements]
      cases hc : canon nfc v with
      | none => simp [elementForm, hc]
      | some c => cases hcs : canonElements nfc elements <;> simp [elementForm, hc]

theorem canonEntries_eq (entries : List (String × JsValue)) :
    canonEntries nfc entries = (entries.filterMap (entryForm nfc)).mapM id := by
  induction entries with
  | nil => rfl
  | cons e entries ih =>
    obtain ⟨k, v⟩ := e
    by_cases hundefined : v = .undefined
    · subst hundefined
      exact ih
    have hform : entryForm nfc (k, v) = some ((canon nfc v).map (nfc.normalize k, ·)) := by
      cases v <;> first | rfl | exact absurd rfl hundefined
    rw [canonEntries_cons hundefined, List.filterMap_cons, hform]
    show _ = (_ :: entries.filterMap (entryForm nfc)).mapM id
    rw [List.mapM_cons, ← ih]
    cases hc : canon nfc v with
    | none => rfl
    | some c => cases canonEntries nfc entries <;> rfl

theorem canonElements_eq_some {elements cs : List (Option JsValue)} :
    canonElements nfc elements = some cs ↔ elements.map (elementForm nfc) = cs.map some := by
  rw [canonElements_eq, mapM_id_eq_some]

theorem canonEntries_eq_some {entries cs : List (String × JsValue)} :
    canonEntries nfc entries = some cs ↔ entries.filterMap (entryForm nfc) = cs.map some := by
  rw [canonEntries_eq, mapM_id_eq_some]

theorem mem_elements_form {elements cs : List (Option JsValue)} (h : canonElements nfc elements = some cs)
    (o : Option JsValue) : o ∈ cs ↔ ∃ o' ∈ elements, elementForm nfc o' = some o := by
  rw [canonElements_eq_some] at h
  rw [← List.mem_map, h, List.mem_map]
  simp only [Option.some_inj, exists_eq_right]

theorem mem_entries_form {entries cs : List (String × JsValue)} (h : canonEntries nfc entries = some cs)
    (e : String × JsValue) : e ∈ cs ↔ ∃ e' ∈ entries, entryForm nfc e' = some (some e) := by
  rw [canonEntries_eq_some] at h
  rw [← List.mem_filterMap, h, List.mem_map]
  simp only [Option.some_inj, exists_eq_right]

/-- Every element of an accepted array has a form. -/
theorem form_of_element {elements cs : List (Option JsValue)} (h : canonElements nfc elements = some cs) {v : JsValue}
    (hv : some v ∈ elements) : ∃ c, canon nfc v = some c ∧ some c ∈ cs := by
  have hmem : elementForm nfc (some v) ∈ cs.map some := canonElements_eq_some.1 h ▸ List.mem_map_of_mem hv
  obtain ⟨o, ho, hform⟩ := List.mem_map.1 hmem
  obtain ⟨c, hc, rfl⟩ := Option.map_eq_some_iff.1 hform.symm
  exact ⟨c, hc, ho⟩

/-- Every entry of an accepted object has a form, unless it is left out. -/
theorem form_of_entry {entries cs : List (String × JsValue)} (h : canonEntries nfc entries = some cs)
    {e : String × JsValue} (he : e ∈ entries) (hdefined : e.2.isUndefined = false) :
    ∃ c, canon nfc e.2 = some c ∧ (nfc.normalize e.1, c) ∈ cs := by
  have hform : entryForm nfc e = some ((canon nfc e.2).map (nfc.normalize e.1, ·)) := by
    unfold entryForm
    rw [hdefined]
    rfl
  have hmem : (canon nfc e.2).map (nfc.normalize e.1, ·) ∈ cs.map some :=
    canonEntries_eq_some.1 h ▸ List.mem_filterMap.2 ⟨e, he, hform⟩
  obtain ⟨d, hd, heq⟩ := List.mem_map.1 hmem
  obtain ⟨c, hc, rfl⟩ := Option.map_eq_some_iff.1 heq.symm
  exact ⟨c, hc, hd⟩

/-- The form of an object: the forms of its entries, no two under one key, in the order of the keys. -/
theorem canon_obj_eq_some {entries : List (String × JsValue)} {c : JsValue} : canon nfc (.obj entries) = some c ↔
    ∃ cs, canonEntries nfc entries = some cs ∧ (cs.map (·.1)).Nodup ∧ c = .obj (sortOn entryKey cs) := by
  rw [canon]
  cases hcs : canonEntries nfc entries with
  | none => simp
  | some cs =>
    by_cases hnodup : (cs.map (·.1)).Nodup
    · simp only [if_pos hnodup, Option.some_inj]
      constructor
      · rintro rfl
        exact ⟨cs, rfl, hnodup, rfl⟩
      · rintro ⟨_, rfl, -, rfl⟩
        rfl
    · simp only [if_neg hnodup, reduceCtorEq, false_iff]
      rintro ⟨_, hcs', hnodup', -⟩
      rw [Option.some_inj] at hcs'
      exact hnodup (hcs' ▸ hnodup')

theorem canon_arr_eq_some {elements : List (Option JsValue)} {c : JsValue} : canon nfc (.arr elements) = some c ↔
    ∃ cs, canonElements nfc elements = some cs ∧ c = .arr cs := by
  rw [canon, Option.map_eq_some_iff]
  exact exists_congr fun cs => and_congr_right fun _ => eq_comm

/-! ## One form for what is identified -/

theorem canon_obj_of_perm {entries entries' : List (String × JsValue)} (h : entries.Perm entries') :
    canon nfc (.obj entries) = canon nfc (.obj entries') := by
  rw [canon, canon, canonEntries_eq, canonEntries_eq]
  rcases mapM_id_of_perm (h.filterMap (entryForm nfc)) with ⟨hnone, hnone'⟩ | ⟨m, m', hm, hm', hperm⟩
  · rw [hnone, hnone']
  · rw [hm, hm']
    show (if (m.map (·.1)).Nodup then some (JsValue.obj (sortOn entryKey m)) else none) =
      if (m'.map (·.1)).Nodup then some (JsValue.obj (sortOn entryKey m')) else none
    have hkeys := (hperm.map (·.1)).nodup_iff
    by_cases hnodup : (m.map (·.1)).Nodup
    · rw [if_pos hnodup, if_pos (hkeys.1 hnodup)]
      refine congrArg (fun es => some (JsValue.obj es)) (sortOn_eq_of_perm (fun a ha b hb hab => ?_) hperm)
      exact List.inj_on_of_nodup_map hnodup ha hb (codeUnits_injective hab)
    · rw [if_neg hnodup, if_neg (mt hkeys.2 hnodup)]

theorem canon_obj_of_forms {entries entries' : List (String × JsValue)}
    (h : entries.filterMap (entryForm nfc) = entries'.filterMap (entryForm nfc)) :
    canon nfc (.obj entries) = canon nfc (.obj entries') := by
  rw [canon, canon, canonEntries_eq, canonEntries_eq, h]

theorem Alike.canon_eq {v w : JsValue} (h : Alike nfc v w) :
    canon nfc v = canon nfc w ∧ v.isUndefined = w.isUndefined := by
  induction h with
  | refl v => exact ⟨rfl, rfl⟩
  | symm _ ih => exact ⟨ih.1.symm, ih.2.symm⟩
  | trans _ _ ih ih' => exact ⟨ih.1.trans ih'.1, ih.2.trans ih'.2⟩
  | normalized s =>
    refine ⟨?_, rfl⟩
    rw [canon, canon, nfc.idempotent]
  | bigint n =>
    refine ⟨?_, rfl⟩
    rw [canon, canon, normalize_decimal]
  | integer hsafe =>
    refine ⟨?_, rfl⟩
    rw [canon, canon, normalize_decimal, if_pos hsafe]
  | element before after _ ih =>
    refine ⟨?_, rfl⟩
    rw [canon, canon, canonElements_eq, canonElements_eq, List.map_append, List.map_append, List.map_cons, List.map_cons,
      elementForm, elementForm, ih.1]
  | value k before after _ ih =>
    refine ⟨canon_obj_of_forms ?_, rfl⟩
    -- the two values are written alike and are dropped alike
    have hform : ∀ {v w : JsValue}, canon nfc v = canon nfc w ∧ v.isUndefined = w.isUndefined →
        entryForm nfc (k, v) = entryForm nfc (k, w) := by
      rintro v w ⟨hcanon, hundefined⟩
      simp only [entryForm, hcanon, hundefined]
    rw [List.filterMap_append, List.filterMap_append, List.filterMap_cons, List.filterMap_cons, hform ih]
  | key k v before after =>
    refine ⟨canon_obj_of_forms ?_, rfl⟩
    have hform : entryForm nfc (nfc.normalize k, v) = entryForm nfc (k, v) := by
      simp only [entryForm, nfc.idempotent]
    rw [List.filterMap_append, List.filterMap_append, List.filterMap_cons, List.filterMap_cons, hform]
  | dropped k before after =>
    refine ⟨canon_obj_of_forms ?_, rfl⟩
    rw [List.filterMap_append, List.filterMap_append, List.filterMap_cons]
    rfl
  | order hperm => exact ⟨canon_obj_of_perm hperm, rfl⟩

/-! ## Every accepted value and its form -/

theorem alike_elements {elements cs : List (Option JsValue)} (before : List (Option JsValue))
    (h : ∀ v, some v ∈ elements → ∀ c, canon nfc v = some c → Alike nfc v c)
    (hcs : canonElements nfc elements = some cs) : Alike nfc (.arr (before ++ elements)) (.arr (before ++ cs)) := by
  induction elements generalizing before cs with
  | nil =>
    cases hcs
    exact .refl _
  | cons o elements ih =>
    have hrest : ∀ v, some v ∈ elements → ∀ c, canon nfc v = some c → Alike nfc v c :=
      fun v hv => h v (List.mem_cons_of_mem o hv)
    cases o with
    | none =>
      rw [canonElements] at hcs
      obtain ⟨cs', hcs', rfl⟩ := Option.map_eq_some_iff.1 hcs
      have htail := ih (before ++ [none]) hrest hcs'
      rwa [List.append_assoc, List.append_assoc] at htail
    | some v =>
      rw [canonElements] at hcs
      cases hc : canon nfc v with
      | none =>
        rw [hc] at hcs
        cases hcs
      | some c =>
        rw [hc] at hcs
        obtain ⟨cs', hcs', rfl⟩ := Option.map_eq_some_iff.1 hcs
        have htail := ih (before ++ [some c]) hrest hcs'
        rw [List.append_assoc, List.append_assoc] at htail
        exact (Alike.element before elements (h v List.mem_cons_self c hc)).trans htail

theorem alike_entries {entries cs : List (String × JsValue)} (before : List (String × JsValue))
    (h : ∀ e ∈ entries, ∀ c, canon nfc e.2 = some c → Alike nfc e.2 c)
    (hcs : canonEntries nfc entries = some cs) : Alike nfc (.obj (before ++ entries)) (.obj (before ++ cs)) := by
  induction entries generalizing before cs with
  | nil =>
    cases hcs
    exact .refl _
  | cons e entries ih =>
    obtain ⟨k, v⟩ := e
    have hrest : ∀ e ∈ entries, ∀ c, canon nfc e.2 = some c → Alike nfc e.2 c :=
      fun e he => h e (List.mem_cons_of_mem _ he)
    by_cases hundefined : v = .undefined
    · subst hundefined
      exact (Alike.dropped k before entries).trans (ih before hrest hcs)
    rw [canonEntries_cons hundefined] at hcs
    cases hc : canon nfc v with
    | none =>
      rw [hc] at hcs
      cases hcs
    | some c =>
      rw [hc] at hcs
      obtain ⟨cs', hcs', rfl⟩ := Option.map_eq_some_iff.1 hcs
      have htail := ih (before ++ [(nfc.normalize k, c)]) hrest hcs'
      rw [List.append_assoc, List.append_assoc] at htail
      have hvalue := Alike.value k before entries (h (k, v) List.mem_cons_self c hc)
      exact hvalue.trans ((Alike.key k c before entries).trans htail)

/-- A value is identified with its form. -/
theorem alike_canon {v c : JsValue} (h : canon nfc v = some c) : Alike nfc v c := by
  induction v using JsValue.ind generalizing c with
  | atom v hatom =>
    cases v with
    | null => cases h; exact .refl _
    | bool b => cases h; exact .refl _
    | str s => cases h; exact .normalized s
    | bigint n => cases h; exact .bigint n
    | integer n =>
      rw [canon] at h
      split at h
      · cases h
        exact .integer ‹_›
      · cases h
    | arr elements => cases hatom
    | obj entries => cases hatom
    | _ => cases h
  | arr elements ih =>
    obtain ⟨cs, hcs, rfl⟩ := canon_arr_eq_some.1 h
    exact alike_elements [] (fun v hv c hc => ih v hv hc) hcs
  | obj entries ih =>
    obtain ⟨cs, hcs, -, rfl⟩ := canon_obj_eq_some.1 h
    have hentries := alike_entries [] (fun e he c hc => ih e he hc) hcs
    exact hentries.trans (.order (sortOn_perm entryKey cs).symm)

/-- Accepted values are identified exactly when they have one form. -/
theorem alike_iff {v w c d : JsValue} (hv : canon nfc v = some c) (hw : canon nfc w = some d) :
    Alike nfc v w ↔ c = d := by
  constructor
  · intro h
    have heq := h.canon_eq.1
    rw [hv, hw] at heq
    exact Option.some_inj.1 heq
  · rintro rfl
    exact (alike_canon hv).trans (alike_canon hw).symm

/-- A form is its own. -/
theorem canon_of_canon {v c : JsValue} (h : canon nfc v = some c) : canon nfc c = some c := by
  rw [← (alike_canon h).canon_eq.1, h]

end IcttSentinel.Evidence
