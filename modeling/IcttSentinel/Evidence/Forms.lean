/-
Canonical forms. Every accepted value has one: its strings normalised, its counts decimal strings, its keys
normalised and sorted and none of them undefined. Canonical JSON is the text of the form.
-/
import IcttSentinel.Evidence.Canonical

namespace IcttSentinel.Evidence

open IcttSentinel.Lib

/-! ## Induction over values -/

/-- Neither an array nor an object. -/
def JsValue.isAtom : JsValue → Bool
  | .arr _ => false
  | .obj _ => false
  | _ => true

@[elab_as_elim]
theorem JsValue.ind {motive : JsValue → Prop} (atom : ∀ v, v.isAtom = true → motive v)
    (arr : ∀ elements, (∀ v, some v ∈ elements → motive v) → motive (.arr elements))
    (obj : ∀ entries, (∀ e ∈ entries, motive e.2) → motive (.obj entries)) (v : JsValue) : motive v :=
  @JsValue.rec motive (fun elements => ∀ v, some v ∈ elements → motive v) (fun entries => ∀ e ∈ entries, motive e.2)
    (fun o => ∀ v, o = some v → motive v) (fun e => motive e.2)
    (atom _ rfl) (atom _ rfl) (fun _ => atom _ rfl) (fun _ => atom _ rfl) (fun _ => atom _ rfl) (fun _ => atom _ rfl)
    (atom _ rfl) (atom _ rfl) (atom _ rfl) (atom _ rfl) arr obj
    (fun _ h => absurd h List.not_mem_nil)
    (fun _ _ hhead htail v hv => (List.mem_cons.1 hv).elim (fun h => hhead v h.symm) (htail v))
    (fun _ h => absurd h List.not_mem_nil)
    (fun _ _ hhead htail e he => (List.mem_cons.1 he).elim (fun h => h ▸ hhead) (htail e))
    (fun _ h => nomatch h) (fun _ hv _ h => Option.some_inj.1 h ▸ hv) (fun _ _ h => h) v

/-! ## Forms and their texts -/

section Canon

variable (nfc : Nfc)

mutual

/-- The canonical form of a value, where it is accepted. -/
def canon : JsValue → Option JsValue
  | .null => some .null
  | .bool b => some (.bool b)
  | .str s => some (.str (nfc.normalize s))
  | .bigint n => some (.str (toString n))
  | .integer n => if isSafeInteger n then some (.str (toString n)) else none
  | .arr elements => (canonElements elements).map .arr
  | .obj entries =>
    match canonEntries entries with
    | none => none
    | some entries => if (entries.map (·.1)).Nodup then some (.obj (sortOn entryKey entries)) else none
  | .undefined => none
  | .fraction => none
  | .function => none
  | .symbol => none
  | .classInstance => none

def canonElements : List (Option JsValue) → Option (List (Option JsValue))
  | [] => some []
  | none :: elements => (canonElements elements).map (none :: ·)
  | some v :: elements =>
    match canon v with
    | none => none
    | some v => (canonElements elements).map (some v :: ·)

def canonEntries : List (String × JsValue) → Option (List (String × JsValue))
  | [] => some []
  | (_, .undefined) :: entries => canonEntries entries
  | (k, v) :: entries =>
    match canon v with
    | none => none
    | some v => (canonEntries entries).map ((nfc.normalize k, v) :: ·)

end

end Canon

mutual

/-- The text of a canonical form. -/
def JsValue.text : JsValue → String
  | .null => "null"
  | .bool b => if b then "true" else "false"
  | .str s => Json.quote s
  | .arr elements => "[" ++ ",".intercalate (JsValue.textElements elements) ++ "]"
  | .obj entries => "\x7b" ++ ",".intercalate (JsValue.textEntries entries) ++ "\x7d"
  | _ => ""

def JsValue.textElements : List (Option JsValue) → List String
  | [] => []
  | none :: elements => "" :: JsValue.textElements elements
  | some v :: elements => v.text :: JsValue.textElements elements

def JsValue.textEntries : List (String × JsValue) → List String
  | [] => []
  | (k, v) :: entries => (Json.quote k ++ ":" ++ v.text) :: JsValue.textEntries entries

end

theorem textEntries_eq (entries : List (String × JsValue)) :
    JsValue.textEntries entries = entries.map fun e => Json.quote e.1 ++ ":" ++ e.2.text := by
  induction entries with
  | nil => rfl
  | cons e entries ih => rw [JsValue.textEntries, ih, List.map_cons]

/-! ## Both passes at once -/

theorem toOption_map {ε α β : Type} (f : α → β) (x : Except ε α) : (x.map f).toOption = x.toOption.map f := by
  cases x <;> rfl

section Written

variable {nfc : Nfc}

theorem normalize_decimal (n : Int) : nfc.normalize (toString n) = toString n := by
  refine nfc.ascii _ fun c hc => ?_
  by_contra hbig
  have hdigit : c.isDigit = false := by
    have hnine : '9'.toNat = 57 := rfl
    rw [Bool.eq_false_iff, ne_eq, Char.isDigit_iff_toNat]
    omega
  refine notMem_decimal hdigit ?_ n hc
  rintro rfl
  exact hbig (by decide)

/-- Conversion and serialisation write the text of the form, where there is one. -/
def Writes (nfc : Nfc) (v : JsValue) : Prop := ∀ p q,
  ((toCanonicalValue nfc v p).toOption.bind fun u => (canonicalise nfc u q).toOption) = (canon nfc v).map JsValue.text

theorem writes_atom (v : JsValue) (h : v.isAtom = true) : Writes nfc v := by
  intro p q
  cases v with
  | str s =>
    show some (Json.quote (nfc.normalize (nfc.normalize s))) = _
    rw [nfc.idempotent]
    rfl
  | integer n =>
    unfold toCanonicalValue canon
    split
    · show some (Json.quote (nfc.normalize (toString n))) = _
      rw [normalize_decimal]
      rfl
    · rfl
  | arr elements => exact nomatch h
  | obj entries => exact nomatch h
  | _ => rfl

theorem writes_elements {elements : List (Option JsValue)} (h : ∀ v, some v ∈ elements → Writes nfc v) (p q : String)
    (i j : Nat) :
    ((toCanonicalElements nfc elements p i).toOption.bind fun us => (canonicaliseElements nfc us q j).toOption) =
      (canonElements nfc elements).map JsValue.textElements := by
  induction elements generalizing i j with
  | nil => rfl
  | cons o elements ih =>
    -- both walks stop at the first element without a canonical form, whatever the indices they report
    have hrest := ih (fun v hv => h v (List.mem_cons_of_mem o hv)) (i + 1) (j + 1)
    cases o with
    | none =>
      unfold toCanonicalElements canonElements
      cases hus : toCanonicalElements nfc elements p (i + 1) with
      | error e =>
        rw [hus] at hrest
        rw [Option.map_eq_none_iff.1 hrest.symm]
        rfl
      | ok us =>
        rw [hus] at hrest
        change (canonicaliseElements nfc us q (j + 1)).toOption = _ at hrest
        show (canonicaliseElements nfc (none :: us) q j).toOption = _
        rw [canonicaliseElements, toOption_map, hrest, Option.map_map, Option.map_map]
        rfl
    | some v =>
      have hv := h v List.mem_cons_self (p ++ "[" ++ toString i ++ "]") (q ++ "[" ++ toString j ++ "]")
      unfold toCanonicalElements canonElements
      cases hu : toCanonicalValue nfc v (p ++ "[" ++ toString i ++ "]") with
      | error e =>
        rw [hu] at hv
        rw [Option.map_eq_none_iff.1 hv.symm]
        rfl
      | ok u =>
        rw [hu] at hv
        change (canonicalise nfc u _).toOption = _ at hv
        cases hus : toCanonicalElements nfc elements p (i + 1) with
        | error e =>
          rw [hus] at hrest
          rw [Option.map_eq_none_iff.1 hrest.symm]
          cases canon nfc v <;> rfl
        | ok us =>
          rw [hus] at hrest
          change (canonicaliseElements nfc us q (j + 1)).toOption = _ at hrest
          show (canonicaliseElements nfc (some u :: us) q j).toOption = _
          rw [canonicaliseElements]
          cases ht : canonicalise nfc u (q ++ "[" ++ toString j ++ "]") with
          | error e =>
            rw [ht] at hv
            rw [Option.map_eq_none_iff.1 hv.symm]
            rfl
          | ok t =>
            rw [ht] at hv
            obtain ⟨c, hc, rfl⟩ := Option.map_eq_some_iff.1 hv.symm
            show ((canonicaliseElements nfc us q (j + 1)).map (c.text :: ·)).toOption = _
            rw [toOption_map, hrest, hc, Option.map_map, Option.map_map]
            rfl

theorem toCanonicalEntries_cons {v : JsValue} (h : v ≠ .undefined) (k : String) (entries : List (String × JsValue))
    (p : String) : toCanonicalEntries nfc ((k, v) :: entries) p =
      match toCanonicalValue nfc v (p ++ "." ++ k) with
      | .error e => .error e
      | .ok v => (toCanonicalEntries nfc entries p).map ((k, v) :: ·) := by
  cases v with
  | undefined => exact absurd rfl h
  | _ => rfl

theorem canonEntries_cons {v : JsValue} (h : v ≠ .undefined) (k : String) (entries : List (String × JsValue)) :
    canonEntries nfc ((k, v) :: entries) =
      match canon nfc v with
      | none => none
      | some v => (canonEntries nfc entries).map ((nfc.normalize k, v) :: ·) := by
  rw [canonEntries]
  exact h

/-- The entries with their texts, where each has one. -/
def settle (entries : List (String × Except NonCanonicalValueError String)) : Option (List (String × String)) :=
  entries.mapM fun e => e.2.toOption.map (e.1, ·)

theorem settle_cons_ok (k t : String) (entries : List (String × Except NonCanonicalValueError String)) :
    settle ((k, .ok t) :: entries) = (settle entries).map ((k, t) :: ·) := by
  unfold settle
  rw [List.mapM_cons]
  cases entries.mapM fun e : String × Except NonCanonicalValueError String => e.2.toOption.map (e.1, ·) <;> rfl

theorem settle_cons_error (k : String) (err : NonCanonicalValueError)
    (entries : List (String × Except NonCanonicalValueError String)) : settle ((k, .error err) :: entries) = none := by
  unfold settle
  rw [List.mapM_cons]
  rfl

theorem settle_eq_some {entries : List (String × Except NonCanonicalValueError String)} {ts : List (String × String)}
    (h : settle entries = some ts) : entries = ts.map fun t => (t.1, .ok t.2) := by
  induction entries generalizing ts with
  | nil =>
    cases h
    rfl
  | cons e entries ih =>
    obtain ⟨k, result⟩ := e
    cases result with
    | error err =>
      rw [settle_cons_error] at h
      cases h
    | ok t =>
      rw [settle_cons_ok] at h
      obtain ⟨ts', hts', rfl⟩ := Option.map_eq_some_iff.1 h
      rw [List.map_cons, ← ih hts']

theorem settle_eq_none {entries : List (String × Except NonCanonicalValueError String)} (h : settle entries = none) :
    ∃ e ∈ entries, ∃ err, e.2 = .error err := by
  induction entries with
  | nil => cases h
  | cons e entries ih =>
    obtain ⟨k, result⟩ := e
    cases result with
    | error err => exact ⟨_, List.mem_cons_self, err, rfl⟩
    | ok t =>
      rw [settle_cons_ok, Option.map_eq_none_iff] at h
      obtain ⟨e, he, herror⟩ := ih h
      exact ⟨e, List.mem_cons_of_mem _ he, herror⟩

theorem writes_entries {entries : List (String × JsValue)} (h : ∀ e ∈ entries, Writes nfc e.2) (p q : String) :
    ((toCanonicalEntries nfc entries p).toOption.bind fun us => settle (canonicaliseEntries nfc us q)) =
      (canonEntries nfc entries).map fun cs => cs.map fun e => (e.1, e.2.text) := by
  induction entries with
  | nil => rfl
  | cons e entries ih =>
    obtain ⟨k, v⟩ := e
    have hrest := ih fun e he => h e (List.mem_cons_of_mem _ he)
    by_cases hundefined : v = .undefined
    -- both walks skip an undefined value
    · subst hundefined
      exact hrest
    have hv := h (k, v) List.mem_cons_self (p ++ "." ++ k) (q ++ "." ++ nfc.normalize k)
    rw [toCanonicalEntries_cons hundefined, canonEntries_cons hundefined]
    cases hu : toCanonicalValue nfc v (p ++ "." ++ k) with
    | error e =>
      rw [hu] at hv
      rw [Option.map_eq_none_iff.1 hv.symm]
      rfl
    | ok u =>
      rw [hu] at hv
      change (canonicalise nfc u _).toOption = _ at hv
      cases hus : toCanonicalEntries nfc entries p with
      | error e =>
        rw [hus] at hrest
        rw [Option.map_eq_none_iff.1 hrest.symm]
        cases canon nfc v <;> rfl
      | ok us =>
        rw [hus] at hrest
        change settle (canonicaliseEntries nfc us q) = _ at hrest
        show settle ((nfc.normalize k, canonicalise nfc u (q ++ "." ++ nfc.normalize k)) ::
          canonicaliseEntries nfc us q) = _
        cases ht : canonicalise nfc u (q ++ "." ++ nfc.normalize k) with
        | error e =>
          rw [ht] at hv
          rw [Option.map_eq_none_iff.1 hv.symm, settle_cons_error]
          rfl
        | ok t =>
          rw [ht] at hv
          obtain ⟨c, hc, rfl⟩ := Option.map_eq_some_iff.1 hv.symm
          rw [settle_cons_ok, hrest, hc, Option.map_map, Option.map_map]
          rfl

/-- An object is written where all its entries are, and no two have one normalised key. -/
theorem canonicalise_obj (us : List (String × JsValue)) (q : String) :
    (canonicalise nfc (.obj us) q).toOption = (settle (canonicaliseEntries nfc us q)).bind fun ts =>
      if (ts.map (·.1)).Nodup then
        some ("\x7b" ++ ",".intercalate ((sortOn entryKey ts).map fun t => Json.quote (nfc.normalize t.1) ++ ":" ++ t.2) ++ "\x7d")
      else none := by
  rw [canonicalise]
  generalize canonicaliseEntries nfc us q = entries
  cases hts : settle entries with
  | some ts =>
    have hentries := settle_eq_some hts
    have hkeys : entries.map (·.1) = ts.map (·.1) := by
      rw [hentries, List.map_map]
      rfl
    have hsorted : sortOn entryKey entries = (sortOn entryKey ts).map fun t => (t.1, .ok t.2) := by
      rw [hentries]
      exact sortOn_map (fun _ => rfl) ts
    -- once every value has a text, writing the sorted entries cannot fail
    have hmapM : ∀ l : List (String × String),
        (l.map fun t => ((t.1, .ok t.2) : String × Except NonCanonicalValueError String)).mapM
          (fun entry => entry.2.map fun text => Json.quote (nfc.normalize entry.1) ++ ":" ++ text) =
        .ok (l.map fun t => Json.quote (nfc.normalize t.1) ++ ":" ++ t.2) := by
      intro l
      induction l with
      | nil => rfl
      | cons t l ih =>
        rw [List.map_cons, List.mapM_cons, ih]
        rfl
    show (if (entries.map (·.1)).Nodup then _ else _ : Except NonCanonicalValueError String).toOption = _
    rw [hkeys, hsorted, hmapM]
    show _ = if (ts.map (·.1)).Nodup then _ else none
    split <;> rfl
  | none =>
    obtain ⟨e, he, err, herror⟩ := settle_eq_none hts
    -- a value without a text fails the whole object, wherever its key is sorted
    have hfails : ∀ l : List (String × Except NonCanonicalValueError String), e ∈ l → ∃ err',
        l.mapM (fun entry => entry.2.map fun text => Json.quote (nfc.normalize entry.1) ++ ":" ++ text) = .error err' := by
      intro l hl
      induction l with
      | nil => exact absurd hl List.not_mem_nil
      | cons a l ih =>
        rw [List.mapM_cons]
        rcases List.mem_cons.1 hl with rfl | hl
        · rw [herror]
          exact ⟨err, rfl⟩
        · obtain ⟨err', herr'⟩ := ih hl
          rw [herr']
          cases a.2 with
          | error err'' => exact ⟨err'', rfl⟩
          | ok t => exact ⟨err', rfl⟩
    obtain ⟨err', herr'⟩ := hfails (sortOn entryKey entries) (mem_sortOn.2 he)
    show (if (entries.map (·.1)).Nodup then _ else _ : Except NonCanonicalValueError String).toOption = none
    rw [herr']
    split <;> rfl

theorem mem_canonEntries {entries cs : List (String × JsValue)} (h : canonEntries nfc entries = some cs) :
    ∀ e ∈ cs, nfc.normalize e.1 = e.1 := by
  induction entries generalizing cs with
  | nil =>
    cases h
    exact fun e he => absurd he List.not_mem_nil
  | cons e entries ih =>
    obtain ⟨k, v⟩ := e
    by_cases hundefined : v = .undefined
    · subst hundefined
      exact ih h
    rw [canonEntries_cons hundefined] at h
    cases hc : canon nfc v with
    | none =>
      rw [hc] at h
      cases h
    | some c =>
      rw [hc] at h
      obtain ⟨cs', hcs', rfl⟩ := Option.map_eq_some_iff.1 h
      intro e he
      rcases List.mem_cons.1 he with rfl | he
      · exact nfc.idempotent k
      · exact ih hcs' e he

theorem writes (v : JsValue) : Writes nfc v := by
  induction v using JsValue.ind with
  | atom v h => exact writes_atom v h
  | arr elements ih =>
    intro p q
    have helements := writes_elements ih p q 0 0
    rw [toCanonicalValue, canon, toOption_map, Option.map_map]
    cases hus : toCanonicalElements nfc elements p 0 with
    | error e =>
      rw [hus] at helements
      rw [Option.map_eq_none_iff.1 helements.symm]
      rfl
    | ok us =>
      rw [hus] at helements
      change (canonicaliseElements nfc us q 0).toOption = _ at helements
      show (canonicalise nfc (.arr us) q).toOption = _
      rw [canonicalise, toOption_map, helements, Option.map_map]
      rfl
  | obj entries ih =>
    intro p q
    have hentries := writes_entries ih p q
    rw [toCanonicalValue, canon, toOption_map]
    cases hus : toCanonicalEntries nfc entries p with
    | error e =>
      rw [hus] at hentries
      rw [Option.map_eq_none_iff.1 hentries.symm]
      rfl
    | ok us =>
      rw [hus] at hentries
      change settle (canonicaliseEntries nfc us q) = _ at hentries
      show (canonicalise nfc (.obj us) q).toOption = _
      rw [canonicalise_obj, hentries]
      cases hcs : canonEntries nfc entries with
      | none => rfl
      | some cs =>
        -- the keys of the form are normalised, so writing normalises them to themselves
        have hnormal := mem_canonEntries hcs
        have hkeys : (cs.map fun e => (e.1, e.2.text)).map (·.1) = cs.map (·.1) := by
          rw [List.map_map]
          rfl
        have hsorted : sortOn entryKey (cs.map fun e => (e.1, e.2.text)) =
            (sortOn entryKey cs).map fun e => (e.1, e.2.text) :=
          sortOn_map (fun _ => rfl) cs
        show (if ((cs.map fun e => (e.1, e.2.text)).map (·.1)).Nodup then _ else none) =
          (if (cs.map (·.1)).Nodup then some (JsValue.obj (sortOn entryKey cs)) else none).map JsValue.text
        rw [hkeys, hsorted]
        split
        · rw [Option.map_some, JsValue.text, textEntries_eq, List.map_map]
          refine congrArg (fun texts => some ("\x7b" ++ ",".intercalate texts ++ "\x7d")) (List.map_congr_left fun e he => ?_)
          rw [Function.comp_apply, hnormal e (mem_sortOn.1 he)]
        · rfl

/-- What is accepted has a canonical form, and its output is the text of the form. -/
theorem canonicalStringify_eq (v : JsValue) :
    (canonicalStringify nfc v).toOption = (canon nfc v).map JsValue.text := by
  rw [← writes v "$" "$", canonicalStringify]
  cases toCanonicalValue nfc v "$" <;> rfl

theorem canonicalStringify_ok_iff {v : JsValue} {s : String} :
    canonicalStringify nfc v = .ok s ↔ ∃ c, canon nfc v = some c ∧ c.text = s := by
  rw [← Option.map_eq_some_iff, ← canonicalStringify_eq]
  cases canonicalStringify nfc v with
  | error e => exact ⟨fun h => (nomatch h), fun h => (nomatch h)⟩
  | ok t => exact ⟨fun h => congrArg Except.toOption h, fun h => congrArg Except.ok (Option.some_inj.1 h)⟩

end Written

end IcttSentinel.Evidence
