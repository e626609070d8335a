/-
The canonical text of a configuration document, packages/config/src/canonical.ts: "every evaluation is bound to the
manifest and policy it was produced under, so the digest has to be stable against things that carry no meaning". Plain
documents share their text exactly when they are equal up to the order of their keys.
-/
import IcttSentinel.Lib.Bracketed
import IcttSentinel.Lib.Sorting
import IcttSentinel.Lib.Traversal

namespace IcttSentinel.Config

open IcttSentinel.Lib

/-! ## Values -/

inductive ConfigNumber where
  | integer (n : IntegralNumber)
  | fraction
  | nonFinite

/-- What `canonicalize` can be handed: a record has its own keys with their values, an array has no holes, and `other` is
what has another `typeof`. -/
inductive ConfigValue where
  | undefined
  | null
  | bool (b : Bool)
  | str (s : String)
  | bigint (n : Int)
  | number (n : ConfigNumber)
  | other (type : String)
  | arr (elements : List ConfigValue)
  | obj (entries : List (String × ConfigValue))

/-- What the sort of the entries looks at. -/
def entryUnits {α : Type} (entry : String × α) : List Nat := codeUnits entry.1

/-- A key with what its value gives. -/
def entryPart (entry : String × Except String String) : Except String String :=
  entry.2.map fun text => Json.quote entry.1 ++ ":" ++ text

mutual

/-- `canonicalize`: keys sorted by code unit, no whitespace, arrays in their order. An error is a `TypeError`. -/
def canonicalize : ConfigValue → Except String String
  | .null => .ok "null"
  | .bool b => .ok (if b then "true" else "false")
  | .str s => .ok (Json.quote s)
  | .bigint n => .ok (Json.quote (toString n))
  | .number .nonFinite => .error "cannot canonicalize a non-finite number"
  | .number .fraction => .error "cannot canonicalize a fractional number"
  | .number (.integer n) => .ok (numberText n)
  | .arr elements => (canonicalizeElements elements).map fun texts => "[" ++ ",".intercalate texts ++ "]"
  | .obj entries =>
    ((sortOn entryUnits (canonicalizeEntries entries)).mapM entryPart).map fun parts =>
      "\x7b" ++ ",".intercalate parts ++ "\x7d"
  | .undefined => .error "cannot canonicalize a value of type undefined"
  | .other type => .error ("cannot canonicalize a value of type " ++ type)

def canonicalizeElements : List ConfigValue → Except String (List String)
  | [] => .ok []
  | v :: elements =>
    match canonicalize v with
    | .error e => .error e
    | .ok text => (canonicalizeElements elements).map (text :: ·)

/-- The keys with what their values give, an explicit `undefined` being absence. An error stands until its key's turn. -/
def canonicalizeEntries : List (String × ConfigValue) → List (String × Except String String)
  | [] => []
  | (_, .undefined) :: entries => canonicalizeEntries entries
  | (k, v) :: entries => (k, canonicalize v) :: canonicalizeEntries entries

end

/-- `canonicalDigest`, with the digest in hexadecimal as a parameter. -/
def canonicalDigest (sha256 : String → String) (value : ConfigValue) : Except String String :=
  (canonicalize value).map fun text => "sha256:" ++ sha256 text

/-! ## Documents -/

/-- Nested records, arrays, strings, booleans, null and integers. -/
inductive PlainDocument : ConfigValue → Prop
  | null : PlainDocument .null
  | bool (b : Bool) : PlainDocument (.bool b)
  | str (s : String) : PlainDocument (.str s)
  | integer (n : IntegralNumber) : PlainDocument (.number (.integer n))
  | arr {elements : List ConfigValue} (h : ∀ v ∈ elements, PlainDocument v) : PlainDocument (.arr elements)
  | obj {entries : List (String × ConfigValue)} (hkeys : (entries.map Prod.fst).Nodup)
    (h : ∀ e ∈ entries, PlainDocument e.2) : PlainDocument (.obj entries)

/-- Values that are equal but for the order of the keys of their records. -/
inductive SameDocument : ConfigValue → ConfigValue → Prop
  | refl (v : ConfigValue) : SameDocument v v
  | symm {v w : ConfigValue} : SameDocument v w → SameDocument w v
  | trans {u v w : ConfigValue} : SameDocument u v → SameDocument v w → SameDocument u w
  | element {v w : ConfigValue} (before after : List ConfigValue) :
    SameDocument v w → SameDocument (.arr (before ++ v :: after)) (.arr (before ++ w :: after))
  | entry {v w : ConfigValue} (k : String) (before after : List (String × ConfigValue)) :
    SameDocument v w → SameDocument (.obj (before ++ (k, v) :: after)) (.obj (before ++ (k, w) :: after))
  | order {entries entries' : List (String × ConfigValue)} (h : entries.Perm entries') :
    SameDocument (.obj entries) (.obj entries')

def canonicalText (v : ConfigValue) : String := ((canonicalize v).toOption).getD ""

def entryText (e : String × ConfigValue) : String := Json.quote e.1 ++ ":" ++ canonicalText e.2

/-! ## Texts -/

theorem canonicalize_eq_text {v : ConfigValue} {text : String} (h : canonicalize v = .ok text) :
    canonicalize v = .ok (canonicalText v) := by
  rw [canonicalText, h]
  rfl

theorem canonicalizeElements_eq {elements : List ConfigValue}
    (h : ∀ v ∈ elements, canonicalize v = .ok (canonicalText v)) :
    canonicalizeElements elements = .ok (elements.map canonicalText) := by
  induction elements with
  | nil => rfl
  | cons v elements ih =>
    rw [canonicalizeElements, h v List.mem_cons_self, ih fun w hw => h w (List.mem_cons_of_mem v hw)]
    rfl

theorem canonicalizeEntries_eq {entries : List (String × ConfigValue)}
    (h : ∀ e ∈ entries, canonicalize e.2 = .ok (canonicalText e.2)) :
    canonicalizeEntries entries = entries.map fun e => (e.1, .ok (canonicalText e.2)) := by
  induction entries with
  | nil => rfl
  | cons e entries ih =>
    obtain ⟨k, v⟩ := e
    have hv := h _ List.mem_cons_self
    rw [canonicalizeEntries, hv, ih fun e he => h e (List.mem_cons_of_mem _ he)]
    · rfl
    · rintro rfl
      cases hv

theorem canonicalize_arr {elements : List ConfigValue} (h : ∀ v ∈ elements, canonicalize v = .ok (canonicalText v)) :
    canonicalize (.arr elements) = .ok ("[" ++ ",".intercalate (elements.map canonicalText) ++ "]") := by
  rw [canonicalize, canonicalizeElements_eq h]
  rfl

theorem canonicalize_obj {entries : List (String × ConfigValue)}
    (h : ∀ e ∈ entries, canonicalize e.2 = .ok (canonicalText e.2)) :
    canonicalize (.obj entries) =
      .ok ("\x7b" ++ ",".intercalate ((sortOn entryUnits entries).map entryText) ++ "\x7d") := by
  have hsorted : sortOn entryUnits (canonicalizeEntries entries) =
      (sortOn entryUnits entries).map fun e => (e.1, .ok (canonicalText e.2)) := by
    rw [canonicalizeEntries_eq h]
    exact sortOn_map (fun _ => rfl) entries
  have hparts : ((sortOn entryUnits entries).map fun e => (e.1, .ok (canonicalText e.2))).mapM entryPart =
      .ok ((sortOn entryUnits entries).map entryText) := by
    rw [mapM_eq_ok, List.forall₂_map_left_iff, List.forall₂_map_right_iff]
    exact List.forall₂_same.2 fun e _ => rfl
  rw [canonicalize, hsorted, hparts]
  rfl

/-- Plain documents have a text. -/
theorem PlainDocument.text {v : ConfigValue} (h : PlainDocument v) : canonicalize v = .ok (canonicalText v) := by
  induction h with
  | null => rfl
  | bool b => rfl
  | str s => rfl
  | integer n => rfl
  | arr h ih => exact canonicalize_eq_text (canonicalize_arr ih)
  | obj hkeys h ih => exact canonicalize_eq_text (canonicalize_obj ih)

theorem plain_arr {elements : List ConfigValue} : PlainDocument (.arr elements) ↔ ∀ v ∈ elements, PlainDocument v := by
  constructor
  · rintro ⟨⟩
    assumption
  · exact .arr

theorem plain_obj {entries : List (String × ConfigValue)} :
    PlainDocument (.obj entries) ↔ (entries.map Prod.fst).Nodup ∧ ∀ e ∈ entries, PlainDocument e.2 := by
  constructor
  · rintro ⟨⟩
    exact ⟨by assumption, by assumption⟩
  · rintro ⟨hkeys, h⟩
    exact .obj hkeys h

theorem canonicalText_arr {elements : List ConfigValue} (h : ∀ v ∈ elements, PlainDocument v) :
    canonicalText (.arr elements) = "[" ++ ",".intercalate (elements.map canonicalText) ++ "]" := by
  rw [canonicalText, canonicalize_arr fun v hv => (h v hv).text]
  rfl

theorem canonicalText_obj {entries : List (String × ConfigValue)} (h : ∀ e ∈ entries, PlainDocument e.2) :
    canonicalText (.obj entries) = "\x7b" ++ ",".intercalate ((sortOn entryUnits entries).map entryText) ++ "\x7d" := by
  rw [canonicalText, canonicalize_obj fun e he => (h e he).text]
  rfl

/-- The sorted entries are written from their keys and the texts of their values. -/
theorem entryTexts_eq (entries : List (String × ConfigValue)) : (sortOn entryUnits entries).map entryText =
    (sortOn entryUnits (entries.map fun e => (e.1, canonicalText e.2))).map fun part =>
      Json.quote part.1 ++ ":" ++ part.2 := by
  have hsorted : sortOn entryUnits (entries.map fun e => (e.1, canonicalText e.2)) =
      (sortOn entryUnits entries).map fun e => (e.1, canonicalText e.2) := sortOn_map (fun _ => rfl) entries
  rw [hsorted, List.map_map]
  rfl

/-! ## Equal documents -/

/-- Documents that are equal up to the order of their keys are plain together, and have one text. -/
theorem SameDocument.text {v w : ConfigValue} (h : SameDocument v w) :
    (PlainDocument v ↔ PlainDocument w) ∧ (PlainDocument v → canonicalText v = canonicalText w) := by
  induction h with
  | refl v => exact ⟨Iff.rfl, fun _ => rfl⟩
  | symm _ ih => exact ⟨ih.1.symm, fun hw => (ih.2 (ih.1.2 hw)).symm⟩
  | trans _ _ ih ih' => exact ⟨ih.1.trans ih'.1, fun hu => (ih.2 hu).trans (ih'.2 (ih.1.1 hu))⟩
  | element before after _ ih =>
    have hplain : ∀ {v w : ConfigValue}, (PlainDocument v ↔ PlainDocument w) →
        (∀ u ∈ before ++ v :: after, PlainDocument u) → ∀ u ∈ before ++ w :: after, PlainDocument u := by
      intro v w hvw hall u hu
      rw [List.forall_mem_append, List.forall_mem_cons] at hall
      rw [List.mem_append, List.mem_cons] at hu
      rcases hu with hu | rfl | hu
      · exact hall.1 u hu
      · exact hvw.1 hall.2.1
      · exact hall.2.2 u hu
    refine ⟨?_, fun h => ?_⟩
    · rw [plain_arr, plain_arr]
      exact ⟨hplain ih.1, hplain ih.1.symm⟩
    · rw [plain_arr] at h
      have hv := h _ (List.mem_append_right before List.mem_cons_self)
      rw [canonicalText_arr h, canonicalText_arr (hplain ih.1 h), List.map_append, List.map_append, List.map_cons,
        List.map_cons, ih.2 hv]
  | entry k before after _ ih =>
    have hplain : ∀ {v w : ConfigValue}, (PlainDocument v ↔ PlainDocument w) →
        (∀ e ∈ before ++ (k, v) :: after, PlainDocument e.2) → ∀ e ∈ before ++ (k, w) :: after, PlainDocument e.2 := by
      intro v w hvw hall e he
      rw [List.forall_mem_append, List.forall_mem_cons] at hall
      rw [List.mem_append, List.mem_cons] at he
      rcases he with he | rfl | he
      · exact hall.1 e he
      · exact hvw.1 hall.2.1
      · exact hall.2.2 e he
    have hkeys : ∀ v w : ConfigValue,
        (before ++ (k, v) :: after).map Prod.fst = (before ++ (k, w) :: after).map Prod.fst := by
      intro v w
      rw [List.map_append, List.map_append, List.map_cons, List.map_cons]
    refine ⟨?_, fun h => ?_⟩
    · rw [plain_obj, plain_obj]
      exact ⟨fun h => ⟨hkeys _ _ ▸ h.1, hplain ih.1 h.2⟩, fun h => ⟨hkeys _ _ ▸ h.1, hplain ih.1.symm h.2⟩⟩
    · obtain ⟨-, h⟩ := plain_obj.1 h
      have hv := h _ (List.mem_append_right before List.mem_cons_self)
      rw [canonicalText_obj h, canonicalText_obj (hplain ih.1 h), entryTexts_eq, entryTexts_eq, List.map_append,
        List.map_append, List.map_cons, List.map_cons, ih.2 hv]
  | @order entries entries' hperm =>
    refine ⟨?_, fun h => ?_⟩
    · rw [plain_obj, plain_obj, (hperm.map Prod.fst).nodup_iff]
      exact and_congr_right fun _ => ⟨fun h e he => h e (hperm.mem_iff.2 he), fun h e he => h e (hperm.mem_iff.1 he)⟩
    · obtain ⟨hkeys, h⟩ := plain_obj.1 h
      -- distinct keys have distinct units, so both orders sort to the same entries
      have hsorted : sortOn entryUnits entries = sortOn entryUnits entries' := by
        refine sortOn_eq_of_perm (fun e he e' he' hunits => ?_) hperm
        exact List.inj_on_of_nodup_map hkeys he he' (codeUnits_injective hunits)
      rw [canonicalText_obj h, canonicalText_obj fun e he => h e (hperm.mem_iff.2 he), hsorted]

theorem SameDocument.arr {elements elements' : List ConfigValue} (before : List ConfigValue)
    (h : List.Forall₂ SameDocument elements elements') :
    SameDocument (.arr (before ++ elements)) (.arr (before ++ elements')) := by
  induction h generalizing before with
  | nil => exact .refl _
  | @cons v w elements elements' hvw _ ih =>
    have hrest := ih (before ++ [w])
    rw [List.append_assoc, List.append_assoc] at hrest
    exact (SameDocument.element before elements hvw).trans hrest

theorem SameDocument.obj {entries entries' : List (String × ConfigValue)} (before : List (String × ConfigValue))
    (h : List.Forall₂ (fun e e' => e.1 = e'.1 ∧ SameDocument e.2 e'.2) entries entries') :
    SameDocument (.obj (before ++ entries)) (.obj (before ++ entries')) := by
  induction h generalizing before with
  | nil => exact .refl _
  | @cons e e' entries entries' hee _ ih =>
    obtain ⟨k, v⟩ := e
    obtain ⟨k', w⟩ := e'
    obtain ⟨rfl, hvw⟩ := hee
    have hrest := ih (before ++ [(k, w)])
    rw [List.append_assoc, List.append_assoc] at hrest
    exact (SameDocument.entry k before entries hvw).trans hrest

/-! ## Reading apart -/

def ConfigValue.kind : ConfigValue → Nat
  | .null => 0
  | .bool _ => 1
  | .str _ => 2
  | .number _ => 3
  | .arr _ => 4
  | .obj _ => 5
  | _ => 7

/-- The kind of a document, by the first character of its text. -/
def kindOf (c : Char) : Nat :=
  if c = 'n' then 0 else if c = 't' ∨ c = 'f' then 1 else if c = '"' then 2 else if c.isDigit ∨ c = '-' then 3
  else if c = '[' then 4 else if c = '\x7b' then 5 else 6

theorem toList_arr {elements : List ConfigValue} (h : ∀ v ∈ elements, PlainDocument v) (rest : List Char) :
    (canonicalText (.arr elements)).toList ++ rest =
      '[' :: (listed (fun v => (canonicalText v).toList) elements ++ ']' :: rest) := by
  rw [canonicalText_arr h, String.toList_append, String.toList_append, String.toList_intercalate, listed, List.map_map]
  simp [Function.comp_def]

theorem toList_obj {entries : List (String × ConfigValue)} (h : ∀ e ∈ entries, PlainDocument e.2) (rest : List Char) :
    (canonicalText (.obj entries)).toList ++ rest =
      '\x7b' :: (listed (fun e => (entryText e).toList) (sortOn entryUnits entries) ++ '\x7d' :: rest) := by
  rw [canonicalText_obj h, String.toList_append, String.toList_append, String.toList_intercalate, listed, List.map_map]
  simp [Function.comp_def]

theorem canonicalText_cons {v : ConfigValue} (h : PlainDocument v) :
    ∃ c cs, (canonicalText v).toList = c :: cs ∧ kindOf c = v.kind := by
  cases h with
  | null => exact ⟨'n', _, rfl, rfl⟩
  | bool b =>
    cases b with
    | false => exact ⟨'f', _, rfl, rfl⟩
    | true => exact ⟨'t', _, rfl, rfl⟩
  | str s => exact ⟨'"', _, Json.toList_quote s, rfl⟩
  | integer n =>
    obtain ⟨c, cs, hcons, hc⟩ := numberText_cons n
    refine ⟨c, cs, hcons, ?_⟩
    have hother : ∀ d : Char, d.isDigit = false → d ≠ '-' → c ≠ d := by
      rintro d hd hsign rfl
      rcases hc with hc | hc
      · rw [hd] at hc
        cases hc
      · exact hsign hc
    unfold kindOf
    rw [if_neg (hother 'n' (by decide) (by decide)),
      if_neg (not_or.2 ⟨hother 't' (by decide) (by decide), hother 'f' (by decide) (by decide)⟩),
      if_neg (hother '"' (by decide) (by decide)), if_pos hc]
    rfl
  | arr h =>
    have htext := toList_arr h []
    rw [List.append_nil] at htext
    exact ⟨'[', _, htext, rfl⟩
  | obj hkeys h =>
    have htext := toList_obj h []
    rw [List.append_nil] at htext
    exact ⟨'\x7b', _, htext, rfl⟩

/-- A key tells where it ends, and so does an entry if its value does. -/
theorem entry_told {e e' : String × ConfigValue}
    (h : ToldApart SameDocument (fun v => (canonicalText v).toList) e.2 e'.2) :
    ToldApart (fun e e' => e.1 = e'.1 ∧ SameDocument e.2 e'.2) (fun e => (entryText e).toList) e e' := by
  intro rest rest' hrest hrest' heq
  have htext : ∀ (e : String × ConfigValue) (tail : List Char),
      (entryText e).toList ++ tail = (Json.quote e.1).toList ++ ':' :: ((canonicalText e.2).toList ++ tail) := by
    intro e tail
    rw [entryText, String.toList_append, String.toList_append, List.append_assoc, List.append_assoc]
    rfl
  rw [htext, htext] at heq
  obtain ⟨hkey, heq⟩ := quote_told heq
  obtain ⟨hvalue, hrest⟩ := h rest rest' hrest hrest' (List.cons.inj heq).2
  exact ⟨⟨hkey, hvalue⟩, hrest⟩

/-- Texts that start alike are those of documents of one kind. -/
theorem kind_eq {v w : ConfigValue} (hv : PlainDocument v) (hw : PlainDocument w) {rest rest' : List Char}
    (h : (canonicalText v).toList ++ rest = (canonicalText w).toList ++ rest') : v.kind = w.kind := by
  obtain ⟨c, cs, htext, hkind⟩ := canonicalText_cons hv
  obtain ⟨c', cs', htext', hkind'⟩ := canonicalText_cons hw
  rw [htext, htext'] at h
  rw [← hkind, ← hkind', (List.cons.inj h).1]

/-- Plain documents are told apart by their texts, up to the order of their keys. -/
theorem PlainDocument.told {v : ConfigValue} (hv : PlainDocument v) :
    ∀ w, PlainDocument w → ToldApart SameDocument (fun v => (canonicalText v).toList) v w := by
  induction hv with
  | null =>
    intro w hw rest rest' _ _ heq
    have hkind := kind_eq .null hw heq
    cases hw with
    | null => exact ⟨.refl _, List.append_cancel_left heq⟩
    | _ => simp [ConfigValue.kind] at hkind
  | bool b =>
    intro w hw rest rest' _ _ heq
    have hkind := kind_eq (.bool b) hw heq
    cases hw with
    | bool b' =>
      cases b <;> cases b'
      · exact ⟨.refl _, List.append_cancel_left heq⟩
      · exact absurd (List.cons.inj heq).1 (by decide)
      · exact absurd (List.cons.inj heq).1 (by decide)
      · exact ⟨.refl _, List.append_cancel_left heq⟩
    | _ => simp [ConfigValue.kind] at hkind
  | str s =>
    intro w hw rest rest' _ _ heq
    have hkind := kind_eq (.str s) hw heq
    cases hw with
    | str t =>
      obtain ⟨rfl, hsame⟩ := quote_told heq
      exact ⟨.refl _, hsame⟩
    | _ => simp [ConfigValue.kind] at hkind
  | integer n =>
    intro w hw rest rest' hrest hrest' heq
    have hkind := kind_eq (.integer n) hw heq
    cases hw with
    | integer m =>
      obtain ⟨rfl, hsame⟩ := numberText_told hrest hrest' heq
      exact ⟨.refl _, hsame⟩
    | _ => simp [ConfigValue.kind] at hkind
  | @arr elements h ih =>
    intro w hw rest rest' _ _ heq
    have hkind := kind_eq (.arr h) hw heq
    cases hw with
    | @arr elements' h' =>
      -- no element starts with the closing bracket, so the lists end at the same place
      have hstart : ∀ u : ConfigValue, PlainDocument u → ∃ c cs, (canonicalText u).toList = c :: cs ∧ c ≠ ']' := by
        intro u hu
        obtain ⟨c, cs, hcons, hc⟩ := canonicalText_cons hu
        refine ⟨c, cs, hcons, ?_⟩
        rintro rfl
        cases hu <;> simp [ConfigValue.kind, kindOf] at hc
      dsimp only at heq
      rw [toList_arr h, toList_arr h'] at heq
      obtain ⟨hsame, hrest⟩ := listed_told (Or.inl rfl) (fun v hv w hw => ih v hv w (h' w hw))
        (fun v hv => hstart v (h v hv)) (fun w hw => hstart w (h' w hw)) (List.cons.inj heq).2
      exact ⟨SameDocument.arr [] hsame, hrest⟩
    | _ => simp [ConfigValue.kind] at hkind
  | @obj entries hkeys h ih =>
    intro w hw rest rest' _ _ heq
    have hkind := kind_eq (.obj hkeys h) hw heq
    cases hw with
    | @obj entries' hkeys' h' =>
      -- every entry starts with the quote of its key
      have hstart : ∀ e : String × ConfigValue, ∃ c cs, (entryText e).toList = c :: cs ∧ c ≠ '\x7d' := by
        intro e
        have htext : (entryText e).toList = '"' :: (e.1.toList.flatMap (fun c => (Json.escape c).toList) ++ ['"'] ++
            ":".toList ++ (canonicalText e.2).toList) := by
          rw [entryText, String.toList_append, String.toList_append, Json.toList_quote]
          rfl
        exact ⟨'"', _, htext, by decide⟩
      dsimp only at heq
      rw [toList_obj h, toList_obj h'] at heq
      obtain ⟨hsame, hrest⟩ := listed_told (Or.inr rfl)
        (fun e he e' he' => entry_told (ih e (mem_sortOn.1 he) e'.2 (h' e' (mem_sortOn.1 he'))))
        (fun e _ => hstart e) (fun e _ => hstart e) (List.cons.inj heq).2
      -- the text only knows the sorted entries, so the documents agree up to the order of their keys
      refine ⟨?_, hrest⟩
      exact (SameDocument.order (sortOn_perm entryUnits entries).symm).trans
        ((SameDocument.obj [] hsame).trans (.order (sortOn_perm entryUnits entries')))
    | _ => simp [ConfigValue.kind] at hkind

/-- Plain documents share their text exactly when they are equal up to the order of their keys. -/
theorem canonicalText_eq_iff {v w : ConfigValue} (hv : PlainDocument v) (hw : PlainDocument w) :
    canonicalText v = canonicalText w ↔ SameDocument v w := by
  constructor
  · intro h
    have hnone : Follows [] := fun c hc => by cases hc
    exact (hv.told w hw [] [] hnone hnone (congrArg (fun text : String => text.toList ++ []) h)).1
  · exact fun h => h.text.2 hv

end IcttSentinel.Config
