/-
Redaction of what may reach a log line or a report, packages/config/src/redact.ts: credential-shaped keys hide their
values, every string passes a redactor of its own, and an object that was met before is named circular.
-/
import IcttSentinel.Lib.Keyed

namespace IcttSentinel.Config.Redaction

open IcttSentinel.Lib

/-- A value without cycles. An object has an identity: its occurrences under one identity are one object. Of a record
and a Map there are the entries, in their order, a Map's keys as the text `redact` takes for them; `ν` are the primitives
it returns as they are: null, booleans, numbers, symbols. -/
inductive Value (ν : Type) where
  | undefined
  | primitive (p : ν)
  | bigint (n : Int)
  | string (s : String)
  | error (id : Nat) (name message : String) (stack : Option String) (cause : Value ν)
    (errors : Option (List (Value ν)))
  | array (id : Nat) (items : List (Value ν))
  | record (id : Nat) (entries : List (String × Value ν))
  | map (id : Nat) (entries : List (String × Value ν))
  | set (id : Nat) (items : List (Value ν))

/-- What redaction leaves of a value. -/
inductive Redacted (ν : Type) where
  | undefined
  | primitive (p : ν)
  | text (s : String)
  | record (entries : List (String × Redacted ν))
  | array (items : List (Redacted ν))

/-! ## Credential-shaped keys -/

def REDACTED : String := "[REDACTED]"

/-- Keys whose value is replaced entirely, matched after normalisation. -/
def SECRET_KEYS : List String :=
  ["url", "urls", "rpcurl", "endpoint", "endpointurl", "uri", "dsn", "connectionstring", "databaseurl", "token",
    "accesstoken", "refreshtoken", "idtoken", "bearer", "authorization", "auth", "proxyauthorization", "cookie",
    "setcookie", "apikey", "xapikey", "apisecret", "clientsecret", "secret", "password", "passwd", "pwd", "passphrase",
    "privatekey", "secretkey", "signingkey", "signer", "wallet", "keystore", "mnemonic", "seedphrase", "credential",
    "credentials", "headers", "header"]

/-- A letter in lower case. Of the letters beyond ASCII only the Kelvin sign and the dotted capital I have an ASCII letter
in theirs. -/
def lowerCase (c : Char) : Char :=
  if c.toNat = 0x212A then 'k' else if c.toNat = 0x130 then 'i' else c.toLower

def normaliseKey (k : String) : String :=
  String.ofList ((k.toList.map lowerCase).filter fun c => ('a' ≤ c ∧ c ≤ 'z') ∨ ('0' ≤ c ∧ c ≤ '9'))

def isSecretKey (k : String) : Bool := SECRET_KEYS.contains (normaliseKey k)

/-! ## The walk -/

/-- An object that is neither an array nor an error. -/
def isPlainRecord {ν : Type} : Value ν → Bool
  | .record .. | .map .. | .set .. => true
  | _ => false

/-- `out[k] = r` for each entry in turn, on an empty object. The key `__proto__` names the prototype of the object: it
makes no property of its own. -/
def assign {ν : Type} (entries : List (String × Redacted ν)) : List (String × Redacted ν) :=
  ((∅ : Keyed (Prod.fst : String × Redacted ν → String)).upsertAll (entries.filter (·.1 ≠ "__proto__"))).rows

/-- An object is walked once; `seen` are those that were met. -/
def visit {ν : Type} (id : Nat) (seen : List Nat) (walk : List Nat → Redacted ν × List Nat) : Redacted ν × List Nat :=
  if id ∈ seen then (.text "[Circular]", seen) else walk (id :: seen)

/-- The property an error's cause becomes. -/
def causeEntry {ν : Type} (cause : Value ν) (out : Redacted ν) : List (String × Redacted ν) :=
  match cause with
  | .undefined => []
  | _ => [("cause", out)]

section Redact

variable {ν : Type} (redactString : String → String)

/-- The properties of an error that are not values of their own. -/
def errorEntries (name message : String) (stack : Option String) : List (String × Redacted ν) :=
  [("name", .text name), ("message", .text (redactString message))] ++
    (stack.map fun s => ("stack", Redacted.text (redactString s))).toList

mutual

/-- `redact(value, seen)`, with the objects that were met by then. -/
def redactFrom : Value ν → List Nat → Redacted ν × List Nat
  | .undefined, seen => (.undefined, seen)
  | .primitive p, seen => (.primitive p, seen)
  | .bigint n, seen => (.text (toString n ++ "n"), seen)
  | .string s, seen => (.text (redactString s), seen)
  | .error id name message stack cause errors, seen =>
    visit id seen fun seen =>
      let causeOut := redactFrom cause seen
      let errorsOut := redactErrors errors causeOut.2
      (.record (errorEntries redactString name message stack ++ causeEntry cause causeOut.1 ++ errorsOut.1), errorsOut.2)
  | .array id items, seen =>
    visit id seen fun seen =>
      let out := redactAll items seen
      (.array out.1, out.2)
  | .record id entries, seen =>
    visit id seen fun seen =>
      let out := redactEntries entries seen
      (.record (assign out.1), out.2)
  | .map id entries, seen =>
    visit id seen fun seen =>
      -- a Map has no enumerable property of its own
      if isPlainRecord (.map id entries) then (.record [], seen)
      else
        let out := redactEntries entries seen
        (.record (assign out.1), out.2)
  | .set id items, seen =>
    visit id seen fun seen =>
      if isPlainRecord (.set id items) then (.record [], seen)
      else
        let out := redactAll items seen
        (.array out.1, out.2)

/-- An AggregateError's own errors. -/
def redactErrors : Option (List (Value ν)) → List Nat → List (String × Redacted ν) × List Nat
  | none, seen => ([], seen)
  | some errors, seen =>
    let out := redactAll errors seen
    ([("errors", .array out.1)], out.2)

def redactAll : List (Value ν) → List Nat → List (Redacted ν) × List Nat
  | [], seen => ([], seen)
  | v :: vs, seen =>
    let out := redactFrom v seen
    let rest := redactAll vs out.2
    (out.1 :: rest.1, rest.2)

def redactEntries : List (String × Value ν) → List Nat → List (String × Redacted ν) × List Nat
  | [], seen => ([], seen)
  | (k, v) :: entries, seen =>
    let out := if isSecretKey k then (.text REDACTED, seen) else redactFrom v seen
    let rest := redactEntries entries out.2
    ((k, out.1) :: rest.1, rest.2)

end

def redact (value : Value ν) : Redacted ν := (redactFrom redactString value []).1

end Redact

/-! ## What a redaction should say -/

section Spec

variable {ν : Type}

mutual

/-- What can be seen of a value: the values under credential-shaped keys are blotted out, and the objects named anew. -/
def publicPart (rename : Nat → Nat) : Value ν → Value ν
  | .undefined => .undefined
  | .primitive p => .primitive p
  | .bigint n => .bigint n
  | .string s => .string s
  | .error id name message stack cause errors =>
    .error (rename id) name message stack (publicPart rename cause) (publicErrors rename errors)
  | .array id items => .array (rename id) (publicAll rename items)
  | .record id entries => .record (rename id) (publicEntries rename entries)
  | .map id entries => .map (rename id) (publicEntries rename entries)
  | .set id items => .set (rename id) (publicAll rename items)

def publicErrors (rename : Nat → Nat) : Option (List (Value ν)) → Option (List (Value ν))
  | none => none
  | some errors => some (publicAll rename errors)

def publicAll (rename : Nat → Nat) : List (Value ν) → List (Value ν)
  | [] => []
  | v :: vs => publicPart rename v :: publicAll rename vs

def publicEntries (rename : Nat → Nat) : List (String × Value ν) → List (String × Value ν)
  | [] => []
  | (k, v) :: entries =>
    (k, if isSecretKey k then .undefined else publicPart rename v) :: publicEntries rename entries

end

mutual

/-- The objects that can be seen, in the order in which they are met. -/
def objects : Value ν → List (Value ν)
  | .error id name message stack cause errors =>
    .error id name message stack cause errors :: (objects cause ++ objectsErrors errors)
  | .array id items => .array id items :: objectsAll items
  | .record id entries => .record id entries :: objectsEntries entries
  | .map id entries => .map id entries :: objectsEntries entries
  | .set id items => .set id items :: objectsAll items
  | _ => []

def objectsErrors : Option (List (Value ν)) → List (Value ν)
  | none => []
  | some errors => objectsAll errors

def objectsAll : List (Value ν) → List (Value ν)
  | [] => []
  | v :: vs => objects v ++ objectsAll vs

def objectsEntries : List (String × Value ν) → List (Value ν)
  | [] => []
  | (k, v) :: entries => (if isSecretKey k then [] else objects v) ++ objectsEntries entries

end

def Value.identity : Value ν → Option Nat
  | .error id .. | .array id _ | .record id _ | .map id _ | .set id _ => some id
  | _ => none

/-- The identities of objects. -/
def identities (objs : List (Value ν)) : List Nat := objs.filterMap Value.identity

/-- An object has one property under a key. -/
def Value.DistinctKeys : Value ν → Prop
  | .record _ entries => (entries.map Prod.fst).Nodup
  | _ => True

def Redacted.isObject : Redacted ν → Bool
  | .record _ | .array _ => true
  | _ => false

/-- The own property `k`. -/
def Redacted.field : Redacted ν → String → Option (Redacted ν)
  | .record entries, k => (entries.find? (·.1 = k)).map (·.2)
  | _, _ => none

/-- The element at position `i`. -/
def Redacted.item : Redacted ν → Nat → Option (Redacted ν)
  | .array items, i => items[i]?
  | _, _ => none

variable (redactString : String → String)

mutual

/-- Every leaf of the value has its redacted form at its own place, every object is an object there, and under a
credential-shaped key stands that something was left out. -/
def Kept : Value ν → Redacted ν → Prop
  | .undefined, out => out = .undefined
  | .primitive p, out => out = .primitive p
  | .bigint n, out => out = .text (toString n ++ "n")
  | .string s, out => out = .text (redactString s)
  | .error _ name message stack cause errors, out =>
    out.field "name" = some (.text (redactString name)) ∧ out.field "message" = some (.text (redactString message)) ∧
      (∀ s, stack = some s → out.field "stack" = some (.text (redactString s))) ∧
      (cause = .undefined ∨ ∃ r, out.field "cause" = some r ∧ Kept cause r) ∧
      KeptErrors errors (out.field "errors")
  | .array _ items, out => out.isObject = true ∧ KeptAll items out.item
  | .record _ entries, out => out.isObject = true ∧ KeptEntries entries out.field
  | .map _ entries, out => out.isObject = true ∧ KeptEntries entries out.field
  | .set _ items, out => out.isObject = true ∧ KeptAll items out.item

def KeptErrors : Option (List (Value ν)) → Option (Redacted ν) → Prop
  | none, _ => True
  | some errors, place => ∃ r, place = some r ∧ KeptAll errors r.item

def KeptAll : List (Value ν) → (Nat → Option (Redacted ν)) → Prop
  | [], _ => True
  | v :: vs, place => (∃ r, place 0 = some r ∧ Kept v r) ∧ KeptAll vs fun i => place (i + 1)

def KeptEntries : List (String × Value ν) → (String → Option (Redacted ν)) → Prop
  | [], _ => True
  | (k, v) :: entries, place =>
    (if isSecretKey k then place k = some (.text REDACTED) else ∃ r, place k = some r ∧ Kept v r) ∧
      KeptEntries entries place

end

/-- The redaction hides and keeps: a value that differs only under credential-shaped keys has the same one, and it keeps
all that is not under such a key. -/
structure HidesAndKeeps (v : Value ν) : Prop where
  hides : ∀ (w : Value ν) (rename : Nat → Nat), Function.Injective rename → publicPart id w = publicPart rename v →
    redact redactString w = redact redactString v
  keeps : Kept redactString v (redact redactString v)

/-- An object whose own part comes through: the redactor leaves an error's name as it is, no property is called
`__proto__`, and a Map or a Set has no entry. -/
def Value.ComesThrough : Value ν → Prop
  | .error _ name .. => redactString name = name
  | .record _ entries => ∀ e ∈ entries, e.1 ≠ "__proto__"
  | .map _ entries => entries = []
  | .set _ items => items = []
  | _ => True

/-- Objects met for the first time, each once, that come through. -/
structure Fresh (seen : List Nat) (objs : List (Value ν)) : Prop where
  through : ∀ u ∈ objs, u.ComesThrough redactString
  once : (identities objs).Nodup
  unseen : ∀ i ∈ identities objs, i ∉ seen

/-- The objects that can be seen come through, and none of them occurs at two places. -/
structure Whole (v : Value ν) : Prop where
  through : ∀ u ∈ objects v, u.ComesThrough redactString
  once : (identities (objects v)).Nodup

end Spec

/-! ## Hiding -/

section Hiding

variable {ν : Type} {redactString : String → String} {rename : Nat → Nat}

theorem visit_rename (hrename : Function.Injective rename) (id : Nat) (seen : List Nat)
    {walk walk' : List Nat → Redacted ν × List Nat}
    (h : ∀ seen, walk' (seen.map rename) = ((walk seen).1, (walk seen).2.map rename)) :
    visit (rename id) (seen.map rename) walk' = ((visit id seen walk).1, (visit id seen walk).2.map rename) := by
  unfold visit
  by_cases hmem : id ∈ seen
  · rw [if_pos hmem, if_pos (List.mem_map_of_mem hmem)]
  · rw [if_neg hmem, if_neg fun hin => hmem ((List.mem_map_of_injective hrename).1 hin)]
    exact h (id :: seen)

theorem causeEntry_publicPart (cause : Value ν) (out : Redacted ν) :
    causeEntry (publicPart rename cause) out = causeEntry cause out := by
  cases cause <;> rfl

mutual

/-- The walk reads only what can be seen, and of the identities only whether they are equal. -/
theorem redactFrom_publicPart (hrename : Function.Injective rename) : ∀ (v : Value ν) (seen : List Nat),
    redactFrom redactString (publicPart rename v) (seen.map rename) =
      ((redactFrom redactString v seen).1, (redactFrom redactString v seen).2.map rename)
  | .undefined, _ | .primitive _, _ | .bigint _, _ | .string _, _ => rfl
  | .error id name message stack cause errors, seen => by
    refine visit_rename hrename id seen fun seen => ?_
    simp only [redactFrom_publicPart hrename cause, redactErrors_publicErrors hrename errors, causeEntry_publicPart]
  | .array id items, seen => by
    refine visit_rename hrename id seen fun seen => ?_
    rw [redactAll_publicAll hrename items]
  | .record id entries, seen => by
    refine visit_rename hrename id seen fun seen => ?_
    rw [redactEntries_publicEntries hrename entries]
  | .map id entries, seen => visit_rename hrename id seen fun _ => rfl
  | .set id items, seen => visit_rename hrename id seen fun _ => rfl

theorem redactErrors_publicErrors (hrename : Function.Injective rename) : ∀ (errors : Option (List (Value ν)))
    (seen : List Nat), redactErrors redactString (publicErrors rename errors) (seen.map rename) =
      ((redactErrors redactString errors seen).1, (redactErrors redactString errors seen).2.map rename)
  | none, _ => rfl
  | some errors, seen => by
    simp only [publicErrors, redactErrors, redactAll_publicAll hrename errors]

theorem redactAll_publicAll (hrename : Function.Injective rename) : ∀ (vs : List (Value ν)) (seen : List Nat),
    redactAll redactString (publicAll rename vs) (seen.map rename) =
      ((redactAll redactString vs seen).1, (redactAll redactString vs seen).2.map rename)
  | [], _ => rfl
  | v :: vs, seen => by
    simp only [publicAll, redactAll, redactFrom_publicPart hrename v, redactAll_publicAll hrename vs]

theorem redactEntries_publicEntries (hrename : Function.Injective rename) : ∀ (entries : List (String × Value ν))
    (seen : List Nat), redactEntries redactString (publicEntries rename entries) (seen.map rename) =
      ((redactEntries redactString entries seen).1, (redactEntries redactString entries seen).2.map rename)
  | [], _ => rfl
  | (k, v) :: entries, seen => by
    simp only [publicEntries, redactEntries]
    cases hk : isSecretKey k with
    | true => simp only [if_true, redactEntries_publicEntries hrename entries]
    | false =>
      simp only [Bool.false_eq_true, if_false, redactFrom_publicPart hrename v,
        redactEntries_publicEntries hrename entries]

end

/-- Values that differ only under credential-shaped keys have one redaction. -/
theorem redact_of_publicPart {v w : Value ν} (hrename : Function.Injective rename)
    (h : publicPart id w = publicPart rename v) : redact redactString w = redact redactString v := by
  have hw : redactFrom redactString (publicPart id w) [] = (redact redactString w, _) :=
    redactFrom_publicPart Function.injective_id w []
  have hv : redactFrom redactString (publicPart rename v) [] = (redact redactString v, _) :=
    redactFrom_publicPart hrename v []
  rw [h, hv] at hw
  exact (Prod.mk.inj hw).1.symm

end Hiding

/-! ## Keeping -/

section Keeping

variable {ν : Type} {redactString : String → String} {seen : List Nat}

theorem identities_append (l m : List (Value ν)) : identities (l ++ m) = identities l ++ identities m :=
  List.filterMap_append

theorem fresh_nil : Fresh redactString seen ([] : List (Value ν)) :=
  ⟨by simp, by simp [identities], by simp [identities]⟩

/-- The second objects are met when the first were. -/
theorem fresh_append {l m : List (Value ν)} : Fresh redactString seen (l ++ m) ↔
    Fresh redactString seen l ∧ Fresh redactString ((identities l).reverse ++ seen) m := by
  constructor
  · rintro ⟨hthrough, honce, hunseen⟩
    rw [identities_append] at honce hunseen
    rw [List.nodup_append] at honce
    refine ⟨⟨fun u hu => hthrough u (List.mem_append_left _ hu), honce.1,
      fun i hi => hunseen i (List.mem_append_left _ hi)⟩,
      ⟨fun u hu => hthrough u (List.mem_append_right _ hu), honce.2.1, fun i hi hmem => ?_⟩⟩
    rw [List.mem_append, List.mem_reverse] at hmem
    rcases hmem with hmem | hmem
    · exact honce.2.2 i hmem i hi rfl
    · exact hunseen i (List.mem_append_right _ hi) hmem
  · rintro ⟨hl, hm⟩
    refine ⟨fun u hu => (List.mem_append.1 hu).elim (hl.through u) (hm.through u), ?_, fun i hi => ?_⟩
    · rw [identities_append, List.nodup_append]
      refine ⟨hl.once, hm.once, fun i hi j hj heq => hm.unseen j hj ?_⟩
      rw [← heq]
      exact List.mem_append_left _ (List.mem_reverse.2 hi)
    · rw [identities_append, List.mem_append] at hi
      rcases hi with hi | hi
      · exact hl.unseen i hi
      · exact fun hmem => hm.unseen i hi (List.mem_append_right _ hmem)

theorem fresh_singleton {u : Value ν} {i : Nat} (hi : u.identity = some i) :
    Fresh redactString seen [u] ↔ u.ComesThrough redactString ∧ i ∉ seen := by
  have hids : identities [u] = [i] := by simp [identities, hi]
  constructor
  · rintro ⟨hthrough, -, hunseen⟩
    exact ⟨hthrough u (by simp), hunseen i (by simp [hids])⟩
  · rintro ⟨hthrough, hunseen⟩
    refine ⟨by simpa using hthrough, by simp [hids], ?_⟩
    rw [hids]
    simpa using hunseen

theorem fresh_cons {u : Value ν} {i : Nat} (hi : u.identity = some i) {l : List (Value ν)} :
    Fresh redactString seen (u :: l) ↔
      (u.ComesThrough redactString ∧ i ∉ seen) ∧ Fresh redactString (i :: seen) l := by
  have hids : identities [u] = [i] := by simp [identities, hi]
  rw [← List.singleton_append, fresh_append, fresh_singleton hi, hids]
  rfl

/-- The walk of an object goes on only when it is met for the first time. -/
theorem visit_snd {id : Nat} {walk : List Nat → Redacted ν × List Nat} (h : id ∉ seen) :
    visit id seen walk = walk (id :: seen) := if_neg h

mutual

/-- The objects that are met are those that can be seen. -/
theorem seen_redactFrom : ∀ (v : Value ν) (seen : List Nat), Fresh redactString seen (objects v) →
    (redactFrom redactString v seen).2 = (identities (objects v)).reverse ++ seen
  | .undefined, _, _ | .primitive _, _, _ | .bigint _, _, _ | .string _, _, _ => rfl
  | .error id name message stack cause errors, seen, h => by
    obtain ⟨⟨-, hid⟩, hparts⟩ := (fresh_cons rfl).1 h
    obtain ⟨hcause, herrors⟩ := fresh_append.1 hparts
    have hfirst := seen_redactFrom cause _ hcause
    have hsecond := seen_redactErrors errors _ herrors
    simp only [redactFrom, visit_snd hid, hfirst, hsecond]
    simp [objects, identities, Value.identity]
  | .array id items, seen, h => by
    obtain ⟨⟨-, hid⟩, hparts⟩ := (fresh_cons rfl).1 h
    simp only [redactFrom, visit_snd hid, seen_redactAll items _ hparts]
    simp [objects, identities, Value.identity]
  | .record id entries, seen, h => by
    obtain ⟨⟨-, hid⟩, hparts⟩ := (fresh_cons rfl).1 h
    simp only [redactFrom, visit_snd hid, seen_redactEntries entries _ hparts]
    simp [objects, identities, Value.identity]
  | .map id entries, seen, h => by
    obtain ⟨⟨hempty, hid⟩, -⟩ := (fresh_cons rfl).1 h
    obtain rfl : entries = [] := hempty
    simp only [redactFrom, visit_snd hid]
    rfl
  | .set id items, seen, h => by
    obtain ⟨⟨hempty, hid⟩, -⟩ := (fresh_cons rfl).1 h
    obtain rfl : items = [] := hempty
    simp only [redactFrom, visit_snd hid]
    rfl

theorem seen_redactErrors : ∀ (errors : Option (List (Value ν))) (seen : List Nat),
    Fresh redactString seen (objectsErrors errors) →
      (redactErrors redactString errors seen).2 = (identities (objectsErrors errors)).reverse ++ seen
  | none, _, _ => rfl
  | some errors, seen, h => seen_redactAll errors seen h

theorem seen_redactAll : ∀ (vs : List (Value ν)) (seen : List Nat), Fresh redactString seen (objectsAll vs) →
    (redactAll redactString vs seen).2 = (identities (objectsAll vs)).reverse ++ seen
  | [], _, _ => rfl
  | v :: vs, seen, h => by
    obtain ⟨hv, hvs⟩ := fresh_append.1 h
    simp only [redactAll, seen_redactFrom v seen hv, seen_redactAll vs _ hvs, objectsAll, identities_append,
      List.reverse_append, List.append_assoc]

theorem seen_redactEntries : ∀ (entries : List (String × Value ν)) (seen : List Nat),
    Fresh redactString seen (objectsEntries entries) →
      (redactEntries redactString entries seen).2 = (identities (objectsEntries entries)).reverse ++ seen
  | [], _, _ => rfl
  | (k, v) :: entries, seen, h => by
    obtain ⟨hv, hentries⟩ := fresh_append.1 h
    cases hk : isSecretKey k with
    | true =>
      simp only [hk, if_true] at hentries
      have hentries : Fresh redactString seen (objectsEntries entries) := hentries
      simp only [redactEntries, hk, if_true, seen_redactEntries entries _ hentries, objectsEntries, List.nil_append]
    | false =>
      simp only [hk, Bool.false_eq_true, if_false] at hv hentries
      simp only [redactEntries, hk, Bool.false_eq_true, if_false, seen_redactFrom v seen hv,
        seen_redactEntries entries _ hentries, objectsEntries, identities_append, List.reverse_append,
        List.append_assoc]

end

theorem field_record (entries : List (String × Redacted ν)) (k : String) :
    (Redacted.record entries).field k = (entries.find? (·.1 = k)).map (·.2) := rfl

theorem field_of_mem {entries : List (String × Redacted ν)} (hnodup : (entries.map Prod.fst).Nodup)
    {e : String × Redacted ν} (he : e ∈ entries) : (Redacted.record entries).field e.1 = some e.2 := by
  rw [field_record]
  induction entries with
  | nil => cases he
  | cons a entries ih =>
    rw [List.map_cons, List.nodup_cons] at hnodup
    rw [List.find?_cons]
    rcases List.mem_cons.1 he with rfl | he
    · simp
    · have hne : a.1 ≠ e.1 := fun heq => hnodup.1 (heq ▸ List.mem_map_of_mem he)
      simp only [hne, decide_false]
      exact ih hnodup.2 he

theorem assign_eq {entries : List (String × Redacted ν)} (hnodup : (entries.map Prod.fst).Nodup) :
    assign entries = entries.filter (·.1 ≠ "__proto__") := by
  unfold assign
  rw [Keyed.rows_upsertAll_of_nodup]
  · rfl
  · exact hnodup.sublist (List.filter_sublist.map _)

/-- What is assigned to distinct keys is found there, but for the key of the prototype. -/
theorem field_assign {entries : List (String × Redacted ν)} (hnodup : (entries.map Prod.fst).Nodup)
    {e : String × Redacted ν} (he : e ∈ entries) :
    (Redacted.record (assign entries)).field e.1 = if e.1 = "__proto__" then none else some e.2 := by
  rw [assign_eq hnodup]
  split
  next hproto =>
    rw [field_record, Option.map_eq_none_iff, List.find?_eq_none]
    intro x hx
    have hne := (List.mem_filter.1 hx).2
    rw [decide_eq_true_eq] at hne ⊢
    rw [hproto]
    exact hne
  next hne =>
    refine field_of_mem (hnodup.sublist (List.filter_sublist.map _)) (List.mem_filter.2 ⟨he, ?_⟩)
    simpa using hne

theorem keys_redactEntries (entries : List (String × Value ν)) (seen : List Nat) :
    (redactEntries redactString entries seen).1.map Prod.fst = entries.map Prod.fst := by
  induction entries generalizing seen with
  | nil => rfl
  | cons e entries ih => simp [redactEntries, ih]

theorem isSecretKey_proto : isSecretKey "__proto__" = false := by decide +kernel

theorem keptEntries_none (entries : List (String × Value ν)) :
    KeptEntries redactString entries (fun _ => none) ↔ entries = [] := by
  cases entries with
  | nil => simp [KeptEntries]
  | cons e entries =>
    simp only [KeptEntries, reduceCtorEq, false_and, exists_false, ite_self]

theorem keptAll_none (vs : List (Value ν)) : KeptAll redactString vs (fun _ => none) ↔ vs = [] := by
  cases vs with
  | nil => simp [KeptAll]
  | cons v vs => simp [KeptAll]

/-- What an error becomes has its texts, its cause and its errors, each under its own key. -/
theorem field_error (name message : String) (stack : Option String) (cause : Value ν) (c : Redacted ν)
    (errors : List (String × Redacted ν)) :
    let out := Redacted.record (errorEntries redactString name message stack ++ causeEntry cause c ++ errors)
    out.field "name" = some (.text name) ∧ out.field "message" = some (.text (redactString message)) ∧
      (∀ s, stack = some s → out.field "stack" = some (.text (redactString s))) ∧
      (cause ≠ .undefined → out.field "cause" = some c) ∧
      out.field "errors" = (Redacted.record errors).field "errors" := by
  simp only [field_record, errorEntries]
  refine ⟨by simp, by simp, ?_, ?_, ?_⟩
  · rintro s rfl
    simp
  · intro hcause
    have hentry : causeEntry cause c = [("cause", c)] := by
      cases cause with
      | undefined => exact absurd rfl hcause
      | _ => rfl
    rw [hentry]
    cases stack <;> simp
  · have hentry : (causeEntry cause c).find? (fun e => decide (e.1 = "errors")) = none := by
      cases cause <;> simp [causeEntry]
    cases stack <;> simp [hentry]

theorem not_kept_circular {v : Value ν} {i : Nat} (hi : v.identity = some i) (s : String) :
    ¬ Kept redactString v (.text s) := by
  cases v <;> simp [Kept, Redacted.isObject, Redacted.field, Value.identity] at hi ⊢

/-- An object that was met before is not kept; of one that was not, its parts decide. -/
theorem kept_visit {v : Value ν} {i : Nat} (hi : v.identity = some i) {parts : List (Value ν)}
    {walk : List Nat → Redacted ν × List Nat}
    (h : Kept redactString v (walk (i :: seen)).1 ↔
      v.ComesThrough redactString ∧ Fresh redactString (i :: seen) parts) :
    Kept redactString v (visit i seen walk).1 ↔ Fresh redactString seen (v :: parts) := by
  rw [fresh_cons hi]
  by_cases hmem : i ∈ seen
  · rw [visit, if_pos hmem]
    exact iff_of_false (not_kept_circular hi _) fun hfresh => hfresh.1.2 hmem
  · rw [visit_snd hmem, h]
    tauto

/-- An absent cause has no place and needs none. -/
theorem kept_cause {cause : Value ν} {place : Option (Redacted ν)}
    (hfield : cause ≠ .undefined → place = some (redactFrom redactString cause seen).1) :
    (cause = .undefined ∨ ∃ r, place = some r ∧ Kept redactString cause r) ↔
      Kept redactString cause (redactFrom redactString cause seen).1 := by
  by_cases hundefined : cause = .undefined
  · rw [hundefined]
    exact iff_of_true (Or.inl rfl) rfl
  · simp only [hfield hundefined, hundefined, false_or, Option.some.injEq, exists_eq_left']

mutual

/-- A value comes through whole exactly when its objects are all met for the first time and come through themselves. -/
theorem kept_redactFrom : ∀ (v : Value ν) (seen : List Nat), (∀ u ∈ objects v, u.DistinctKeys) →
    (Kept redactString v (redactFrom redactString v seen).1 ↔ Fresh redactString seen (objects v))
  | .undefined, _, _ | .primitive _, _, _ | .bigint _, _, _ | .string _, _, _ => iff_of_true rfl fresh_nil
  | .error id name message stack cause errors, seen, hkeys => by
    refine kept_visit rfl ?_
    have hkeys : ∀ u ∈ objects cause ++ objectsErrors errors, u.DistinctKeys := fun u hu =>
      hkeys u (List.mem_cons_of_mem _ hu)
    have hcause := kept_redactFrom cause (id :: seen) fun u hu => hkeys u (List.mem_append_left _ hu)
    -- the errors are walked after the cause, with what the cause has visited
    have herrors := kept_redactErrors errors (redactFrom redactString cause (id :: seen)).2 fun u hu =>
      hkeys u (List.mem_append_right _ hu)
    obtain ⟨hname, hmessage, hstack, hfield, herror⟩ := @field_error ν redactString name message stack
      cause (redactFrom redactString cause (id :: seen)).1
      (redactErrors redactString errors (redactFrom redactString cause (id :: seen)).2).1
    rw [fresh_append]
    simp only [Kept, hname, hmessage, herror, herrors, kept_cause hfield, hcause, Value.ComesThrough,
      Option.some.injEq, Redacted.text.injEq, true_and]
    constructor
    · rintro ⟨hsame, -, hfresh, hrest⟩
      rw [seen_redactFrom cause _ hfresh] at hrest
      exact ⟨hsame.symm, hfresh, hrest⟩
    · rintro ⟨hsame, hfresh, hrest⟩
      rw [← seen_redactFrom cause _ hfresh] at hrest
      exact ⟨hsame.symm, hstack, hfresh, hrest⟩
  | .array id items, seen, hkeys => by
    refine kept_visit rfl ?_
    have hitems := kept_redactAll items (id :: seen) fun u hu => hkeys u (List.mem_cons_of_mem _ hu)
    simp only [Kept, Value.ComesThrough, true_and, ← hitems]
    exact and_iff_right rfl
  | .record id entries, seen, hkeys => by
    refine kept_visit rfl ?_
    have hdistinct : ((redactEntries redactString entries (id :: seen)).1.map Prod.fst).Nodup := by
      rw [keys_redactEntries]
      exact hkeys (.record id entries) List.mem_cons_self
    have hentries := kept_redactEntries entries (id :: seen) (fun u hu => hkeys u (List.mem_cons_of_mem _ hu)) _
      fun e he => field_assign hdistinct he
    simp only [Kept, Value.ComesThrough, ← hentries]
    exact and_iff_right rfl
  | .map id entries, seen, _ => by
    refine kept_visit rfl ?_
    -- the code returns an empty record for a map, so only an empty map comes through
    show _ ∧ KeptEntries redactString entries (fun _ => none) ↔ entries = [] ∧ _
    rw [keptEntries_none]
    refine (and_iff_right rfl).trans ⟨fun hempty => ⟨hempty, ?_⟩, And.left⟩
    rw [hempty]
    exact fresh_nil
  | .set id items, seen, _ => by
    refine kept_visit rfl ?_
    show _ ∧ KeptAll redactString items (fun _ => none) ↔ items = [] ∧ _
    rw [keptAll_none]
    refine (and_iff_right rfl).trans ⟨fun hempty => ⟨hempty, ?_⟩, And.left⟩
    rw [hempty]
    exact fresh_nil

theorem kept_redactErrors : ∀ (errors : Option (List (Value ν))) (seen : List Nat),
    (∀ u ∈ objectsErrors errors, u.DistinctKeys) →
      (KeptErrors redactString errors ((Redacted.record (redactErrors redactString errors seen).1).field "errors") ↔
        Fresh redactString seen (objectsErrors errors))
  | none, _, _ => iff_of_true trivial fresh_nil
  | some errors, seen, hkeys => by
    rw [objectsErrors, ← kept_redactAll errors seen hkeys]
    simp [redactErrors, KeptErrors, field_record]

theorem kept_redactAll : ∀ (vs : List (Value ν)) (seen : List Nat), (∀ u ∈ objectsAll vs, u.DistinctKeys) →
    (KeptAll redactString vs (Redacted.array (redactAll redactString vs seen).1).item ↔
      Fresh redactString seen (objectsAll vs))
  | [], _, _ => iff_of_true trivial fresh_nil
  | v :: vs, seen, hkeys => by
    have hv := kept_redactFrom v seen fun u hu => hkeys u (List.mem_append_left _ hu)
    have hvs := kept_redactAll vs (redactFrom redactString v seen).2 fun u hu => hkeys u (List.mem_append_right _ hu)
    have hfirst : KeptAll redactString (v :: vs) (Redacted.array (redactAll redactString (v :: vs) seen).1).item ↔
        Kept redactString v (redactFrom redactString v seen).1 ∧
          KeptAll redactString vs
            (Redacted.array (redactAll redactString vs (redactFrom redactString v seen).2).1).item := by
      show (∃ r, some (redactFrom redactString v seen).1 = some r ∧ Kept redactString v r) ∧ _ ↔ _
      simp only [Option.some.injEq, exists_eq_left']
      rfl
    rw [hfirst, objectsAll, fresh_append, hv, hvs]
    exact and_congr_right fun hfresh => by rw [seen_redactFrom v seen hfresh]

theorem kept_redactEntries : ∀ (entries : List (String × Value ν)) (seen : List Nat),
    (∀ u ∈ objectsEntries entries, u.DistinctKeys) → ∀ place : String → Option (Redacted ν),
      (∀ e ∈ (redactEntries redactString entries seen).1, place e.1 = if e.1 = "__proto__" then none else some e.2) →
        (KeptEntries redactString entries place ↔
          (∀ e ∈ entries, e.1 ≠ "__proto__") ∧ Fresh redactString seen (objectsEntries entries))
  | [], _, _, _, _ => iff_of_true trivial ⟨by simp, fresh_nil⟩
  | (k, v) :: entries, seen, hkeys, place, hplace => by
    have hrest := kept_redactEntries entries _ (fun u hu => hkeys u (List.mem_append_right _ hu)) place fun e he =>
      hplace e (List.mem_cons_of_mem _ he)
    have hhead := hplace _ List.mem_cons_self
    rw [objectsEntries, fresh_append, List.forall_mem_cons, KeptEntries, hrest]
    cases hk : isSecretKey k with
    | true =>
      -- the assignment of this key sets the prototype, and it is no secret name
      have hproto : k ≠ "__proto__" := by
        rintro rfl
        rw [isSecretKey_proto] at hk
        cases hk
      rw [if_neg hproto] at hhead
      simp only [hk, if_true] at hhead
      have hskip : Fresh redactString seen ([] : List (Value ν)) := fresh_nil
      have hsame : (identities ([] : List (Value ν))).reverse ++ seen = seen := rfl
      simp only [if_true, hhead, hproto, ne_eq, not_false_eq_true, true_and, hskip, hsame]
    | false =>
      have hv := kept_redactFrom v seen fun u hu => hkeys u (List.mem_append_left _ (by rwa [hk]))
      simp only [hk, Bool.false_eq_true, if_false] at hhead ⊢
      by_cases hproto : k = "__proto__"
      · rw [if_pos hproto] at hhead
        refine iff_of_false (fun h => ?_) fun h => h.1.1 hproto
        obtain ⟨⟨r, hr, -⟩, -⟩ := h
        rw [hhead] at hr
        cases hr
      · rw [if_neg hproto] at hhead
        simp only [hhead, Option.some.injEq, exists_eq_left', hv, hproto, ne_eq, not_false_eq_true, true_and]
        constructor
        · rintro ⟨hfresh, hkeys, hentries⟩
          rw [seen_redactFrom v seen hfresh] at hentries
          exact ⟨hkeys, hfresh, hentries⟩
        · rintro ⟨hkeys, hfresh, hentries⟩
          rw [← seen_redactFrom v seen hfresh] at hentries
          exact ⟨hfresh, hkeys, hentries⟩

end

theorem fresh_iff_whole (v : Value ν) : Fresh redactString [] (objects v) ↔ Whole redactString v :=
  ⟨fun h => ⟨h.through, h.once⟩, fun h => ⟨h.through, h.once, fun _ _ => List.not_mem_nil⟩⟩

/-- A redaction hides and keeps exactly when every object outside credential-shaped keys comes through and occurs once. -/
theorem hidesAndKeeps_iff (redactString : String → String) (v : Value ν) (hkeys : ∀ u ∈ objects v, u.DistinctKeys) :
    HidesAndKeeps redactString v ↔ Whole redactString v := by
  rw [← fresh_iff_whole, ← kept_redactFrom v [] hkeys]
  exact ⟨fun h => h.keeps, fun h => ⟨fun _ _ => redact_of_publicPart, h⟩⟩

end Keeping

/-! ## Two reports -/

section Samples

instance {ν : Type} : DecidablePred (@Value.DistinctKeys ν)
  | .record _ entries => inferInstanceAs (Decidable (entries.map Prod.fst).Nodup)
  | .undefined | .primitive _ | .bigint _ | .string _ | .error .. | .array .. | .map .. | .set .. => isTrue trivial

/-- An error with a cause, beside a credential. -/
def failedRequest : Value Int :=
  .record 0 [("token", .record 1 [("id", .string "a1")]), ("attempts", .array 2 [.primitive 1, .bigint 2]),
    ("error", .error 3 "Error" "request failed" none (.error 4 "TypeError" "no route" none .undefined none) none)]

theorem hidesAndKeeps_iff_failedRequest : HidesAndKeeps id failedRequest ↔ Whole id failedRequest :=
  hidesAndKeeps_iff id failedRequest (by decide +kernel)

/-- A Map, and one endpoint under two keys. -/
def sharedEndpoint : Value Int :=
  .record 0 [("limits", .map 1 [("retries", .primitive 3)]), ("primary", .record 2 [("chain", .string "C")]),
    ("fallback", .record 2 [("chain", .string "C")])]

/-- The entry of the Map and the second occurrence of the endpoint are lost. -/
theorem sharedEndpoint_not_kept :
    redact id sharedEndpoint =
        .record [("limits", .record []), ("primary", .record [("chain", .text "C")]), ("fallback", .text "[Circular]")] ∧
      (∀ u ∈ objects sharedEndpoint, u.DistinctKeys) ∧ ¬ HidesAndKeeps id sharedEndpoint := by
  have hkeys : ∀ u ∈ objects sharedEndpoint, u.DistinctKeys := by decide +kernel
  refine ⟨rfl, hkeys, fun h => ?_⟩
  have hfresh := (kept_redactFrom sharedEndpoint [] hkeys).1 h.keeps
  exact absurd hfresh.once (by decide +kernel)

end Samples

end IcttSentinel.Config.Redaction
