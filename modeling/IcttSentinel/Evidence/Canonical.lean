/-
Canonical JSON, packages/evidence/src/canonical.ts. A value is first converted into canonical values, which leaves
out keys with an undefined value and turns counts into strings, and then serialised with sorted keys. Unicode
normalisation is a parameter with the two laws used of it.
-/
import IcttSentinel.Lib.JsonText
import IcttSentinel.Lib.Sorting

namespace IcttSentinel.Evidence

open IcttSentinel.Lib

/-! ## Values -/

/-- `String.prototype.normalize('NFC')`. -/
structure Nfc where
  normalize : String → String
  idempotent : ∀ s, normalize (normalize s) = normalize s
  ascii : ∀ s : String, (∀ c ∈ s.toList, c.toNat < 128) → normalize s = s

/-- Decided over the characters that are there: the instance for any property of a `Char` runs over every one. -/
instance decidableAsciiChars (cs : List Char) : Decidable (∀ c ∈ cs, c.toNat < 128) := List.decidableBAll _ cs

/-- A value a serialiser can be handed. A `number` is an integer or anything else; an object is plain, with its own
enumerable string keys in their order, or an instance of some other prototype; an array can have holes, which are
`none`. -/
inductive JsValue where
  | undefined
  | null
  | bool (b : Bool)
  | str (s : String)
  | bigint (n : Int)
  | integer (n : Int)
  | fraction
  | function
  | symbol
  | classInstance
  | arr (elements : List (Option JsValue))
  | obj (entries : List (String × JsValue))

structure NonCanonicalValueError where
  path : String
  detail : String
  deriving DecidableEq, Repr

def NonCanonicalValueError.message (e : NonCanonicalValueError) : String :=
  "value at " ++ e.path ++ " cannot be canonicalised: " ++ e.detail

/-- `Number.isSafeInteger`. -/
def isSafeInteger (n : Int) : Bool := n.natAbs < 2 ^ 53

/-- What the entries of an object are sorted by. -/
def entryKey {α : Type} (entry : String × α) : List Nat := codeUnits entry.1

/-! ## Conversion and serialisation -/

variable (nfc : Nfc)

mutual

def toCanonicalValue : JsValue → String → Except NonCanonicalValueError JsValue
  | .null, _ => .ok .null
  | .bigint n, _ => .ok (.bigint n)
  | .str s, _ => .ok (.str (nfc.normalize s))
  | .bool b, _ => .ok (.bool b)
  | .fraction, path => .error ⟨path, "fractional numbers have no canonical form"⟩
  | .integer n, path =>
    if isSafeInteger n then .ok (.str (toString n)) else .error ⟨path, "integer is outside the safe range"⟩
  | .arr elements, path => (toCanonicalElements elements path 0).map .arr
  | .obj entries, path => (toCanonicalEntries entries path).map .obj
  | .classInstance, path => .error ⟨path, "only plain objects are supported"⟩
  | .undefined, path => .error ⟨path, "undefined has no canonical form"⟩
  | .function, path => .error ⟨path, "function has no canonical form"⟩
  | .symbol, path => .error ⟨path, "symbol has no canonical form"⟩

/-- `value.map` skips the holes and keeps them. -/
def toCanonicalElements : List (Option JsValue) → String → Nat → Except NonCanonicalValueError (List (Option JsValue))
  | [], _, _ => .ok []
  | none :: elements, path, i => (toCanonicalElements elements path (i + 1)).map (none :: ·)
  | some v :: elements, path, i =>
    match toCanonicalValue v (path ++ "[" ++ toString i ++ "]") with
    | .error e => .error e
    | .ok v => (toCanonicalElements elements path (i + 1)).map (some v :: ·)

/-- `if (v === undefined) continue`. -/
def toCanonicalEntries : List (String × JsValue) → String → Except NonCanonicalValueError (List (String × JsValue))
  | [], _ => .ok []
  | (_, .undefined) :: entries, path => toCanonicalEntries entries path
  | (k, v) :: entries, path =>
    match toCanonicalValue v (path ++ "." ++ k) with
    | .error e => .error e
    | .ok v => (toCanonicalEntries entries path).map ((k, v) :: ·)

end

mutual

def canonicalise : JsValue → String → Except NonCanonicalValueError String
  | .null, _ => .ok "null"
  | .str s, _ => .ok (Json.quote (nfc.normalize s))
  | .bool b, _ => .ok (if b then "true" else "false")
  | .bigint n, _ => .ok (Json.quote (toString n))
  | .integer _, path => .error ⟨path, "numbers are doubles; use a bigint or a decimal string"⟩
  | .fraction, path => .error ⟨path, "numbers are doubles; use a bigint or a decimal string"⟩
  | .undefined, path => .error ⟨path, "undefined is not distinguishable from absent"⟩
  | .function, path => .error ⟨path, "function has no canonical form"⟩
  | .symbol, path => .error ⟨path, "symbol has no canonical form"⟩
  | .arr elements, path =>
    (canonicaliseElements elements path 0).map fun texts => "[" ++ ",".intercalate texts ++ "]"
  | .classInstance, path => .error ⟨path, "only plain objects are supported"⟩
  | .obj entries, path =>
    let entries := canonicaliseEntries entries path
    if (entries.map (·.1)).Nodup then
      ((sortOn entryKey entries).mapM fun entry : String × Except NonCanonicalValueError String =>
        entry.2.map fun text => Json.quote (nfc.normalize entry.1) ++ ":" ++ text).map fun texts =>
          "\x7b" ++ ",".intercalate texts ++ "\x7d"
    else .error ⟨path, "duplicate normalised key"⟩

/-- `join` writes nothing for a hole. -/
def canonicaliseElements : List (Option JsValue) → String → Nat → Except NonCanonicalValueError (List String)
  | [], _, _ => .ok []
  | none :: elements, path, i => (canonicaliseElements elements path (i + 1)).map ("" :: ·)
  | some v :: elements, path, i =>
    match canonicalise v (path ++ "[" ++ toString i ++ "]") with
    | .error e => .error e
    | .ok text => (canonicaliseElements elements path (i + 1)).map (text :: ·)

/-- The normalised keys with what their values give; an error stands until its entry's turn. -/
def canonicaliseEntries : List (String × JsValue) → String → List (String × Except NonCanonicalValueError String)
  | [], _ => []
  | (k, v) :: entries, path =>
    (nfc.normalize k, canonicalise v (path ++ "." ++ nfc.normalize k)) :: canonicaliseEntries entries path

end

def canonicalStringify (value : JsValue) : Except NonCanonicalValueError String :=
  match toCanonicalValue nfc value "$" with
  | .error e => .error e
  | .ok value => canonicalise nfc value "$"

/-! ## `JSON.parse` -/

/-- A property assignment: a repeated key keeps its place and takes the new value. -/
def setProperty (entries : List (String × JsValue)) (entry : String × JsValue) : List (String × JsValue) :=
  if entry.1 ∈ entries.map (·.1) then entries.map fun e => if e.1 = entry.1 then entry else e
  else entries ++ [entry]

mutual

def JsValue.ofJson : Json → JsValue
  | .null => .null
  | .bool b => .bool b
  | .num n => .integer n
  | .str s => .str s
  | .arr elements => .arr (JsValue.ofElements elements)
  | .obj fields => .obj ((JsValue.ofFields fields).foldl setProperty [])

def JsValue.ofElements : List Json → List (Option JsValue)
  | [] => []
  | j :: js => some (JsValue.ofJson j) :: JsValue.ofElements js

def JsValue.ofFields : List (String × Json) → List (String × JsValue)
  | [] => []
  | (name, j) :: fields => (name, JsValue.ofJson j) :: JsValue.ofFields fields

end

def jsonParse (text : String) : Option JsValue := (Json.parse text).map JsValue.ofJson

end IcttSentinel.Evidence
