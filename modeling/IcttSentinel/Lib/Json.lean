/-
JSON text. Values are the ones a serialiser is handed (no cycles, integral numbers); object fields
keep the order they were written in, and strings are escaped the way `JSON.stringify` does it.
-/
import Mathlib.Tactic

namespace IcttSentinel.Lib

inductive Json where
  | null
  | bool (b : Bool)
  | num (n : Int)
  | str (s : String)
  | arr (elements : List Json)
  | obj (fields : List (String × Json))

namespace Json

/-- The hexadecimal digits of a code unit, at least four of them. -/
def hex4 (n : Nat) : String :=
  let digits := String.ofList (Nat.toDigits 16 n)
  "".pushn '0' (4 - digits.length) ++ digits

/-- One character inside a JSON string. -/
def escape (c : Char) : String :=
  if c = '"' then "\\\""
  else if c = '\\' then "\\\\"
  else if c.toNat = 8 then "\\b"
  else if c.toNat = 12 then "\\f"
  else if c = '\n' then "\\n"
  else if c = '\r' then "\\r"
  else if c = '\t' then "\\t"
  else if c.toNat < 32 then "\\u" ++ hex4 c.toNat
  else c.toString

def quote (s : String) : String := "\"" ++ String.join (s.toList.map escape) ++ "\""

mutual

/-- `JSON.stringify` without indentation. -/
def stringify : Json → String
  | .null => "null"
  | .bool b => if b then "true" else "false"
  | .num n => toString n
  | .str s => quote s
  | .arr elements => "[" ++ ",".intercalate (stringifyElements elements) ++ "]"
  | .obj fields => "\x7b" ++ ",".intercalate (stringifyFields fields) ++ "\x7d"

def stringifyElements : List Json → List String
  | [] => []
  | j :: js => stringify j :: stringifyElements js

def stringifyFields : List (String × Json) → List String
  | [] => []
  | (name, j) :: fields => (quote name ++ ":" ++ stringify j) :: stringifyFields fields

end

/-- A string or `null`. -/
def ofOption : Option String → Json
  | none => .null
  | some s => .str s

example : stringify (.obj [("a", .arr [.num (-1), .str "x\"y"]), ("b", .null)]) =
    "\x7b\"a\":[-1,\"x\\\"y\"],\"b\":null\x7d" := by decide +kernel

end Json

end IcttSentinel.Lib
