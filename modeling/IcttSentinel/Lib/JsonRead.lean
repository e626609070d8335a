/-
Reading parsed JSON: the members of an object and the plain values under them, `none` where the value
has another type.
-/
import IcttSentinel.Lib.Json

namespace IcttSentinel.Lib.Json

def field? (name : String) : Json → Option Json
  | .obj fields => fields.lookup name
  | _ => none

def string? : Json → Option String
  | .str s => some s
  | _ => none

def bool? : Json → Option Bool
  | .bool b => some b
  | _ => none

def int? : Json → Option Int
  | .num n => some n
  | _ => none

def elements? : Json → Option (List Json)
  | .arr elements => some elements
  | _ => none

def isObject : Json → Bool
  | .obj _ => true
  | _ => false

end IcttSentinel.Lib.Json
