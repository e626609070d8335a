/-
`BigInt` of a text: surrounding white space is dropped, an empty text is zero, and the rest is a decimal numeral with an
optional sign or an unsigned numeral of base 16, 8 or 2. Any other text throws.
-/
import Mathlib.Tactic

namespace IcttSentinel.Lib

/-- White space and line terminators. -/
def isJsSpace (c : Char) : Bool :=
  (9 ≤ c.toNat && c.toNat ≤ 13) || (0x2000 ≤ c.toNat && c.toNat ≤ 0x200a) ||
    [0x20, 0xa0, 0x1680, 0x2028, 0x2029, 0x202f, 0x205f, 0x3000, 0xfeff].contains c.toNat

def trimmed (cs : List Char) : List Char := ((cs.dropWhile isJsSpace).reverse.dropWhile isJsSpace).reverse

/-- The value of a digit, in either case, where the base has it. -/
def digitOf (base : Nat) (c : Char) : Option Nat :=
  let value :=
    if '0' ≤ c && c ≤ '9' then c.toNat - '0'.toNat
    else if 'a' ≤ c && c ≤ 'z' then c.toNat - 'a'.toNat + 10
    else if 'A' ≤ c && c ≤ 'Z' then c.toNat - 'A'.toNat + 10
    else base
  if value < base then some value else none

def numeral (base : Nat) : List Char → Option Nat
  | [] => none
  | cs => cs.foldlM (fun n c => (digitOf base c).map (base * n + ·)) 0

def integerLiteral : List Char → Option Int
  | [] => some 0
  | '0' :: 'x' :: cs => (numeral 16 cs).map Int.ofNat
  | '0' :: 'X' :: cs => (numeral 16 cs).map Int.ofNat
  | '0' :: 'o' :: cs => (numeral 8 cs).map Int.ofNat
  | '0' :: 'O' :: cs => (numeral 8 cs).map Int.ofNat
  | '0' :: 'b' :: cs => (numeral 2 cs).map Int.ofNat
  | '0' :: 'B' :: cs => (numeral 2 cs).map Int.ofNat
  | '-' :: cs => (numeral 10 cs).map fun n => -Int.ofNat n
  | '+' :: cs => (numeral 10 cs).map Int.ofNat
  | cs => (numeral 10 cs).map Int.ofNat

def bigInt (s : String) : Except String Int :=
  match integerLiteral (trimmed s.toList) with
  | some n => .ok n
  | none => .error "SyntaxError"

end IcttSentinel.Lib
