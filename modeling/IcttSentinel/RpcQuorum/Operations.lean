/-
The read operations of packages/rpc-quorum/src/operations.ts, as far as they are asked for here, and the
texts that answers carry their numbers and bytes in.
-/
import IcttSentinel.Storage.Schema

namespace IcttSentinel.RpcQuorum

open IcttSentinel.Storage

inductive BlockRef where
  | finalized
  | number (number : Int)
  deriving DecidableEq, Repr

/-- A pinned read carries the number of its block. -/
inductive ReadOperation where
  | evmChainId
  | networkVersion
  | headBlockNumber
  | blockByRef (ref : BlockRef)
  | logs (fromBlock toBlock : Int) (address : Option String) (topics : Option (List (Option String)))
  | call (to_ data : String) (number : Int)
  | code (address : String) (number : Int)
  | storageSlot (address slot : String) (number : Int)
  | warpBlockchainId (number : Int)
  deriving DecidableEq, Repr

/-- `HEX_QUANTITY`, `^0x(0|[1-9a-f][0-9a-f]*)$`. -/
def isHexQuantity (s : String) : Bool :=
  match s.toList with
  | '0' :: 'x' :: c :: cs => (c = '0' && cs.isEmpty) || (c ≠ '0' && (c :: cs).all isLowerHex)
  | _ => false

def hexDigitValue (c : Char) : Int := if c.isDigit then c.toNat - '0'.toNat else c.toNat - 'a'.toNat + 10

/-- `BigInt` of a text in hexadecimal. -/
def hexValue (s : String) : Int := (s.toList.drop 2).foldl (fun n c => 16 * n + hexDigitValue c) 0

/-- `HEX_DATA`, `^0x([0-9a-f]{2})*$`. -/
def isHexData (s : String) : Bool :=
  "0x".toList.isPrefixOf s.toList && (s.toList.drop 2).length % 2 = 0 && (s.toList.drop 2).all isLowerHex

end IcttSentinel.RpcQuorum
