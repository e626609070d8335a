/-
One reading of a chain at a pin, packages/collector/src/read.ts: bounded scans of logs, the blocks behind
them, pinned calls, and a second look at the pin. A reading that misses anything is refused; readings are
compared as canonical texts.
-/
import IcttSentinel.Collector.Probe
import IcttSentinel.Evidence.Fields
import IcttSentinel.Lib.Sorting

namespace IcttSentinel.Collector

open IcttSentinel.Config IcttSentinel.Evidence IcttSentinel.Lib IcttSentinel.RpcQuorum IcttSentinel.Storage

/-- Quantities are kept as integers; the canonical text writes them in decimal, as the source does. -/
@[ext]
structure RawLog where
  address : String
  topics : List String
  data : String
  blockNumber : Int
  blockHash : String
  transactionHash : String
  logIndex : Int
  deriving DecidableEq, Repr

/-- `none` among the topics stands for any. -/
structure LogQuery where
  name : String
  address : String
  topics : List (Option String)
  fromBlock : Int
  deriving DecidableEq, Repr

structure CallQuery where
  name : String
  to_ : String
  data : String
  deriving DecidableEq, Repr

/-- What one side is asked: queries under plain names, no two of one kind under one name. -/
structure Queries where
  logs : List LogQuery
  calls : List CallQuery
  logNames_nodup : (logs.map (·.name)).Nodup
  callNames_nodup : (calls.map (·.name)).Nodup
  logNames_ascii : ∀ q ∈ logs, Ascii q.name
  callNames_ascii : ∀ c ∈ calls, Ascii c.name

@[ext]
structure BlockRecord where
  hash : String
  timestamp : Int
  deriving DecidableEq, Repr

@[ext]
structure ReadingPin where
  blockNumber : Int
  blockHash : String
  timestamp : Int
  deriving DecidableEq, Repr

@[ext]
structure ChainReading where
  pin : ReadingPin
  logs : Keyed (Prod.fst : String × List RawLog → String)
  blocks : Keyed (Prod.fst : Int × BlockRecord → Int)
  calls : Keyed (Prod.fst : String × String → String)
  deriving DecidableEq

def refuseIf (refused : Bool) (message : String) : Except Failure Unit :=
  if refused then .error { name := "ReadingRefused", message } else .ok ()

def exceedIf (exceeded : Bool) (message : String) : Except Failure Unit :=
  if exceeded then .error { name := "CollectionBoundExceeded", message } else .ok ()

/-! ## Windows -/

/-- The windows of a scan, none wider than `width`; the fuel is the number of blocks left. -/
def windowsFrom (width : Nat) (last : Int) : Nat → Int → List (Int × Int)
  | 0, _ => []
  | fuel + 1, start =>
    if start ≤ last then
      let stop := if start + (width - 1) < last then start + (width - 1) else last
      (start, stop) :: windowsFrom width last fuel (stop + 1)
    else []

def windowsOf (width : Nat) (start last : Int) : List (Int × Int) :=
  windowsFrom width last (last + 1 - start).toNat start

/-! ## Reading -/

section Read

variable (runtime : ChainReader) (endpoint : Endpoint) (pin : ChainPin) (maxRangeBlocks maxLogs : Nat)

def readBlock (number : Int) : Except Failure BlockRecord := do
  let b ← blockAt runtime endpoint number
  let read ← hexQuantity (b.field? "number")
  refuseIf (read ≠ number) "block number mismatch"
  let hash ← bytes32 (b.field? "hash")
  let timestamp ← hexQuantity (b.field? "timestamp")
  return { hash, timestamp }

/-- Whether the topics of a log pass the filter of the query. -/
def passesFilter (query : LogQuery) (topics : List String) : Bool :=
  query.topics.zipIdx.all fun (topic, i) => topic.isNone || topics[i]? = topic

/-- An address is compared in lower case, which is the case of the query. -/
def decodeLog (query : LogQuery) (start stop : Int) (value : Json) : Except Failure RawLog := do
  let l ← object value
  let n ← hexQuantity (l.field? "blockNumber")
  let logIndex ← hexQuantity (l.field? "logIndex")
  let refused {α : Type} : Option α → Except Failure α := orFail "ReadingRefused" "log outside its query or malformed"
  let address ← refused (((l.field? "address").bind Json.string?).filter fun a => a.toLower = query.address)
  let elements ← refused (((l.field? "topics").bind Json.elements?).filter fun ts => 0 < ts.length && ts.length ≤ 4)
  let topics ← elements.mapM fun t => refused (t.string?.filter (matchesHex "0x" 64))
  let data ← refused (((l.field? "data").bind Json.string?).filter isHexData)
  refuseIf ((l.field? "removed").bind Json.bool? ≠ some false || n < start || n > stop || logIndex > 1000000)
    "log outside its query or malformed"
  -- a log it should not have returned means the answer cannot be trusted as complete either
  refuseIf (!passesFilter query topics) "log does not match its filter"
  let blockHash ← bytes32 (l.field? "blockHash")
  let transactionHash ← bytes32 (l.field? "transactionHash")
  return { address := address.toLower, topics, data, blockNumber := n, blockHash, transactionHash, logIndex }

/-- `order`. -/
def logOrder (l : RawLog) : Lex (Int × Int) := toLex (l.blockNumber, l.logIndex)

/-- One window of a scan: the logs so far of all queries are counted, those of this one collected. -/
def scanWindow (query : LogQuery) (state : Nat × List RawLog) (window : Int × Int) : Except Failure (Nat × List RawLog) := do
  let raw ← runtime.read endpoint (.logs window.1 window.2 (some query.address) (some query.topics))
  let elements ← orFail "ReadingRefused" "log response is not an array" raw.elements?
  let total := state.1 + elements.length
  exceedIf (total > maxLogs) "log bound exceeded"
  let found ← elements.mapM (decodeLog query window.1 window.2)
  return (total, state.2 ++ found)

def scanQuery (state : Nat × Keyed (Prod.fst : String × List RawLog → String)) (query : LogQuery) :
    Except Failure (Nat × Keyed (Prod.fst : String × List RawLog → String)) := do
  let (total, found) ← (windowsOf maxRangeBlocks query.fromBlock pin.blockNumber).foldlM
    (scanWindow runtime endpoint maxLogs query) (state.1, [])
  return (total, state.2.upsert (query.name, sortOn logOrder found))

def readHeight (blocks : Keyed (Prod.fst : Int × BlockRecord → Int)) (height : Int) :
    Except Failure (Keyed (Prod.fst : Int × BlockRecord → Int)) := do
  let b ← readBlock runtime endpoint height
  return blocks.upsert (height, b)

def readCall (calls : Keyed (Prod.fst : String × String → String)) (call : CallQuery) :
    Except Failure (Keyed (Prod.fst : String × String → String)) := do
  let raw ← runtime.read endpoint (.call call.to_ call.data pin.blockNumber)
  let result ← orFail "ReadingRefused" "call result is not hex" (raw.string?.filter isHexData)
  return calls.upsert (call.name, result)

def readChain (queries : Queries) : Except Failure ChainReading := do
  let pinned ← readBlock runtime endpoint pin.blockNumber
  refuseIf (pinned.hash ≠ pin.blockHash) "pinned hash differs"
  let (_, logs) ← queries.logs.foldlM (scanQuery runtime endpoint pin maxRangeBlocks maxLogs) (0, ∅)
  let all := logs.rows.flatMap (·.2)
  let blocks ← (sortOn id (all.map (·.blockNumber)).eraseDups).foldlM (readHeight runtime endpoint) ∅
  refuseIf (all.any fun l => (blocks.lookup l.blockNumber).map (·.2.hash) ≠ some l.blockHash) "log block hash differs"
  let calls ← queries.calls.foldlM (readCall runtime endpoint pin) ∅
  let after ← readBlock runtime endpoint pin.blockNumber
  refuseIf (after.hash ≠ pin.blockHash) "pinned hash changed during reading"
  return {
    pin := { blockNumber := pin.blockNumber, blockHash := pin.blockHash, timestamp := pinned.timestamp }
    logs
    blocks
    calls }

end Read

/-! ## Texts -/

def RawLog.toJs (l : RawLog) : JsValue :=
  .obj [("address", .str l.address), ("topics", .array .str l.topics), ("data", .str l.data),
    ("blockNumber", .str (toString l.blockNumber)), ("blockHash", .str l.blockHash),
    ("transactionHash", .str l.transactionHash), ("logIndex", .integer l.logIndex)]

def BlockRecord.toJs (b : BlockRecord) : JsValue := .obj [("hash", .str b.hash), ("timestamp", .str (toString b.timestamp))]

def ReadingPin.toJs (p : ReadingPin) : JsValue :=
  .obj [("blockNumber", .str (toString p.blockNumber)), ("blockHash", .str p.blockHash),
    ("timestamp", .str (toString p.timestamp))]

def ChainReading.toJs (r : ChainReading) : JsValue :=
  .obj [("pin", r.pin.toJs),
    ("logs", .obj (r.logs.rows.map fun row => (row.1, .array RawLog.toJs row.2))),
    ("blocks", .obj (r.blocks.rows.map fun row => (toString row.1, row.2.toJs))),
    ("calls", .obj (r.calls.rows.map fun row => (row.1, .str row.2)))]

inductive ReadingAgreement (W : Type) where
  | ok (reading : ChainReading) (witnesses : List W)
  | divergent
  | insufficient

/-- Byte-identical or nothing. -/
def agreeOnReadings {W : Type} (nfc : Nfc) (readings : List (W × ChainReading)) (required : Nat) :
    Except NonCanonicalValueError (ReadingAgreement W) := do
  let texts ← readings.mapM fun r => canonicalStringify nfc r.2.toJs
  return match readings.head? with
    | none => .insufficient
    | some first =>
      if texts.eraseDups.length > 1 then .divergent
      else if readings.length < required then .insufficient
      else .ok first.2 (readings.map (·.1))

end IcttSentinel.Collector
