/-
The log source of apps/agent/src/log-source.ts: the endpoints of a chain grouped into witnesses, and a
range read from one witness. An endpoint is asked through a parameter; what it answers is decoded and
refused when it has another shape.
-/
import IcttSentinel.Agent.Plan
import IcttSentinel.Lib.JsonRead
import IcttSentinel.RpcQuorum.Endpoints
import IcttSentinel.RpcQuorum.Operations

namespace IcttSentinel.Agent

open IcttSentinel.Config IcttSentinel.Lib IcttSentinel.Replay IcttSentinel.RpcQuorum IcttSentinel.Storage

/-- A `DecodeError`, or any other rejection. -/
inductive SourceError where
  | decode (message : String)
  | other (message : String)
  deriving DecidableEq, Repr

def SourceError.message : SourceError → String
  | .decode message => message
  | .other message => message

/-- `LogSourceOptions`. A read that is rejected carries its message; the number is that of the fetches so
far. -/
structure LogSourceOptions where
  chains : List ChainWiring
  read : Nat → Endpoint → ReadOperation → Except String Json
  hostnameOf : Endpoint → Option String
  now : Nat → Int

/-! ## Decoding -/

def expect {α : Type} (message : String) : Option α → Except SourceError α
  | none => .error (.decode message)
  | some a => .ok a

def refuseIf (refused : Bool) (message : String) : Except SourceError Unit :=
  if refused then .error (.decode message) else .ok ()

def quantity (value : Option Json) : Except SourceError Int := do
  let s ← expect "invalid RPC quantity" (value.bind Json.string?)
  refuseIf (!isHexQuantity s || s.length > 66) "invalid RPC quantity"
  return hexValue s

def smallQuantity (value : Option Json) : Except SourceError Int := do
  let v ← quantity value
  refuseIf (v > 1000000) "index out of range"
  return v

def hash32 (value : Option Json) : Except SourceError String :=
  expect "invalid bytes32" ((value.bind Json.string?).filter (matchesHex "0x" 64))

def asObject (value : Json) : Except SourceError Json :=
  if value.isObject then .ok value else .error (.decode "expected an object")

def decodeBlock (chainKey : String) (value : Json) (observedAt : Int) : Except SourceError BlockFact := do
  let b ← asObject value
  let blockHash ← hash32 (b.field? "hash")
  let blockNumber ← quantity (b.field? "number")
  let parentHash ← hash32 (b.field? "parentHash")
  let blockTimestamp ← quantity (b.field? "timestamp")
  return { chainKey, blockHash, blockNumber, parentHash, blockTimestamp, observedClass := .accepted, observedAt }

def decodeLog (chainKey : String) (value : Json) (observedAt : Int) : Except SourceError LogFact := do
  let l ← asObject value
  refuseIf ((l.field? "removed").bind Json.bool? = some true) "provider returned a removed log"
  let topics ← expect "invalid topic set" (((l.field? "topics").bind Json.elements?).filter fun topics => topics.length ≤ 4)
  let address ← expect "invalid log address" (((l.field? "address").bind Json.string?).filter (matchesHex "0x" 40))
  let data ← expect "invalid log data" (((l.field? "data").bind Json.string?).filter isHexData)
  let blockHash ← hash32 (l.field? "blockHash")
  let txHash ← hash32 (l.field? "transactionHash")
  let logIndex ← smallQuantity (l.field? "logIndex")
  let blockNumber ← quantity (l.field? "blockNumber")
  let txIndex ← smallQuantity (l.field? "transactionIndex")
  let topics ← topics.mapM fun t => hash32 (some t)
  return { chainKey, blockHash, txHash, logIndex, blockNumber, txIndex, address, topics, data, observedAt }

/-! ## Witnesses -/

/-- `position`: the index in the manifest under the id of the endpoint; the last one counts. -/
def position (endpoints : List Endpoint) (e : Endpoint) : Nat :=
  ((endpoints.zipIdx.filter fun entry => entry.1.id = e.id).getLast?.map (·.2)).getD 0

/-- A witness is keyed by its provider groups. -/
def witnessKey (group : List Endpoint) : String :=
  "+".intercalate (sortStrings ((group.map (·.providerGroup.val)).dedup))

/-- The failure domains of the endpoints, in the order of the manifest. -/
def witnessGroups (endpoints : List Endpoint) (hostnameOf : Endpoint → Option String) : List (List Endpoint) :=
  let merges := correlateEndpoints (endpoints.map (correlationInput hostnameOf))
  let groups := collapsedIndependenceGroups endpointClaim (·.id.val) endpoints merges
  sortOn (fun group => (group.head?.map (position endpoints)).getD 0) (groups.map (sortOn (position endpoints)))

def byWitness (endpoints : List Endpoint) (hostnameOf : Endpoint → Option String) :
    Keyed (Prod.fst : String × List Endpoint → String) :=
  Keyed.upsertAll ∅ ((witnessGroups endpoints hostnameOf).map fun group => (witnessKey group, group))

/-! ## Reading a range -/

/-- `assertLogRange`. -/
def assertLogRange (range : BlockRange) (maxRangeBlocks : Nat) : Except SourceError Unit :=
  let span := range.toBlock - range.fromBlock + 1
  if range.toBlock < range.fromBlock then .error (.other "log range ends before it starts")
  else if span > maxRangeBlocks then
    .error (.other ("log range of " ++ toString span ++ " blocks exceeds the limit of " ++ toString maxRangeBlocks ++
      "; split the scan instead of widening the limit"))
  else .ok ()

/-- The heights to read: the ends of the range, and those of the logs. -/
def heightsOf (range : BlockRange) (logs : List LogFact) : List Int :=
  sortOn id (range.fromBlock :: range.toBlock :: logs.map (·.blockNumber)).dedup

section Observe

variable (ask : ReadOperation → Except SourceError Json) (chainKey : String) (maxRangeBlocks : Nat)
  (providerGroup : String) (range : BlockRange) (observedAt : Int) (viaArchive : Bool)

/-- What `fetchRange` tries, with the endpoints of one witness behind `ask`. -/
def observe : Except SourceError FetchOutcome := do
  assertLogRange range maxRangeBlocks
  let rawLogs ← ask (.logs range.fromBlock range.toBlock none none)
  let elements ← expect "log response is not an array" rawLogs.elements?
  let logs ← elements.mapM fun l => decodeLog chainKey l observedAt
  let blocks ← (heightsOf range logs).mapM fun height => do
    let raw ← ask (.blockByRef (.number height))
    decodeBlock chainKey raw observedAt
  match blocks.find? (·.blockNumber = range.fromBlock), blocks.find? (·.blockNumber = range.toBlock) with
  | some start, some end_ =>
    if logs.any fun l => !(blocks.map (·.blockHash)).contains l.blockHash then
      return .failed .missingBlock providerGroup
    else return .ok {
      providerGroup
      range
      startBlockHash := start.blockHash
      endBlockHash := end_.blockHash
      logCount := logs.length
      logs
      blocks
      complete := true
      viaArchive }
  | _, _ => return .failed .silentTruncation providerGroup

end Observe

/-- The first endpoint of a witness that answers; the last rejection when none does. -/
def readOne (read : Endpoint → ReadOperation → Except String Json) (op : ReadOperation) (lastError : SourceError) :
    List Endpoint → Except SourceError Json
  | [] => .error lastError
  | e :: rest =>
    match read e op with
    | .ok value => .ok value
    | .error message => readOne read op (.other message) rest

section Source

variable (options : LogSourceOptions)

/-- The last chain wired under a key, as a `Map` keeps it. -/
def wiringAt (chainKey : String) : Option ChainWiring := (options.chains.filter (·.chainKey = chainKey)).getLast?

def witnessesAt (chainKey : String) : List (String × List Endpoint) :=
  ((wiringAt options chainKey).map fun w => (byWitness w.endpoints options.hostnameOf).rows).getD []

def endpointsOf (chainKey group : String) : List Endpoint :=
  (((wiringAt options chainKey).bind fun w => (byWitness w.endpoints options.hostnameOf).lookup group).map (·.2)).getD []

/-- `readOne` of the log source. -/
def readGroup (clock : Nat) (chainKey group : String) (op : ReadOperation) : Except SourceError Json :=
  readOne (options.read clock) op (.decode "no endpoint in this provider group") (endpointsOf options chainKey group)

/-- The head a witness reports. -/
def headOf (chainKey group : String) : Except SourceError Int :=
  if (wiringAt options chainKey).any (·.finality = .settledQuorum) then do
    let raw ← readGroup options 0 chainKey group (.blockByRef .finalized)
    let block ← decodeBlock chainKey raw (options.now 0)
    return block.blockNumber
  else do
    let raw ← readGroup options 0 chainKey group .headBlockNumber
    quantity (some raw)

/-- `agreedAcceptedHead`: the least head of all witnesses. -/
def agreedAcceptedHead (chainKey : String) : Except SourceError Int := do
  let heads ← ((witnessesAt options chainKey).map (·.1)).mapM (headOf options chainKey)
  match heads with
  | [] => throw (.decode "no provider group configured")
  | head :: heads => return heads.foldl min head

def fetchRange (clock : Nat) (chainKey group : String) (range : BlockRange) : FetchOutcome :=
  let maxRangeBlocks := ((wiringAt options chainKey).map (·.maxRangeBlocks)).getD 1
  let viaArchive := (endpointsOf options chainKey group).any (·.archiveDepth = .full)
  match observe (readGroup options clock chainKey group) chainKey maxRangeBlocks group range (options.now clock)
    viaArchive with
  | .ok outcome => outcome
  | .error (.decode _) => .failed .emptyResponseAmbiguity group
  | .error (.other _) => .failed .retryBudgetExhausted group

/-- `createLogSource`: the port that the replay engine reads through. -/
def createLogSource : LogSourcePort where
  agreedAcceptedHead chainKey := (agreedAcceptedHead options chainKey).mapError SourceError.message
  providerGroups _ chainKey := (witnessesAt options chainKey).map (·.1)
  maxRangeBlocks chainKey _ := ((wiringAt options chainKey).map fun w => (w.maxRangeBlocks : Int)).getD 1
  fetchRange clock chainKey group range := .ok (fetchRange options clock chainKey group range)

end Source

end IcttSentinel.Agent
