/-
The discovery of remotes, apps/cli/src/discovery.ts. An invocation scans one bounded range of registration logs, commits
it once independent readers agree, and leaves a checkpoint that a later invocation can resume from. Endpoints may answer
otherwise from one read to the next; the signal and every write can end an invocation.
-/
import IcttSentinel.Cli.Configured
import IcttSentinel.Collector.Answers
import IcttSentinel.Config.Baseline
import IcttSentinel.InvariantCore.Earned
import IcttSentinel.Lib.Scanning
import IcttSentinel.RpcQuorum.Endpoints

namespace IcttSentinel.Cli

open IcttSentinel.Collector IcttSentinel.Config IcttSentinel.Lib IcttSentinel.RpcQuorum
open IcttSentinel.Evidence (JsValue Nfc canonicalStringify domainSeparatedSha256 isDecimal decimalValue jsonParse property sortedKeys)
open IcttSentinel.Storage (matchesHex)

/-! ## Values -/

/-- Bad input ends an invocation; its class is what the caller reacts to. -/
def orInput {α : Type} (message : String) : Option α → Except Failure α := orFail "InputError" message

def inputUnless (ok : Bool) (message : String) : Except Failure Unit := orInput message (if ok then some () else none)

def object (value : Json) : Except Failure Json := orInput "Expected object." (some value |>.filter Json.isObject)

def hexQuantity (value : Option String) : Except Failure Int := do
  let s ← orFail "ReadFailure" "Invalid RPC quantity." (value.filter fun s => isHexQuantity s && s.length ≤ 66)
  return hexValue s

def bytes32 (value : Option String) : Except Failure String :=
  orFail "ReadFailure" "Invalid bytes32." (value.filter (matchesHex "0x" 64))

/-! ## Registrations -/

@[ext]
structure Registration where
  blockchainId : String
  address : String
  collateral : String
  decimals : Int
  blockNumber : String
  blockHash : String
  txHash : String
  logIndex : String
  deriving DecidableEq, Repr

namespace Registration

def number (r : Registration) : Int := decimalValue r.blockNumber

/-- Registrations are in chain order by their block and their place in it. -/
def order (r : Registration) : Lex (Int × Int) := toLex (r.number, decimalValue r.logIndex)

/-- Two logs at one place of one block are the same log. -/
def place (r : Registration) : String := r.blockHash ++ "/" ++ r.logIndex

/-- What a remote is known by. -/
def remote (r : Registration) : String := r.blockchainId ++ "/" ++ r.address

def json (r : Registration) : Json :=
  .obj [("blockchainId", .str r.blockchainId), ("address", .str r.address), ("collateral", .str r.collateral),
    ("decimals", .num r.decimals), ("blockNumber", .str r.blockNumber), ("blockHash", .str r.blockHash),
    ("txHash", .str r.txHash), ("logIndex", .str r.logIndex)]

end Registration

/-- `REGISTRATION_TOPIC`. -/
def registrationTopic (keccak256 : List Int → String) : String :=
  keccak256 ("RemoteRegistered(bytes32,address,uint256,uint8)".toList.map fun c => (c.toNat : Int))

/-- The second topic, the third and the data of a log that is well formed. -/
def registrationParts (topic home : String) (start stop n : Int) (log : Json) : Option (Option String × String × String) := do
  let topics ← (log.field? "topics").bind Json.elements?
  let third ← ((topics[2]?).bind Json.string?).filter (matchesHex ("0x" ++ String.ofList (List.replicate 24 '0')) 40)
  let data ← ((log.field? "data").bind Json.string?).filter (matchesHex "0x" 128)
  if (log.field? "address").bind Json.string? = some home && (log.field? "removed").bind Json.bool? = some false &&
      start ≤ n && n ≤ stop && topics.length = 3 && (topics[0]?).bind Json.string? = some topic
    then some ((topics[1]?).bind Json.string?, third, data) else none

/-- `BigInt` of digits behind `0x`. -/
def hexDigitsValue (digits : List Char) : Int := hexValue ("0x" ++ String.ofList digits)

def decode (topic home : String) (start stop : Int) (value : Json) : Except Failure Registration := do
  let log ← object value
  let text (name : String) : Option String := (log.field? name).bind Json.string?
  let n ← hexQuantity (text "blockNumber")
  let (second, third, data) ← orInput "Invalid registration log." (registrationParts topic home start stop n log)
  let decimals := hexDigitsValue (data.toList.drop 66)
  inputUnless (decimals ≤ 77) "Unsupported registration decimals."
  let blockchainId ← bytes32 second
  let blockHash ← bytes32 (text "blockHash")
  let txHash ← bytes32 (text "transactionHash")
  let logIndex ← hexQuantity (text "logIndex")
  return {
    blockchainId
    address := "0x" ++ String.ofList (third.toList.drop 26)
    collateral := toString (hexDigitsValue ((data.toList.drop 2).take 64))
    decimals
    blockNumber := toString n
    blockHash
    txHash
    logIndex := toString logIndex }

/-! ## What invocations share, and what each meets -/

/-- The manifest that is left for review, as far as it differs from the one that was read. -/
structure Candidate where
  remotes : List ReviewedRemote
  completeness : CensusCompleteness
  discovery : Config.Discovery

/-- What is the same for every invocation. Reading a candidate back may refuse it. -/
structure Survey where
  nfc : Nfc
  sha256 : String → String
  keccak256 : List Int → String
  manifest : ReviewedManifest
  censusFromBlock : Nat
  policy : Policy
  /-- The policy as the value that the checkpoint is bound to. -/
  policyDocument : JsValue
  pins : List ChainPin
  loadManifest : Candidate → Except Failure Unit

/-- The reads of one endpoint, in their order. -/
inductive Moment where
  | probe
  | logs
  | block (i : Nat)
  | after

/-- Where the signal is looked at. -/
inductive Point where
  | endpoint (e : Endpoint)
  | caught (e : Endpoint)
  | commit
  | publish

inductive Written where
  | checkpoint
  | candidate
  | discovery

/-- A file is replaced as a whole or not at all, and the write can fail on either side of that. -/
inductive WriteFate where
  | refused (e : Failure)
  | unsettled (e : Failure)
  | done

structure Invocation where
  resume : Bool
  maxFacts : Nat
  runtime : Moment → ChainReader
  /-- The host an endpoint points at, where the environment tells. -/
  hostnameOf : Endpoint → Option String
  /-- Looking a host up, which the signal ends. -/
  resolveHost : Endpoint → Except Failure Unit
  aborted : Point → Bool
  /-- Why the checkpoint cannot be read, where it cannot. -/
  unreadable : Option Failure
  writes : Written → WriteFate
  discoveredAt : String

def Invocation.throwIfAborted (call : Invocation) (point : Point) : Except Failure Unit :=
  if call.aborted point then .error { name := "AbortError", message := "This operation was aborted" } else .ok ()

namespace Survey

variable (s : Survey)

def topic : String := registrationTopic s.keccak256

def home : Deployment := s.manifest.home

def homePin : Option ChainPin := s.pins.find? fun p => p.blockchainId = s.home.chain.blockchainId

def required : Nat := max s.home.chain.independentTrustDomains s.policy.minIndependentTrustDomains

/-! ## The checkpoint -/

def checkpointVersion : String := "ictt-sentinel/discovery-checkpoint/v1"

def canonicalText (value : JsValue) : Except Failure String :=
  match canonicalStringify s.nfc value with
  | .error e => .error { name := "NonCanonicalValueError", message := e.message }
  | .ok text => .ok text

def digest (value : JsValue) : Except Failure String :=
  (s.canonicalText value).map (domainSeparatedSha256 s.sha256 checkpointVersion)

def binding : Except Failure String :=
  s.digest (.obj [("manifest", .str s.manifest.digest), ("policy", s.policyDocument),
    ("pins", .array (fun p : ChainPin => .obj [("blockchainId", .str p.blockchainId),
      ("blockNumber", .str (toString p.blockNumber)), ("blockHash", .str p.blockHash)]) s.pins),
    ("topic", .str s.topic)])

def checkpointFields (binding : String) (p : Progress Registration) : List (String × Json) :=
  [("schemaVersion", .str checkpointVersion), ("binding", .str binding), ("next", .str (toString p.next)),
    ("registrations", .arr (p.found.map Registration.json))]

/-- What is written to the checkpoint. -/
def checkpointText (p : Progress Registration) : Except Failure String := do
  let binding ← s.binding
  let contentHash ← s.digest (JsValue.ofJson (.obj (checkpointFields binding p)))
  return Json.stringify (.obj (checkpointFields binding p ++ [("contentHash", .str contentHash)]))

end Survey

def jsEntries (message : String) : JsValue → Except Failure (List (String × JsValue))
  | .obj entries => .ok entries
  | _ => orInput message none

def jsString? : JsValue → Option String
  | .str s => some s
  | _ => none

def jsInteger? : JsValue → Option Int
  | .integer n => some n
  | _ => none

def jsElements? : JsValue → Option (List JsValue)
  | .arr elements => some elements.reduceOption
  | _ => none

/-- A registration of a checkpoint. The texts of its block number and its index are not looked at further than the source
does; a row without them is none that was written. -/
def readRow (start next : Int) (row : JsValue) : Except Failure Registration := do
  let entries ← jsEntries "" row
  let text (name : String) : Option String := jsString? (property entries name)
  let address ← orInput "" ((text "address").filter (matchesHex "0x" 40))
  let blockchainId ← bytes32 (text "blockchainId")
  let blockHash ← bytes32 (text "blockHash")
  let txHash ← bytes32 (text "txHash")
  let collateral ← orInput "" ((text "collateral").filter isDecimal)
  let decimals ← orInput "" ((jsInteger? (property entries "decimals")).filter fun n => 0 ≤ n && n ≤ 77)
  let blockNumber ← orInput "" (text "blockNumber")
  let n ← orFail "SyntaxError" "" (bigInt blockNumber).toOption
  inputUnless (n < next && start ≤ n) ""
  let logIndex ← orInput "" (text "logIndex")
  return { blockchainId, address, collateral, decimals, blockNumber, blockHash, txHash, logIndex }

namespace Survey

variable (s : Survey)

/-- The members of a checkpoint that are the right ones: where to go on, and the registrations. -/
def checkpointParts (binding contentHash : String) (entries core : List (String × JsValue)) : Option (String × List JsValue) := do
  let next ← (jsString? (property core "next")).filter isDecimal
  let rows ← jsElements? (property core "registrations")
  if jsString? (property entries "contentHash") = some contentHash && jsString? (property core "binding") = some binding &&
      sortedKeys core = "binding,next,registrations,schemaVersion" &&
      jsString? (property core "schemaVersion") = some checkpointVersion
    then some (next, rows) else none

/-- The checkpoint is a local resume aid, not an independently authenticated census. -/
def readCheckpoint (pin : ChainPin) (binding text : String) : Except Failure (Progress Registration) := do
  let value ← orFail "SyntaxError" "" (jsonParse text)
  let entries ← jsEntries "Expected object." value
  let core := entries.filter fun e => e.1 ≠ "contentHash"
  let contentHash ← s.digest (.obj core)
  let (next, rows) ← orInput "Checkpoint mismatch." (checkpointParts binding contentHash entries core)
  let next := decimalValue next
  inputUnless (s.censusFromBlock ≤ next && next ≤ pin.blockNumber + 1) ""
  let found ← rows.mapM (readRow s.censusFromBlock next)
  return { next, found }

/-- `readDocument`, of a file that is there. -/
def readDocument (call : Invocation) (text : String) : Except Failure String := do
  inputUnless (text.utf8ByteSize ≤ 16 * 1024 * 1024) "Input file refused."
  call.unreadable.elim (.ok text) .error

/-- Where an invocation goes on from. -/
def resumed (call : Invocation) (pin : ChainPin) (binding : String) (checkpoint : Option String) :
    Except Failure (Progress Registration) :=
  if call.resume then do
    let text ← orInput "Checkpoint missing." checkpoint
    let text ← readDocument call text
    s.readCheckpoint pin binding text
  else .ok (.start s.censusFromBlock)

def opening (call : Invocation) (checkpoint : Option String) : Except Failure (ChainPin × Progress Registration) := do
  let pin ← orInput "Home pin required." s.homePin
  let binding ← s.binding
  let p ← s.resumed call pin binding checkpoint
  inputUnless (s.home.contract.deploymentBlock ≤ pin.blockNumber) "Pin precedes deployment."
  return (pin, p)

/-! ## One window -/

/-- The last block of the window that begins at `next`. -/
def windowEnd (pin : ChainPin) (next : Int) : Int :=
  if next + s.policy.maxLogRangeBlocks - 1 < pin.blockNumber then next + s.policy.maxLogRangeBlocks - 1 else pin.blockNumber

/-- The block of a registration is the one it names. -/
def checkBlock (runtime : ChainReader) (e : Endpoint) (r : Registration) : Except Failure Unit := do
  let raw ← runtime.read e (.blockByRef (.number r.number))
  let block ← object raw
  let hash ← bytes32 ((block.field? "hash").bind Json.string?)
  let same ← andAlso (hash = r.blockHash) do
    let number ← hexQuantity ((block.field? "number").bind Json.string?)
    return number = r.number
  inputUnless same "Historical hash disagreement."

/-- The elements of an answer that is a list of at most `bound`. -/
def boundedElements (bound : Nat) (raw : Json) : Option (List Json) := raw.elements?.filter fun elements => elements.length ≤ bound

/-- Sorted logs, where none is there twice, their blocks are the ones they name, and the pin still stands. -/
def checkLogs (call : Invocation) (pin : ChainPin) (e : Endpoint) (logs : List Registration) :
    Except Failure (Option (List Registration)) :=
  if (logs.map (·.place)).Nodup then do
    let _ ← logs.zipIdx.mapM fun (r, i) => checkBlock (call.runtime (.block i)) e r
    let raw ← (call.runtime .after).read e (.blockByRef (.number pin.blockNumber))
    let after ← object raw
    let hash ← bytes32 ((after.field? "hash").bind Json.string?)
    return if hash = pin.blockHash then some logs else none
  else .ok none

/-- What an endpoint has for a window: none where it is passed over, a failure where it is given up. -/
def logsOf (call : Invocation) (pin : ChainPin) (start stop : Int) (e : Endpoint) : Except Failure (Option (List Registration)) := do
  let probe ← probeDeployment s.keccak256 s.home (call.runtime .probe) e pin
  if probe.identity && probe.finality && probe.fingerprint && probe.archive then
    let raw ← (call.runtime .logs).read e (.logs start stop (some s.home.contract.address) (some [some s.topic]))
    match boundedElements call.maxFacts raw with
    | none => return none
    | some elements =>
      let decoded ← elements.mapM (decode s.topic s.home.contract.address start stop)
      checkLogs call pin e (sortOn Registration.order decoded)
  else return none

/-- An endpoint that was tried: a failure counts as no logs, unless the signal ends the invocation. -/
def triedLogs (call : Invocation) (e : Endpoint) :
    Except Failure (Option (List Registration)) → Except Failure (List (Endpoint × List Registration))
  | .ok logs => .ok (logs.toList.map (e, ·))
  | .error _ => (call.throwIfAborted (.caught e)).map fun _ => []

/-- The witnesses among endpoints, with what they have for a window. -/
def witnessesOf (call : Invocation) (pin : ChainPin) (start stop : Int) :
    List Endpoint → Except Failure (List (Endpoint × List Registration))
  | [] => .ok []
  | e :: endpoints => do
    call.throwIfAborted (.endpoint e)
    let found ← triedLogs call e (s.logsOf call pin start stop e)
    let rest ← witnessesOf call pin start stop endpoints
    return found ++ rest

def identify (e : Endpoint) : String := witnessId s.sha256 s.manifest.name.val e.id.val

/-- The merges of endpoints that are not what they are declared to be. -/
def merges (call : Invocation) : List (String × String) :=
  correlateEndpoints (s.home.chain.endpoints.map fun e => {
    endpointId := s.identify e
    trustDomain := e.trustDomain.val
    secretRef := e.secretRef
    hostname := call.hostnameOf e })

/-- The independent groups among witnesses. -/
def independent (call : Invocation) (counted : List Endpoint) : Nat :=
  (collapsedIndependenceGroups endpointClaim s.identify counted (s.merges call)).length

def logsValue (logs : List Registration) : JsValue := .array (fun r : Registration => JsValue.ofJson r.json) logs

/-- What all witnesses have, where their texts are one. -/
def agreedLogs (witnesses : List (Endpoint × List Registration)) : Except Failure (Option (List Registration)) := do
  let texts ← witnesses.mapM fun w => s.canonicalText (logsValue w.2)
  return if texts.eraseDups.length ≠ 1 then none else some ((witnesses.head?.map (·.2)).getD [])

/-- The logs of a window, where enough independent witnesses agree on them. -/
def quorumLogs (call : Invocation) (witnesses : List (Endpoint × List Registration)) : Except Failure (Option (List Registration)) :=
  if s.independent call (witnesses.map (·.1)) < s.required then .ok none else s.agreedLogs witnesses

/-- What becomes of the window of an invocation. -/
inductive Scan where
  | exhausted
  | insufficient (collapsed : Bool)
  | agreed (p : Progress Registration)

def scan (call : Invocation) (pin : ChainPin) (p : Progress Registration) : Except Failure Scan :=
  if p.next ≤ pin.blockNumber then do
    let stop := s.windowEnd pin p.next
    let witnesses ← s.witnessesOf call pin p.next stop s.home.chain.endpoints
    let _ ← s.home.chain.endpoints.mapM call.resolveHost
    let logs ← s.quorumLogs call witnesses
    return match logs with
      | none => .insufficient !(s.merges call).isEmpty
      | some logs => .agreed { next := stop + 1, found := p.found ++ logs }
  else .ok .exhausted

end Survey

/-! ## The candidate and the result -/

structure CandidateRemote where
  registration : Registration
  trusted : Bool
  deriving DecidableEq, Repr

structure ChangedRemote where
  key : String
  observedDecimals : Int
  deriving DecidableEq, Repr

structure DiscoveryResult where
  complete : Bool
  fromBlock : Nat
  scannedThrough : Int
  pin : ChainPin
  baselineDigest : String
  approvedManifestModified : Bool
  candidateRequiresReview : Bool
  candidateRemotes : List CandidateRemote
  added : List String
  missing : List String
  changed : List ChangedRemote
  unresolvedRemoteConfiguration : List String
  note : String
  exitCode : Nat
  deriving DecidableEq, Repr

inductive Outcome where
  | insufficient (missing : List String) (exitCode : Nat)
  | scanned (result : DiscoveryResult)
  deriving DecidableEq, Repr

def insufficientOutcome (collapsed : Bool) : Outcome :=
  .insufficient
    (if collapsed then ["independent-registration-quorum-or-log-bound", "endpoint-independence-collapsed"]
      else ["independent-registration-quorum-or-log-bound"])
    InvariantCore.exitCodes.requiredUnknown

/-- What an approved remote is known by. -/
def ReviewedRemote.key (r : ReviewedRemote) : String := r.deployment.chain.blockchainId ++ "/" ++ r.deployment.contract.address

namespace Survey

variable (s : Survey)

/-- The registrations by their remotes; a later one replaces one of the same remote. -/
def byRemote (registrations : List Registration) : Keyed Registration.remote := (∅ : Keyed Registration.remote).upsertAll registrations

def approved : Keyed ReviewedRemote.key := (∅ : Keyed ReviewedRemote.key).upsertAll s.manifest.remotes

def candidateOf (pin : ChainPin) (rows : Keyed Registration.remote) (complete : Bool) (added missing : List String)
    (discoveredAt : String) : Candidate where
  remotes := s.manifest.remotes.map fun r => {
    r with expectedDecimals := ((rows.lookup r.key).map (·.decimals.toNat)).getD r.expectedDecimals }
  completeness := if complete && added.isEmpty && missing.isEmpty then .completeFromDeploymentBlock else .incomplete
  discovery := { discoveredAt, tool := "ictt-sentinel", atBlock := pin.blockNumber.toNat }

/-- The candidate and the result, where no remote was registered twice and the candidate can be read back. -/
def assembled (call : Invocation) (pin : ChainPin) (p : Progress Registration) : Except Failure (Candidate × DiscoveryResult) := do
  let rows := byRemote p.found
  inputUnless (rows.rows.length = p.found.length) "Conflicting registration history."
  let complete := decide (p.next > pin.blockNumber)
  let added := (rows.rows.map (·.remote)).filter fun k => !s.approved.has k
  let missing := (s.approved.rows.map (·.key)).filter fun k => !rows.has k
  let changed := (rows.rows.filter fun r =>
    (s.approved.lookup r.remote).any fun approved => (approved.expectedDecimals : Int) ≠ r.decimals).map fun r =>
      { key := r.remote, observedDecimals := r.decimals : ChangedRemote }
  let candidate := s.candidateOf pin rows complete added missing call.discoveredAt
  s.loadManifest candidate
  return (candidate, {
    complete
    fromBlock := s.censusFromBlock
    scannedThrough := p.next - 1
    pin
    baselineDigest := s.manifest.digest
    approvedManifestModified := false
    candidateRequiresReview := true
    candidateRemotes := rows.rows.map fun registration => { registration, trusted := false }
    added
    missing
    changed
    unresolvedRemoteConfiguration := added
    note := "New remotes need operator-supplied chain identity, deployment block, endpoints and fingerprint before " ++
      "inclusion. Missing observations are not removals. Checkpoint integrity is local tamper evidence, not RPC " ++
      "authentication."
    exitCode := InvariantCore.exitCodes.requiredUnknown })

end Survey

/-! ## Files -/

/-- The files of the evidence root. -/
structure Disk where
  checkpoint : Option String
  candidate : Option Candidate
  discovery : Option DiscoveryResult

/-- `writeAtomic`: what is on the disk afterwards, and how the write ends. -/
def writeAtomic (fate : WriteFate) (disk written : Disk) : Disk × Except Failure Unit :=
  match fate with
  | .refused e => (disk, .error e)
  | .unsettled e => (written, .error e)
  | .done => (written, .ok ())

namespace Survey

variable (s : Survey)

def publish (call : Invocation) (pin : ChainPin) (p : Progress Registration) (disk : Disk) : Disk × Except Failure Outcome :=
  match (do
    let files ← s.assembled call pin p
    call.throwIfAborted .publish
    return files : Except Failure (Candidate × DiscoveryResult)) with
  | .error e => (disk, .error e)
  | .ok (candidate, result) =>
    match writeAtomic (call.writes .candidate) disk { disk with candidate := some candidate } with
    | (disk, .error e) => (disk, .error e)
    | (disk, .ok ()) =>
      match writeAtomic (call.writes .discovery) disk { disk with discovery := some result } with
      | (disk, .error e) => (disk, .error e)
      | (disk, .ok ()) => (disk, .ok (.scanned result))

def commit (call : Invocation) (pin : ChainPin) (p : Progress Registration) (disk : Disk) : Disk × Except Failure Outcome :=
  match (do
    call.throwIfAborted .commit
    s.checkpointText p : Except Failure String) with
  | .error e => (disk, .error e)
  | .ok text =>
    match writeAtomic (call.writes .checkpoint) disk { disk with checkpoint := some text } with
    | (disk, .error e) => (disk, .error e)
    | (disk, .ok ()) => s.publish call pin p disk

/-- Each invocation commits one bounded range only after independent readers agree. -/
def discoverConfigured (call : Invocation) (disk : Disk) : Disk × Except Failure Outcome :=
  match s.opening call disk.checkpoint with
  | .error e => (disk, .error e)
  | .ok (pin, p) =>
    match s.scan call pin p with
    | .error e => (disk, .error e)
    | .ok .exhausted => s.publish call pin p disk
    | .ok (.insufficient collapsed) => (disk, .ok (insufficientOutcome collapsed))
    | .ok (.agreed p) => s.commit call pin p disk

/-- The invocations one after the other, with what each ends with. -/
def run (disk : Disk) : List Invocation → Disk × List (Except Failure Outcome)
  | [] => (disk, [])
  | call :: calls =>
    let (disk, outcome) := s.discoverConfigured call disk
    let (disk, outcomes) := run disk calls
    (disk, outcome :: outcomes)

end Survey

end IcttSentinel.Cli
