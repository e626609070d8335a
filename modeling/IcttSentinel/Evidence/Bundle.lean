/-
Evidence bundles, packages/evidence/src/{schema,validate}.ts: the records of a bundle, the closed runtime schema a
candidate is held against, and the view of a candidate as a bundle, which a type cast gives. The rules and the verdict
of a bundle are only compared by their texts and stay documents.
-/
import IcttSentinel.Evidence.ReplayInput

namespace IcttSentinel.Evidence

open IcttSentinel.Lib IcttSentinel.InvariantCore

/-! ## Records -/

/-- `EVIDENCE_SCHEMA_VERSION`. -/
def evidenceSchemaVersion : String := "ictt-sentinel/evidence/v1"

structure ProducerIdentity where
  producer : String
  schemaVersion : String
  buildCommit : String
  artifactChecksum : String

structure SourceLockRef where
  commitSha : String
  sourceLockHash : String
  adapterId : String
  adapterVersion : Int
  adapterEpoch : String

structure ApprovedBaselineRef where
  manifestHash : String
  policyHash : String

/-- A deployment fingerprint, as observed at a pinned block. -/
structure ContractFingerprint where
  role : String
  blockchainId : String
  runtimeCodeHash : String
  address : String
  implementationAddress : Option String
  implementationCodeHash : Option String
  proxyAdmin : Option String
  beacon : Option String
  recognised : Bool

structure PinnedChain where
  blockchainId : String
  evmChainId : String
  blockNumber : String
  blockHash : String
  blockTimestamp : String
  acceptanceEvidence : String
  finalityBasis : String

/-- One witness's vote on one pinned block. -/
structure WitnessVote where
  endpointId : String
  trustDomain : String
  providerGroup : String
  blockchainId : String
  agreedBlockHash : String
  agreed : Bool

structure QuorumMatrix where
  votes : List WitnessVote
  independentGroups : Int
  requiredGroups : Int
  note : String

structure RawFactRefRecord where
  evmChainId : String
  blockHash : String
  txHash : String
  logIndex : Int
  digest : String

structure HistoricalBlock where
  blockchainId : String
  blockNumber : String
  blockHash : String
  acceptanceEvidence : String
  votes : List WitnessVote

structure StateCallRecord where
  blockchainId : String
  target : String
  calldataDigest : String
  resultDigest : String
  observationPath : String
  result : String
  calldata : String
  provenance : String
  blockNumber : String
  blockHash : String

structure CensusRecord where
  completeness : String
  registeredRemotes : List String
  missingRemotes : List String
  remotesWithoutRpc : List String

structure TimelineEntry where
  kind : String
  factDigest : String

structure MessageRecord where
  sourceBlockchainId : String
  destinationBlockchainId : String
  teleporterMessengerAddress : String
  registryProtocolVersion : Int
  messageId : String
  state : String
  timeline : List TimelineEntry
  sendAttempts : Int
  executionAttempts : Int
  envelopeIds : List String
  economicEffectCount : Int

structure CompletenessRecord where
  observedAt : String
  expiresAt : String
  fresh : Bool
  missingEvidence : List String
  contradictoryEvidence : List String

structure AssuranceRecord where
  assuranceMode : String
  assumptions : List String
  exclusions : List String
  nonGoals : List String

/-- Everything the hash covers. -/
structure EvidenceCore where
  producer : ProducerIdentity
  sourceLock : SourceLockRef
  baseline : ApprovedBaselineRef
  deploymentId : String
  fingerprints : List ContractFingerprint
  chains : List PinnedChain
  quorum : QuorumMatrix
  rawFacts : List RawFactRefRecord
  historicalBlocks : Option (List HistoricalBlock)
  stateCalls : List StateCallRecord
  census : CensusRecord
  messages : List MessageRecord
  rules : JsValue
  verdict : JsValue
  completeness : CompletenessRecord
  assurance : AssuranceRecord
  previousBundleHash : Option String
  replayInput : JsValue
  replayEvaluation : JsValue

/-- Rendering metadata. Outside the hash by design. -/
structure EvidencePresentation where
  generatedAt : String
  locale : String
  toolVersion : String

structure EvidenceBundle where
  core : EvidenceCore
  presentation : EvidencePresentation
  contentHash : String

/-! ## The closed runtime schema -/

inductive Shape where
  | s
  | n
  | b
  | any
  | array (element : Shape)
  | nullable (shape : Shape)
  | optional (shape : Shape)
  | record (fields : List (String × Shape))

def strings : Shape := .array .s

def voteShape : Shape :=
  .record [("endpointId", .s), ("trustDomain", .s), ("providerGroup", .s), ("blockchainId", .s), ("agreedBlockHash", .s),
    ("agreed", .b)]

def fingerprintShape : Shape :=
  .record [("role", .s), ("blockchainId", .s), ("runtimeCodeHash", .s), ("address", .s),
    ("implementationAddress", .nullable .s), ("implementationCodeHash", .nullable .s), ("proxyAdmin", .nullable .s),
    ("beacon", .nullable .s), ("recognised", .b)]

def chainShape : Shape :=
  .record [("blockchainId", .s), ("evmChainId", .s), ("blockNumber", .s), ("blockHash", .s), ("blockTimestamp", .s),
    ("acceptanceEvidence", .s), ("finalityBasis", .s)]

def factShape : Shape :=
  .record [("evmChainId", .s), ("blockHash", .s), ("txHash", .s), ("logIndex", .n), ("digest", .s)]

def historicalShape : Shape :=
  .record [("blockchainId", .s), ("blockNumber", .s), ("blockHash", .s), ("acceptanceEvidence", .s),
    ("votes", .array voteShape)]

def stateCallShape : Shape :=
  .record [("blockchainId", .s), ("target", .s), ("calldataDigest", .s), ("resultDigest", .s), ("blockNumber", .s),
    ("blockHash", .s), ("observationPath", .s), ("result", .s), ("calldata", .s), ("provenance", .s)]

def timelineShape : Shape := .record [("kind", .s), ("factDigest", .s)]

def messageShape : Shape :=
  .record [("sourceBlockchainId", .s), ("destinationBlockchainId", .s), ("teleporterMessengerAddress", .s),
    ("registryProtocolVersion", .n), ("messageId", .s), ("state", .s), ("timeline", .array timelineShape),
    ("sendAttempts", .n), ("executionAttempts", .n), ("envelopeIds", strings), ("economicEffectCount", .n)]

def ruleShape : Shape :=
  .record [("ruleId", .s), ("ruleVersion", .s), ("result", .s), ("reasonCodes", strings), ("inputs", .any),
    ("intermediates", .any), ("unit", .s), ("floor", .nullable .s), ("ceil", .nullable .s), ("dust", .nullable .s)]

def verdictShape : Shape :=
  .record [("protocolStatus", .s), ("dataStatus", .s), ("claimMode", .s), ("coverage", .s), ("reasonCodes", strings),
    ("criticalRuleIds", strings), ("unknownRuleIds", strings)]

def coreShape : Shape :=
  .record [
    ("producer", .record [("producer", .s), ("schemaVersion", .s), ("buildCommit", .s), ("artifactChecksum", .s)]),
    ("sourceLock", .record [("commitSha", .s), ("sourceLockHash", .s), ("adapterId", .s), ("adapterVersion", .n),
      ("adapterEpoch", .s)]),
    ("baseline", .record [("manifestHash", .s), ("policyHash", .s)]),
    ("deploymentId", .s),
    ("fingerprints", .array fingerprintShape),
    ("chains", .array chainShape),
    ("quorum", .record [("votes", .array voteShape), ("independentGroups", .n), ("requiredGroups", .n), ("note", .s)]),
    ("rawFacts", .array factShape),
    ("historicalBlocks", .optional (.array historicalShape)),
    ("stateCalls", .array stateCallShape),
    ("census", .record [("completeness", .s), ("registeredRemotes", strings), ("missingRemotes", strings),
      ("remotesWithoutRpc", strings)]),
    ("messages", .array messageShape),
    ("rules", .array ruleShape),
    ("verdict", verdictShape),
    ("completeness", .record [("observedAt", .s), ("expiresAt", .s), ("fresh", .b), ("missingEvidence", strings),
      ("contradictoryEvidence", strings)]),
    ("assurance", .record [("assuranceMode", .s), ("assumptions", strings), ("exclusions", strings),
      ("nonGoals", strings)]),
    ("previousBundleHash", .nullable .s),
    ("replay", .record [("input", .any), ("evaluation", .any)])]

def bundleShape : Shape :=
  .record [("contentHash", .s),
    ("presentation", .record [("generatedAt", .s), ("locale", .s), ("toolVersion", .s)]), ("core", coreShape)]

/-- The entries a value shows, where it is an object and no array. -/
def entries? : JsValue → Option (List (String × JsValue))
  | .obj entries => some entries
  | .classInstance => some []
  | _ => none

mutual

/-- `value.every` skips holes. -/
def matchesShape : Shape → JsValue → Bool
  | .any, .undefined => false
  | .any, _ => true
  | .s, .str _ => true
  | .s, _ => false
  | .b, .bool _ => true
  | .b, _ => false
  | .n, .integer n => isSafeInteger n && n ≥ 0
  | .n, _ => false
  | .array element, .arr elements => elements.reduceOption.all (matchesShape element)
  | .array _, _ => false
  | .nullable _, .null => true
  | .nullable shape, v => matchesShape shape v
  | .optional _, .undefined => true
  | .optional shape, v => matchesShape shape v
  | .record fields, v =>
    match entries? v with
    | none => false
    | some entries => entries.all (fun e => fields.map (·.1) |>.contains e.1) && matchesFields fields entries

def matchesFields : List (String × Shape) → List (String × JsValue) → Bool
  | [], _ => true
  | (name, shape) :: fields, entries => matchesShape shape (property entries name) && matchesFields fields entries

end

def validBundleShape (candidate : JsValue) : Bool := matchesShape bundleShape candidate

/-! ## A candidate as a bundle -/

def stringOf : JsValue → String
  | .str s => s
  | _ => ""

def numberOf : JsValue → Int
  | .integer n => n
  | _ => 0

def booleanOf : JsValue → Bool
  | .bool b => b
  | _ => false

/-- A document has no holes. -/
def listOf {α : Type} (view : JsValue → α) : JsValue → List α
  | .arr elements => elements.reduceOption.map view
  | _ => []

def nullableOf {α : Type} (view : JsValue → α) : JsValue → Option α
  | .null => none
  | v => some (view v)

def optionalOf {α : Type} (view : JsValue → α) : JsValue → Option α
  | .undefined => none
  | v => some (view v)

/-- `v.name`. -/
def fieldOf (v : JsValue) (name : String) : JsValue :=
  match v with
  | .obj entries => property entries name
  | _ => .undefined

def producerOf (v : JsValue) : ProducerIdentity where
  producer := stringOf (fieldOf v "producer")
  schemaVersion := stringOf (fieldOf v "schemaVersion")
  buildCommit := stringOf (fieldOf v "buildCommit")
  artifactChecksum := stringOf (fieldOf v "artifactChecksum")

def sourceLockOf (v : JsValue) : SourceLockRef where
  commitSha := stringOf (fieldOf v "commitSha")
  sourceLockHash := stringOf (fieldOf v "sourceLockHash")
  adapterId := stringOf (fieldOf v "adapterId")
  adapterVersion := numberOf (fieldOf v "adapterVersion")
  adapterEpoch := stringOf (fieldOf v "adapterEpoch")

def baselineOf (v : JsValue) : ApprovedBaselineRef where
  manifestHash := stringOf (fieldOf v "manifestHash")
  policyHash := stringOf (fieldOf v "policyHash")

def fingerprintOf (v : JsValue) : ContractFingerprint where
  role := stringOf (fieldOf v "role")
  blockchainId := stringOf (fieldOf v "blockchainId")
  runtimeCodeHash := stringOf (fieldOf v "runtimeCodeHash")
  address := stringOf (fieldOf v "address")
  implementationAddress := nullableOf stringOf (fieldOf v "implementationAddress")
  implementationCodeHash := nullableOf stringOf (fieldOf v "implementationCodeHash")
  proxyAdmin := nullableOf stringOf (fieldOf v "proxyAdmin")
  beacon := nullableOf stringOf (fieldOf v "beacon")
  recognised := booleanOf (fieldOf v "recognised")

def chainOf (v : JsValue) : PinnedChain where
  blockchainId := stringOf (fieldOf v "blockchainId")
  evmChainId := stringOf (fieldOf v "evmChainId")
  blockNumber := stringOf (fieldOf v "blockNumber")
  blockHash := stringOf (fieldOf v "blockHash")
  blockTimestamp := stringOf (fieldOf v "blockTimestamp")
  acceptanceEvidence := stringOf (fieldOf v "acceptanceEvidence")
  finalityBasis := stringOf (fieldOf v "finalityBasis")

def voteOf (v : JsValue) : WitnessVote where
  endpointId := stringOf (fieldOf v "endpointId")
  trustDomain := stringOf (fieldOf v "trustDomain")
  providerGroup := stringOf (fieldOf v "providerGroup")
  blockchainId := stringOf (fieldOf v "blockchainId")
  agreedBlockHash := stringOf (fieldOf v "agreedBlockHash")
  agreed := booleanOf (fieldOf v "agreed")

def quorumOf (v : JsValue) : QuorumMatrix where
  votes := listOf voteOf (fieldOf v "votes")
  independentGroups := numberOf (fieldOf v "independentGroups")
  requiredGroups := numberOf (fieldOf v "requiredGroups")
  note := stringOf (fieldOf v "note")

def factOf (v : JsValue) : RawFactRefRecord where
  evmChainId := stringOf (fieldOf v "evmChainId")
  blockHash := stringOf (fieldOf v "blockHash")
  txHash := stringOf (fieldOf v "txHash")
  logIndex := numberOf (fieldOf v "logIndex")
  digest := stringOf (fieldOf v "digest")

def historicalOf (v : JsValue) : HistoricalBlock where
  blockchainId := stringOf (fieldOf v "blockchainId")
  blockNumber := stringOf (fieldOf v "blockNumber")
  blockHash := stringOf (fieldOf v "blockHash")
  acceptanceEvidence := stringOf (fieldOf v "acceptanceEvidence")
  votes := listOf voteOf (fieldOf v "votes")

def stateCallOf (v : JsValue) : StateCallRecord where
  blockchainId := stringOf (fieldOf v "blockchainId")
  target := stringOf (fieldOf v "target")
  calldataDigest := stringOf (fieldOf v "calldataDigest")
  resultDigest := stringOf (fieldOf v "resultDigest")
  observationPath := stringOf (fieldOf v "observationPath")
  result := stringOf (fieldOf v "result")
  calldata := stringOf (fieldOf v "calldata")
  provenance := stringOf (fieldOf v "provenance")
  blockNumber := stringOf (fieldOf v "blockNumber")
  blockHash := stringOf (fieldOf v "blockHash")

def registryOf (v : JsValue) : CensusRecord where
  completeness := stringOf (fieldOf v "completeness")
  registeredRemotes := listOf stringOf (fieldOf v "registeredRemotes")
  missingRemotes := listOf stringOf (fieldOf v "missingRemotes")
  remotesWithoutRpc := listOf stringOf (fieldOf v "remotesWithoutRpc")

def timelineOf (v : JsValue) : TimelineEntry where
  kind := stringOf (fieldOf v "kind")
  factDigest := stringOf (fieldOf v "factDigest")

def messageOf (v : JsValue) : MessageRecord where
  sourceBlockchainId := stringOf (fieldOf v "sourceBlockchainId")
  destinationBlockchainId := stringOf (fieldOf v "destinationBlockchainId")
  teleporterMessengerAddress := stringOf (fieldOf v "teleporterMessengerAddress")
  registryProtocolVersion := numberOf (fieldOf v "registryProtocolVersion")
  messageId := stringOf (fieldOf v "messageId")
  state := stringOf (fieldOf v "state")
  timeline := listOf timelineOf (fieldOf v "timeline")
  sendAttempts := numberOf (fieldOf v "sendAttempts")
  executionAttempts := numberOf (fieldOf v "executionAttempts")
  envelopeIds := listOf stringOf (fieldOf v "envelopeIds")
  economicEffectCount := numberOf (fieldOf v "economicEffectCount")

def completenessOf (v : JsValue) : CompletenessRecord where
  observedAt := stringOf (fieldOf v "observedAt")
  expiresAt := stringOf (fieldOf v "expiresAt")
  fresh := booleanOf (fieldOf v "fresh")
  missingEvidence := listOf stringOf (fieldOf v "missingEvidence")
  contradictoryEvidence := listOf stringOf (fieldOf v "contradictoryEvidence")

def assuranceOf (v : JsValue) : AssuranceRecord where
  assuranceMode := stringOf (fieldOf v "assuranceMode")
  assumptions := listOf stringOf (fieldOf v "assumptions")
  exclusions := listOf stringOf (fieldOf v "exclusions")
  nonGoals := listOf stringOf (fieldOf v "nonGoals")

def coreOf (v : JsValue) : EvidenceCore where
  producer := producerOf (fieldOf v "producer")
  sourceLock := sourceLockOf (fieldOf v "sourceLock")
  baseline := baselineOf (fieldOf v "baseline")
  deploymentId := stringOf (fieldOf v "deploymentId")
  fingerprints := listOf fingerprintOf (fieldOf v "fingerprints")
  chains := listOf chainOf (fieldOf v "chains")
  quorum := quorumOf (fieldOf v "quorum")
  rawFacts := listOf factOf (fieldOf v "rawFacts")
  historicalBlocks := optionalOf (listOf historicalOf) (fieldOf v "historicalBlocks")
  stateCalls := listOf stateCallOf (fieldOf v "stateCalls")
  census := registryOf (fieldOf v "census")
  messages := listOf messageOf (fieldOf v "messages")
  rules := fieldOf v "rules"
  verdict := fieldOf v "verdict"
  completeness := completenessOf (fieldOf v "completeness")
  assurance := assuranceOf (fieldOf v "assurance")
  previousBundleHash := nullableOf stringOf (fieldOf v "previousBundleHash")
  replayInput := fieldOf (fieldOf v "replay") "input"
  replayEvaluation := fieldOf (fieldOf v "replay") "evaluation"

def presentationOf (v : JsValue) : EvidencePresentation where
  generatedAt := stringOf (fieldOf v "generatedAt")
  locale := stringOf (fieldOf v "locale")
  toolVersion := stringOf (fieldOf v "toolVersion")

/-- A candidate that `validBundleShape` accepts, cast. -/
def bundleOf (v : JsValue) : EvidenceBundle where
  core := coreOf (fieldOf v "core")
  presentation := presentationOf (fieldOf v "presentation")
  contentHash := stringOf (fieldOf v "contentHash")

/-! ## A bundle as a value -/

def producerValue (p : ProducerIdentity) : JsValue :=
  .obj [("producer", .str p.producer), ("schemaVersion", .str p.schemaVersion), ("buildCommit", .str p.buildCommit),
    ("artifactChecksum", .str p.artifactChecksum)]

def sourceLockValue (l : SourceLockRef) : JsValue :=
  .obj [("commitSha", .str l.commitSha), ("sourceLockHash", .str l.sourceLockHash), ("adapterId", .str l.adapterId),
    ("adapterVersion", .integer l.adapterVersion), ("adapterEpoch", .str l.adapterEpoch)]

def baselineValue (b : ApprovedBaselineRef) : JsValue :=
  .obj [("manifestHash", .str b.manifestHash), ("policyHash", .str b.policyHash)]

def fingerprintValue (f : ContractFingerprint) : JsValue :=
  .obj [("role", .str f.role), ("blockchainId", .str f.blockchainId), ("runtimeCodeHash", .str f.runtimeCodeHash),
    ("address", .str f.address), ("implementationAddress", .nullable .str f.implementationAddress),
    ("implementationCodeHash", .nullable .str f.implementationCodeHash), ("proxyAdmin", .nullable .str f.proxyAdmin),
    ("beacon", .nullable .str f.beacon), ("recognised", .bool f.recognised)]

def chainValue (c : PinnedChain) : JsValue :=
  .obj [("blockchainId", .str c.blockchainId), ("evmChainId", .str c.evmChainId), ("blockNumber", .str c.blockNumber),
    ("blockHash", .str c.blockHash), ("blockTimestamp", .str c.blockTimestamp),
    ("acceptanceEvidence", .str c.acceptanceEvidence), ("finalityBasis", .str c.finalityBasis)]

def voteValue (v : WitnessVote) : JsValue :=
  .obj [("endpointId", .str v.endpointId), ("trustDomain", .str v.trustDomain),
    ("providerGroup", .str v.providerGroup), ("blockchainId", .str v.blockchainId),
    ("agreedBlockHash", .str v.agreedBlockHash), ("agreed", .bool v.agreed)]

def quorumValue (q : QuorumMatrix) : JsValue :=
  .obj [("votes", .array voteValue q.votes), ("independentGroups", .integer q.independentGroups),
    ("requiredGroups", .integer q.requiredGroups), ("note", .str q.note)]

def factValue (f : RawFactRefRecord) : JsValue :=
  .obj [("evmChainId", .str f.evmChainId), ("blockHash", .str f.blockHash), ("txHash", .str f.txHash),
    ("logIndex", .integer f.logIndex), ("digest", .str f.digest)]

def historicalValue (b : HistoricalBlock) : JsValue :=
  .obj [("blockchainId", .str b.blockchainId), ("blockNumber", .str b.blockNumber), ("blockHash", .str b.blockHash),
    ("acceptanceEvidence", .str b.acceptanceEvidence), ("votes", .array voteValue b.votes)]

def stateCallValue (c : StateCallRecord) : JsValue :=
  .obj [("blockchainId", .str c.blockchainId), ("target", .str c.target), ("calldataDigest", .str c.calldataDigest),
    ("resultDigest", .str c.resultDigest), ("observationPath", .str c.observationPath), ("result", .str c.result),
    ("calldata", .str c.calldata), ("provenance", .str c.provenance), ("blockNumber", .str c.blockNumber),
    ("blockHash", .str c.blockHash)]

def registryValue (c : CensusRecord) : JsValue :=
  .obj [("completeness", .str c.completeness), ("registeredRemotes", .array .str c.registeredRemotes),
    ("missingRemotes", .array .str c.missingRemotes), ("remotesWithoutRpc", .array .str c.remotesWithoutRpc)]

def timelineValue (t : TimelineEntry) : JsValue :=
  .obj [("kind", .str t.kind), ("factDigest", .str t.factDigest)]

def messageValue (m : MessageRecord) : JsValue :=
  .obj [("sourceBlockchainId", .str m.sourceBlockchainId),
    ("destinationBlockchainId", .str m.destinationBlockchainId),
    ("teleporterMessengerAddress", .str m.teleporterMessengerAddress),
    ("registryProtocolVersion", .integer m.registryProtocolVersion), ("messageId", .str m.messageId),
    ("state", .str m.state), ("timeline", .array timelineValue m.timeline), ("sendAttempts", .integer m.sendAttempts),
    ("executionAttempts", .integer m.executionAttempts), ("envelopeIds", .array .str m.envelopeIds),
    ("economicEffectCount", .integer m.economicEffectCount)]

def completenessValue (c : CompletenessRecord) : JsValue :=
  .obj [("observedAt", .str c.observedAt), ("expiresAt", .str c.expiresAt), ("fresh", .bool c.fresh),
    ("missingEvidence", .array .str c.missingEvidence),
    ("contradictoryEvidence", .array .str c.contradictoryEvidence)]

def assuranceValue (a : AssuranceRecord) : JsValue :=
  .obj [("assuranceMode", .str a.assuranceMode), ("assumptions", .array .str a.assumptions),
    ("exclusions", .array .str a.exclusions), ("nonGoals", .array .str a.nonGoals)]

def presentationValue (p : EvidencePresentation) : JsValue :=
  .obj [("generatedAt", .str p.generatedAt), ("locale", .str p.locale), ("toolVersion", .str p.toolVersion)]

def coreValue (c : EvidenceCore) : JsValue :=
  .obj [("producer", producerValue c.producer), ("sourceLock", sourceLockValue c.sourceLock),
    ("baseline", baselineValue c.baseline), ("deploymentId", .str c.deploymentId),
    ("fingerprints", .array fingerprintValue c.fingerprints), ("chains", .array chainValue c.chains),
    ("quorum", quorumValue c.quorum), ("rawFacts", .array factValue c.rawFacts),
    ("historicalBlocks", c.historicalBlocks.elim .undefined (.array historicalValue)),
    ("stateCalls", .array stateCallValue c.stateCalls), ("census", registryValue c.census),
    ("messages", .array messageValue c.messages), ("rules", c.rules), ("verdict", c.verdict),
    ("completeness", completenessValue c.completeness), ("assurance", assuranceValue c.assurance),
    ("previousBundleHash", .nullable .str c.previousBundleHash),
    ("replay", .obj [("input", c.replayInput), ("evaluation", c.replayEvaluation)])]

def bundleValue (b : EvidenceBundle) : JsValue :=
  .obj [("core", coreValue b.core), ("presentation", presentationValue b.presentation),
    ("contentHash", .str b.contentHash)]

end IcttSentinel.Evidence
