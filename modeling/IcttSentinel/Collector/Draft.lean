/-
From the replayed proof to the bundle, the second half of `assemble` in packages/collector/src/collect.ts: votes,
cited facts, the blocks they lie in, state calls and messages are written out, and the bundle has to stand before
the verifier that anyone else will run.
-/
import IcttSentinel.Collector.Assembly
import IcttSentinel.Evidence.Candidates

namespace IcttSentinel.Collector

open IcttSentinel.Adapters IcttSentinel.Config IcttSentinel.Evidence IcttSentinel.InvariantCore IcttSentinel.Lib

/-! ## Texts -/

def TraceState.text : TraceState → String
  | .sourceAccounted => "SOURCE_ACCOUNTED"
  | .delivered => "DELIVERED"
  | .executedFailed => "EXECUTED_FAILED"
  | .executedSuccess => "EXECUTED_SUCCESS"

def quorumNote : String :=
  "Quorum counts independent failure domains (trust domain or provider group). It is agreement between independent " ++
    "readers, not a cryptographic or Byzantine guarantee: providers can share an upstream."

def assuranceRecord : AssuranceRecord where
  assuranceMode := "ACCEPTED_STATE_ASSURANCE"
  assumptions :=
    ["Quorum counts independent failure domains; it is not a cryptographic or Byzantine guarantee.",
      "Teleporter logs are interpreted under the pinned TeleporterMessenger ABI at the operator-declared messenger " ++
        "address; that contract’s runtime code is not source-locked.",
      "Observed onchain coverage at the pinned blocks, not legal recoverability."]
  exclusions :=
    ["Native token remotes, custom ERC20 remotes, rebase and fee-on-transfer wrappers.",
      "Multi-hop, routed and send-and-call transfers (reported unsupported, never flattened)."]
  nonGoals :=
    ["No signing, custody or wallet surface.", "No transaction sending, retry, pause or circuit breaker.",
      "No claim of absolute solvency or proof of reserves."]

/-! ## Votes -/

section Bundle

variable (host : CollectorHost) (args : AssembleArgs)

/-- `votesFor`. -/
def votesFor (a : AgreedSide) (hash : String) : List WitnessVote :=
  a.witnesses.map fun e => {
    endpointId := witnessId host.sha256 args.manifest.name.val e.id.val
    trustDomain := e.trustDomain.val
    providerGroup := e.providerGroup.val
    blockchainId := lower a.deployment.chain.blockchainId
    agreedBlockHash := hash
    agreed := true }

/-! ## Facts -/

/-- A row of `rawFacts`. -/
structure RawFact where
  evmChainId : String
  blockHash : String
  txHash : String
  logIndex : Int
  digest : String
  chain : String
  blockNumber : Int

def rawFactOf (u : UsedFact) : RawFact where
  evmChainId := toString (args.evmChainOf u.chain)
  blockHash := u.coord.blockHash
  txHash := u.coord.txHash
  logIndex := u.coord.logIndex
  digest := args.digestOf host u.coord u.chain
  chain := lower u.chain
  blockNumber := u.coord.blockNumber

/-- `rawFacts`. -/
def rawFacts (a : Assembled) : Keyed RawFact.digest := (∅ : Keyed RawFact.digest).upsertAll ((usedFacts args a).map (rawFactOf host args))

def RawFact.record (f : RawFact) : RawFactRefRecord where
  evmChainId := f.evmChainId
  blockHash := f.blockHash
  txHash := f.txHash
  logIndex := f.logIndex
  digest := f.digest

/-- A row of `history`, with its height. -/
abbrev HistoryRow := Int × HistoricalBlock

/-- The block of a fact below the pin of its chain. -/
def historyOf (f : RawFact) : Option HistoryRow :=
  (args.sideOf f.chain).bind fun a =>
    if f.blockNumber ≥ a.reading.pin.blockNumber then none
    else some (f.blockNumber, {
      blockchainId := f.chain
      blockNumber := toString f.blockNumber
      blockHash := f.blockHash
      acceptanceEvidence := "log block read identically by " ++ toString a.witnesses.length ++
        " independent witnesses below the pinned block"
      votes := votesFor host args a f.blockHash })

def historyKey (row : HistoryRow) : String := row.2.blockchainId ++ "/" ++ row.2.blockNumber

/-- `history`. -/
def historyRows (a : Assembled) : Keyed historyKey :=
  (∅ : Keyed historyKey).upsertAll ((rawFacts host args a).rows.filterMap (historyOf host args))

/-! ## State calls -/

/-- `stateCall`. -/
def stateCall (chain : String) (a : AgreedSide) (path target calldata result : String) : StateCallRecord where
  blockchainId := chain
  target := target
  calldataDigest := domainSeparatedSha256 host.sha256 "ictt-sentinel/calldata/v1" calldata
  resultDigest := stateCallDigest host.toHost target calldata result
  observationPath := path
  result := result
  calldata := calldata
  provenance := "eth_call at the pinned block; identical result from " ++ toString a.witnesses.length ++
    " independent witnesses"
  blockNumber := toString a.reading.pin.blockNumber
  blockHash := a.reading.pin.blockHash

/-- The calls of one remote. -/
def remoteCalls (entry : ((ApprovedRemote × AgreedSide) × RemoteObservation) × Nat) : Except Failure (List StateCallRecord) := do
  let (((r, side), remote), i) := entry
  let chain := remoteChainOf r
  return [
    stateCall host args.homeChain args.home (remotePath i "transferredBalance") args.tokenHome
      (← getTransferredBalance host.keccak256 chain remote.remoteAddress) (toString (remote.transferredBalance.getD 0)),
    stateCall host chain side (remotePath i "remoteTotalSupply") remote.remoteAddress (totalSupply host.keccak256)
      (toString (remote.remoteTotalSupply.getD 0)),
    stateCall host chain side (remotePath i "initialReserveImbalance") remote.remoteAddress
      (getInitialReserveImbalance host.keccak256) (toString remote.initialReserveImbalance)]

def stateCalls (a : Assembled) : Except Failure (List StateCallRecord) := do
  let escrowCall ← balanceOf host.keccak256 args.tokenHome
  let remotes ← ((args.remotes.zip (a.routes.map (·.observation))).zipIdx).mapM (remoteCalls host args)
  return [
    stateCall host args.homeChain args.home "homeEscrow.tokenAddress" args.tokenHome (getTokenAddress host.keccak256)
      (lower a.facts.tokenAddress),
    stateCall host args.homeChain args.home "homeEscrow.escrowBalance" (lower args.manifest.tokenAddress) escrowCall
      (toString a.facts.escrow)] ++ remotes.flatten

/-! ## Records -/

def fingerprintRecord (a : AgreedSide) : ContractFingerprint where
  role := a.deployment.contract.role.text
  blockchainId := lower a.deployment.chain.blockchainId
  runtimeCodeHash := a.probe.observedFingerprint.runtimeHash.getD ""
  address := lower a.deployment.contract.address
  implementationAddress := a.probe.observedFingerprint.implementation
  implementationCodeHash := a.probe.observedFingerprint.implementationHash
  proxyAdmin := a.probe.observedFingerprint.admin
  beacon := a.probe.observedFingerprint.beacon
  recognised := a.probe.fingerprint

def chainRecord (a : AgreedSide) : PinnedChain where
  blockchainId := lower a.deployment.chain.blockchainId
  evmChainId := toString a.deployment.chain.evmChainId
  blockNumber := toString a.reading.pin.blockNumber
  blockHash := a.reading.pin.blockHash
  blockTimestamp := toString a.reading.pin.timestamp
  acceptanceEvidence := a.probe.acceptanceEvidence
  finalityBasis := a.deployment.chain.finality.mode.text

/-- `messengerOf`. -/
def messengerOf (chain : String) : String :=
  lower (if chain = args.homeChain then args.manifest.homeTeleporter.messengerAddress
    else ((args.manifest.remotes.find? fun r => remoteChainOf r = chain).map (·.teleporter.messengerAddress)).getD "")

/-- `registryVersionOf.get(chain) ?? 0`: the version of the last side of the chain. A version beyond the safe integers
is none as a `number` either. -/
def registryVersionOf (a : Assembled) (chain : String) : Int :=
  let versions := (args.homeChain, a.facts.registryVersion) ::
    a.routes.map fun p => (p.route.remoteBlockchainId, p.registryVersion)
  ((versions.reverse.find? fun v => v.1 = chain).map (·.2)).getD 0

def messageRecord (a : Assembled) (t : RoutedTrace) : MessageRecord where
  sourceBlockchainId := t.src
  destinationBlockchainId := t.dst
  teleporterMessengerAddress := messengerOf args t.src
  registryProtocolVersion := registryVersionOf args a t.src
  messageId := t.trace.messageId
  state := t.trace.state.text
  timeline :=
    (t.trace.source.toList.map fun f => ⟨"source-accounted", args.digestOf host f.coord t.src⟩) ++
      (t.trace.delivery.toList.map fun f => ⟨"delivered", args.digestOf host f.coord t.dst⟩) ++
      (t.trace.failures.map fun f => ⟨"execution-failed", args.digestOf host f.coord t.dst⟩) ++
      t.trace.executions.map fun f => ⟨"execution-succeeded", args.digestOf host f.coord t.dst⟩
  sendAttempts := if t.trace.source.isSome then 1 else 0
  executionAttempts := t.trace.failures.length + t.trace.executions.length
  envelopeIds := [t.trace.messageId]
  economicEffectCount := if t.trace.executions.length > 0 then 1 else 0

/-- The order of `historicalBlocks`: ids of lowered hexadecimal digits are ordered alike by locale and by code unit. -/
def historyOrder (row : HistoryRow) : Lex (List Nat × Int) := toLex (codeUnits row.2.blockchainId, row.1)

/-- The core of the bundle. -/
def draftCore (a : Assembled) (replayed : Replayed) (calls : List StateCallRecord) (encoded : JsValue)
    (observedAt expiresAt : String) : EvidenceCore where
  producer := {
    producer := "ictt-sentinel"
    schemaVersion := evidenceSchemaVersion
    buildCommit := args.producer.buildCommit
    artifactChecksum := args.producer.artifactChecksum }
  sourceLock := {
    commitSha := pinnedCommitSha
    sourceLockHash := args.sourceLockHash
    adapterId := a.input.provenance.adapterId.getD ""
    adapterVersion := a.input.provenance.adapterVersion.getD 0
    adapterEpoch := "pinned-" ++ String.ofList (pinnedCommitSha.toList.take 8) }
  baseline := { manifestHash := args.manifestDigest, policyHash := args.policyDigest }
  deploymentId := args.manifest.name.val
  fingerprints := args.agreed.map fingerprintRecord
  chains := args.agreed.map chainRecord
  quorum := {
    votes := args.agreed.flatMap fun side => votesFor host args side side.reading.pin.blockHash
    independentGroups := independentWitnesses args
    requiredGroups := args.required
    note := quorumNote }
  rawFacts := sortOn (fun f => codeUnits f.digest) ((rawFacts host args a).rows.map (·.record))
  historicalBlocks := some ((sortOn historyOrder (historyRows host args a).rows).map (·.2))
  stateCalls := calls
  census := {
    completeness := a.input.census.text
    registeredRemotes := a.input.remotes.map fun r => r.remoteBlockchainId ++ "/" ++ r.remoteAddress
    missingRemotes := []
    remotesWithoutRpc := [] }
  messages := a.traces.map (messageRecord host args a)
  rules := .array ruleValue [replayed.rule]
  verdict := verdictValue replayed.verdict
  completeness := {
    observedAt
    expiresAt
    fresh := isFresh args
    missingEvidence := []
    contradictoryEvidence := [] }
  assurance := assuranceRecord
  previousBundleHash := none
  replayInput := encoded
  replayEvaluation := replayed.evaluation

/-! ## Assembly -/

inductive CollectResult where
  | evidence (bundle : EvidenceBundle)
  | unknown (reasons : List String)

/-- A throw of the evidence package. -/
def evidenceThrow {α : Type} : Except String α → Except Failure α
  | .ok a => .ok a
  | .error message => .error { name := "Error", message }

/-- `buildBundle`. -/
def buildBundle (core : EvidenceCore) (presentation : EvidencePresentation) : Except Failure EvidenceBundle := do
  let contentHash ← evidenceThrow (hashCore host.toHost (coreValue core))
  return { core, presentation, contentHash }

/-- The bundle of a replayed proof. -/
def bundleFor (a : Assembled) (replayed : Replayed) : Except Failure EvidenceBundle := do
  let calls ← stateCalls host args a
  let observedAt ← host.isoString args.now
  let expiresAt ← host.isoString (args.now + args.policy.expiresAfterSeconds * 1000)
  let encoded ← evidenceThrow (encodeProofInput host.nfc a.input)
  buildBundle host (draftCore host args a replayed calls encoded observedAt expiresAt)
    { generatedAt := observedAt, locale := "en-US", toolVersion := "0.0.0" }

/-- The collector holds itself to the verifier anyone else will run. -/
def selfChecked (bundle : EvidenceBundle) : Except Failure CollectResult := do
  let check ← evidenceThrow (verifyBundle host.toHost (bundleValue bundle) none)
  return if !check.verified then
    .unknown (check.findings.map fun f => "unverifiable:" ++ f.detail).eraseDups
  else .evidence bundle

def assemble : Except Failure CollectResult := do
  let a ← assembleInput host args
  let replayed ← evidenceThrow (replayProof host.nfc host.sha256 a.input)
  let bundle ← bundleFor host args a replayed
  selfChecked host bundle

end Bundle

end IcttSentinel.Collector
