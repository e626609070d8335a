/-
The offline verifier, packages/evidence/src/verify.ts. What it reads again inside its `try` is a list of steps, each of
them the findings it adds or its throw, and a throw ends the list with a finding of its own. The hash, the dates and the
search for credentials are parameters.
-/
import IcttSentinel.Domain.Finality
import IcttSentinel.Evidence.Bundle
import IcttSentinel.Evidence.Replay
import IcttSentinel.Lib.BigIntText

namespace IcttSentinel.Evidence

open IcttSentinel.Domain IcttSentinel.Lib IcttSentinel.InvariantCore

/-! ## Findings -/

inductive VerifyFailure where
  | schemaInvalid
  | schemaVersionUnknown
  | contentHashMismatch
  | danglingReference
  | missingRequiredEvidence
  | verdictMismatch
  | secretPresent
  | notCanonical
  deriving DecidableEq, Repr

structure VerifyFinding where
  failure : VerifyFailure
  detail : String
  deriving DecidableEq, Repr

structure VerifyResult where
  verified : Bool
  findings : List VerifyFinding
  recomputedHash : String
  trustBoundary : List String

/-- `TRUST_BOUNDARY`. -/
def trustBoundary : List String :=
  ["Whether the RPC providers reported the truth is NOT verified here; quorum records that independent readers agreed, " ++
      "which is not a cryptographic or Byzantine guarantee.",
    "Whether the deployed runtime bytecode matches the operator-attested fingerprint is not re-checked offline; it is " ++
      "attested in the manifest.",
    "Whether every path that reduces native supply is captured by the two burn addresses is an unverified upstream " ++
      "assumption.",
    "This bundle is reproducible and tamper-evident, not tamper-proof: anyone who can edit the file can recompute its " ++
      "hash."]

def failed (failure : VerifyFailure) : VerifyResult where
  verified := false
  findings := [⟨failure, "Bundle rejected; no untrusted values echoed."⟩]
  recomputedHash := ""
  trustBoundary := trustBoundary

/-- What the verifier runs on. -/
structure Host where
  nfc : Nfc
  /-- Hexadecimal digest of a text. -/
  sha256 : String → String
  /-- `findSecrets(JSON.stringify(value))`, the patterns found, or the throw of a value without a JSON text. -/
  jsonSecrets : JsValue → Except String (List String)
  /-- The patterns found in a text. -/
  findSecrets : String → List String
  /-- `Date.parse`, with nothing for `NaN`. -/
  dateParse : String → Option Int

/-! ## Digests -/

section Digests

variable (host : Host)

def hashCore (core : JsValue) : Except String String := do
  let text ← stringified host.nfc core
  return host.sha256 (evidenceSchemaVersion ++ "\u0000" ++ text)

def factDigest (evmChainId : Int) (blockHash txHash : String) (logIndex : Int) : String :=
  domainSeparatedSha256 host.sha256 "ictt-sentinel/fact/v1"
    ("|".intercalate [toString evmChainId, blockHash, txHash, toString logIndex])

def stateCallDigest (target calldata result : String) : String :=
  domainSeparatedSha256 host.sha256 "ictt-sentinel/state-call/v1" ("|".intercalate [target, calldata, result])

end Digests

/-! ## Texts -/

/-- A text of as many characters `[0-9a-f]`. -/
def isHex (length : Nat) (s : String) : Bool := s.toList.length = length && s.toList.all isHexDigit

/-- `/^0x[0-9a-f]{64}$/`. -/
def isHash (s : String) : Bool :=
  match s.toList with
  | '0' :: 'x' :: digits => digits.length = 64 && digits.all isHexDigit
  | _ => false

/-- `/^ep-[0-9a-f]+$/`. -/
def isEndpointId (s : String) : Bool :=
  match s.toList with
  | 'e' :: 'p' :: '-' :: digits => !digits.isEmpty && digits.all isHexDigit
  | _ => false

/-- `s.slice(2).padStart(64, '0')`, of an address. -/
def paddedAddress (s : String) : String :=
  let digits := s.toList.drop 2
  String.ofList (List.replicate (64 - digits.length) '0' ++ digits)

/-! ## Documents of a replay -/

def verdictValue (v : VerdictRecord) : JsValue :=
  .obj [("protocolStatus", .str v.protocolStatus.text), ("dataStatus", .str v.dataStatus.text),
    ("claimMode", .str v.claimMode.text), ("coverage", .str v.coverage.text), ("reasonCodes", reasonsValue v.reasonCodes),
    ("criticalRuleIds", .array .str v.criticalRuleIds), ("unknownRuleIds", .array .str v.unknownRuleIds)]

def textsValue (texts : List (String × String)) : JsValue := .obj (texts.map fun t => (t.1, .str t.2))

def ruleValue (r : RuleRecord) : JsValue :=
  .obj [("ruleId", .str r.ruleId), ("ruleVersion", .str r.ruleVersion), ("result", .str (proofResultText r.result)),
    ("reasonCodes", reasonsValue r.reasonCodes), ("inputs", textsValue r.inputs),
    ("intermediates", textsValue r.intermediates), ("unit", .str r.unit), ("floor", .nullable .str r.floor),
    ("ceil", .nullable .str r.ceil), ("dust", .nullable .str r.dust)]

/-! ## Steps -/

/-- The findings a statement adds, or its throw. -/
abbrev Step := Except String (List VerifyFinding)

def runSteps : List Step → List VerifyFinding
  | [] => []
  | .ok findings :: steps => findings ++ runSteps steps
  | .error _ :: _ =>
    [⟨.schemaInvalid, "Invalid or incomplete replay input; arithmetic was not verified."⟩]

def expect (failure : VerifyFailure) (ok : Except String Bool) (detail : String) : Step :=
  ok.map fun ok => if ok then [] else [⟨failure, detail⟩]

def requireEvidence (ok : Except String Bool) (detail : String) : Step := expect .missingRequiredEvidence ok detail

/-! ## Evidence requirements -/

section Requirements

variable (host : Host) (core : EvidenceCore) (input : ProofInput)

def same (a b : JsValue) : Except String Bool := do
  return (← stringified host.nfc a) = (← stringified host.nfc b)

/-- The replayed evaluation, rule and verdict against the recorded ones. -/
def replayedStep (replayed : Replayed) : Step :=
  expect .verdictMismatch
    (same host replayed.evaluation core.replayEvaluation <&&>
      same host (.array ruleValue [replayed.rule]) core.rules <&&> same host (verdictValue replayed.verdict) core.verdict)
    "Pure rule proof, intermediate arithmetic or full verdict differs."

def keysOf : JsValue → List String
  | .obj entries => entries.map (·.1)
  | _ => []

/-- The verdict of an input the caller supplies against the recorded one. -/
def externalStep : Option AggregationInput → Step
  | none => .ok []
  | some aggregation =>
    let external := verdictValue (verdictRecord (aggregate aggregation))
    expect .verdictMismatch
      ((keysOf core.verdict).allM fun key => same host (fieldOf external key) (fieldOf core.verdict key))
      "Optional external replay assertion differs."

def identitySteps : List Step :=
  [requireEvidence
      (.ok (core.producer.producer = "ictt-sentinel" && isHex 64 core.producer.artifactChecksum))
      "Invalid producer identity.",
    requireEvidence (.ok (isHex 64 core.sourceLock.sourceLockHash)) "Missing source-lock digest.",
    requireEvidence
      (.ok (core.deploymentId = input.deploymentId &&
        some core.baseline.manifestHash = input.provenance.manifestHash &&
        some core.baseline.policyHash = input.provenance.policyHash &&
        some core.sourceLock.commitSha = input.provenance.sourceLockCommitSha &&
        some core.sourceLock.adapterId = input.provenance.adapterId &&
        some core.sourceLock.adapterVersion = input.provenance.adapterVersion))
      "Provenance does not bind the replay input.",
    requireEvidence
      (.ok (core.chains.length ≥ 2 && core.fingerprints.length > 0 && core.rawFacts.length > 0 &&
        core.stateCalls.length > 0 && core.messages.length > 0))
      "Required observation collections are empty.",
    requireEvidence
      (.ok (core.quorum.requiredGroups ≥ 2 && core.quorum.requiredGroups = input.freshness.requiredWitnessGroups))
      "Invalid quorum threshold.",
    requireEvidence
      (.ok (core.fingerprints.all fun f =>
        isRoleHolder f.address && isHash f.runtimeCodeHash &&
          core.chains.any fun c => c.blockchainId = f.blockchainId))
      "Invalid contract fingerprint.",
    requireEvidence
      (.ok (input.remotes.all fun r => core.fingerprints.any fun f =>
        f.blockchainId = r.remoteBlockchainId && f.address = r.remoteAddress &&
          f.recognised = r.fingerprintRecognised))
      "Remote fingerprint does not bind replay."]

/-- The votes that are counted for a pinned chain. -/
def countedVotes (chain : PinnedChain) : List WitnessVote :=
  core.quorum.votes.filter fun v =>
    v.blockchainId = chain.blockchainId && v.agreed && v.agreedBlockHash = chain.blockHash

/-- Witnesses of one failure domain: what they are trusted through. -/
structure VoteComponent where
  domains : List String
  groups : List String

/-- Shared domain OR group connects witnesses into one failure domain. -/
def joinVote (components : List VoteComponent) (vote : WitnessVote) : List VoteComponent :=
  let touches := fun c : VoteComponent => c.domains.contains vote.trustDomain || c.groups.contains vote.providerGroup
  let joined := components.filter touches
  components.filter (!touches ·) ++
    [⟨vote.trustDomain :: joined.flatMap (·.domains), vote.providerGroup :: joined.flatMap (·.groups)⟩]

/-- How many failure domains the votes counted for a chain come from. -/
def chainCount (chain : PinnedChain) : Nat := ((countedVotes core chain).foldl joinVote []).length

def chainSteps (chain : PinnedChain) : List Step :=
  [requireEvidence
      (.ok (chain.acceptanceEvidence ≠ "" &&
        (chain.finalityBasis = "accepted-quorum" || chain.finalityBasis = "settled-quorum")))
      "Acceptance capability missing.",
    requireEvidence
      (do
        let evmChainId ← bigInt chain.evmChainId
        let blockTimestamp ← bigInt chain.blockTimestamp
        return finalityBasisStands chain.finalityBasis ⟨evmChainId, chain.blockchainId⟩ blockTimestamp)
      "Accepted-state basis superseded by ACP-194 on this chain.",
    requireEvidence (.ok (isDecimal chain.blockNumber && isHash chain.blockHash)) "Invalid block pin.",
    requireEvidence (.ok ((chainCount core chain : Int) ≥ core.quorum.requiredGroups))
      "Independent chain quorum unavailable."]

/-- `Math.min(...counts)`, of a list that is not empty. -/
def leastCount : Option Int := (core.chains.map fun c => (chainCount core c : Int)).min?

/-- The chain list pins the block. -/
def pinned (blockchainId blockNumber blockHash : String) : Bool :=
  core.chains.any fun c => c.blockchainId = blockchainId && c.blockNumber = blockNumber && c.blockHash = blockHash

/-- `pins`. -/
def replayPins : List (Option PinnedBlock) :=
  (input.remotes.flatMap fun r => [r.homePin, r.remotePin]) ++ [input.homeEscrow.homePin]

def quorumSteps : List Step :=
  [requireEvidence
      (.ok (leastCount core = some input.freshness.independentWitnessGroups &&
        leastCount core = some core.quorum.independentGroups))
      "Witness counts differ from replay.",
    requireEvidence
      (.ok (core.quorum.votes.all fun v =>
        isEndpointId v.endpointId && core.chains.any fun c => c.blockchainId = v.blockchainId))
      "Invalid witness reference.",
    requireEvidence
      (.ok ((replayPins input).all fun p => p.any fun p => pinned core p.blockchainId (toString p.blockNumber) p.blockHash))
      "Replay pin missing from chain observations."]

/-- `core.historicalBlocks ?? []`. -/
def history : List HistoricalBlock := core.historicalBlocks.getD []

def historicalSteps (block : HistoricalBlock) : List Step :=
  let witnesses := core.quorum.votes.filter fun v => v.blockchainId = block.blockchainId
  [requireEvidence
      (match core.chains.find? fun c => c.blockchainId = block.blockchainId with
        | none => .ok false
        | some chain =>
          if isDecimal block.blockNumber then do
            let height ← bigInt block.blockNumber
            let top ← bigInt chain.blockNumber
            return height < top && isHash block.blockHash && block.acceptanceEvidence ≠ ""
          else .ok false)
      "Invalid historical accepted block.",
    requireEvidence
      (.ok (block.votes.length = witnesses.length &&
        (block.votes.all fun v =>
          v.agreed && v.agreedBlockHash = block.blockHash && v.blockchainId = block.blockchainId &&
            witnesses.any fun w =>
              w.endpointId = v.endpointId && w.trustDomain = v.trustDomain && w.providerGroup = v.providerGroup) &&
        (block.votes.map (·.endpointId)).eraseDups.length = witnesses.length))
      "Historical block witnesses missing or contradictory."]

def historySteps : List Step :=
  requireEvidence (.ok ((history core).map fun b => b.blockchainId ++ "/" ++ b.blockNumber).Nodup)
      "Duplicate historical block." ::
    (history core).flatMap (historicalSteps core)

def factSteps : List Step :=
  (core.rawFacts.flatMap fun fact =>
    [requireEvidence
        (do
          let evmChainId ← bigInt fact.evmChainId
          return fact.digest = factDigest host evmChainId fact.blockHash fact.txHash fact.logIndex)
        "Raw fact coordinate digest differs.",
      requireEvidence
        (.ok (core.chains.any fun c =>
          c.evmChainId = fact.evmChainId &&
            (c.blockHash = fact.blockHash ||
              (history core).any fun b => b.blockchainId = c.blockchainId && b.blockHash = fact.blockHash)))
        "Raw fact block reference missing."]) ++
    [requireEvidence (.ok (core.rawFacts.map (·.digest)).Nodup) "Duplicate raw fact."]

def recognised (blockchainId address : String) : Bool :=
  core.fingerprints.any fun f => f.blockchainId = blockchainId && f.address = address && f.recognised

/-- `escrowBound`: a balance read at the token that a recognised TokenHome names at the same pin. -/
def escrowBound (call : StateCallRecord) : Bool :=
  call.observationPath = "homeEscrow.escrowBalance" &&
    (core.stateCalls.find? fun c => c.observationPath = "homeEscrow.tokenAddress").any fun tokenAddress =>
      tokenAddress.calldata = "0x10fe9ae8" && recognised core tokenAddress.blockchainId tokenAddress.target &&
        tokenAddress.blockchainId = call.blockchainId && tokenAddress.blockNumber = call.blockNumber &&
        tokenAddress.blockHash = call.blockHash && tokenAddress.result = call.target &&
        call.calldata = "0x70a08231" ++ paddedAddress tokenAddress.target

def callSteps (earlier : List StateCallRecord) (call : StateCallRecord) : List Step :=
  [requireEvidence (.ok (earlier.all fun c => c.observationPath ≠ call.observationPath)) "Duplicate state observation.",
    requireEvidence (.ok (recognised core call.blockchainId call.target || escrowBound core call))
      "State call target has no recognised fingerprint.",
    requireEvidence (.ok (pinned core call.blockchainId call.blockNumber call.blockHash)) "State call pin missing.",
    requireEvidence
      (.ok (call.calldataDigest = domainSeparatedSha256 host.sha256 "ictt-sentinel/calldata/v1" call.calldata &&
        call.resultDigest = stateCallDigest host call.target call.calldata call.result && call.provenance ≠ ""))
      "State call digest or provenance differs."]

/-- The calls that are left, after the ones already seen. -/
def stateCallSteps : List StateCallRecord → List StateCallRecord → List Step
  | _, [] => []
  | earlier, call :: calls => callSteps host core earlier call ++ stateCallSteps (earlier ++ [call]) calls

/-- `observations.get(path)`: the last call of the path. -/
def observation (path : String) : Option String :=
  (core.stateCalls.reverse.find? fun c => c.observationPath = path).map (·.result)

/-- The amount is there, and it is what was observed at the path. -/
def observed (path : String) (value : Option Int) : Bool :=
  value.any fun n => observation core path = some (toString n)

def remotePath (i : Nat) (field : String) : String := "remotes." ++ toString i ++ "." ++ field

def erc20Steps : List Step :=
  ((input.remotes.zipIdx).flatMap fun (r, i) =>
    [requireEvidence (.ok (observed core (remotePath i "transferredBalance") r.transferredBalance))
        "Required remote state observation missing or contradictory.",
      requireEvidence (.ok (observed core (remotePath i "remoteTotalSupply") r.remoteTotalSupply))
        "Required remote state observation missing or contradictory."]) ++
    [requireEvidence (.ok (observed core "homeEscrow.escrowBalance" input.homeEscrow.escrowBalance))
      "Escrow observation missing or contradictory."]

/-- `values`. -/
def nativeValues (native : NativeInput) : List (String × Option Int) :=
  [("native.components.totalMinted", native.components.totalMinted),
    ("native.components.initialReserveImbalance", native.components.initialReserveImbalance),
    ("native.components.burnedTxFeesAddressBalance", native.components.burnedTxFeesAddressBalance),
    ("native.components.burnedForTransferAddressBalance", native.components.burnedForTransferAddressBalance),
    ("native.eligibleHomeCoverage", native.eligibleHomeCoverage),
    ("native.collateralNeeded", native.collateralNeeded), ("native.acceptedCollateral", native.acceptedCollateral)]

def nativeSteps (native : NativeInput) : List Step :=
  ((nativeValues native).map fun (path, value) =>
    requireEvidence (.ok (observed core path value)) "Required native observation missing or contradictory.") ++
    [requireEvidence
      (.ok (native.components.fingerprintRecognised &&
        core.fingerprints.any fun f => f.role = "native-token-remote" && f.recognised))
      "Native fingerprint missing.",
    requireEvidence
      (.ok (native.census.epochsExpected > 0 && native.census.epochsCovered ≥ native.census.epochsExpected &&
        native.census.manifestRosterProvided && native.census.genesisChainConfigRead &&
        native.census.activationRulesKnown && native.census.roleHistoryCompleteFromActivation &&
        native.census.allCandidateRolesRead))
      "Native minter census evidence incomplete."] ++
    ([("census", censusValue native.census), ("feeReporting", feeReportingValue native.feeReporting)].map
      fun (field, value) =>
        requireEvidence
          (do
            let text ← stringified host.nfc value
            return observation core ("native." ++ field) = some text)
          "Native census or fee-report provenance missing.") ++
    (native.trustworthySupplyLowerBound.toList.map fun bound =>
      requireEvidence (.ok (observation core "native.trustworthySupplyLowerBound" = some (toString bound)))
        "Native lower-bound evidence missing.")

def closingSteps : List Step :=
  [requireEvidence
      (do
        let registered ← same host (.array .str core.census.registeredRemotes)
          (.array (fun r : RemoteObservation => .str (r.remoteBlockchainId ++ "/" ++ r.remoteAddress)) input.remotes)
        return registered && core.census.completeness = input.census.text && core.census.missingRemotes.length = 0 &&
          core.census.remotesWithoutRpc.length = 0)
      "Census incomplete or contradictory.",
    requireEvidence
      (.ok (core.completeness.fresh && input.freshness.fresh &&
        (host.dateParse core.completeness.observedAt).any fun observedAt =>
          (host.dateParse core.completeness.expiresAt).any fun expiresAt => expiresAt > observedAt))
      "Freshness not established at the recorded evaluation time.",
    requireEvidence (.ok (core.messages.all fun m => m.timeline.length > 0 && m.envelopeIds.length > 0))
      "Message lineage missing."] ++
    input.effects.map fun effect =>
      requireEvidence (.ok (effect.causalSourceFact.any fun fact => (core.rawFacts.map (·.digest)).contains fact))
        "Effect source reference missing."

/-- What is required of a bundle once its input is decoded and replayed. -/
def evidenceSteps (native : Option NativeInput) : List Step :=
  identitySteps core input ++ core.chains.flatMap (chainSteps core) ++ quorumSteps core input ++ historySteps core ++
    factSteps host core ++ stateCallSteps host core [] core.stateCalls ++
    (native.elim (erc20Steps core input) (nativeSteps host core)) ++ closingSteps host core input

end Requirements

/-! ## The verifier -/

section Verifier

variable (host : Host) (core : EvidenceCore)

/-- Internal references: every fact a message cites must be present. -/
def referenceFindings : List VerifyFinding :=
  core.messages.flatMap fun m => m.timeline.flatMap fun t =>
    if (core.rawFacts.map (·.digest)).contains t.factDigest then []
    else [⟨.danglingReference, "message " ++ m.messageId ++ " cites unknown fact " ++ t.factDigest⟩]

/-- A bundle that admits missing evidence cannot verify as a pass. -/
def admittedFindings : List VerifyFinding :=
  (if core.completeness.missingEvidence.length > 0 then
    [⟨.missingRequiredEvidence, ", ".intercalate core.completeness.missingEvidence⟩]
  else []) ++
    if core.completeness.contradictoryEvidence.length > 0 then
      [⟨.missingRequiredEvidence, "contradictory: " ++ ", ".intercalate core.completeness.contradictoryEvidence⟩]
    else []

/-- Re-run the arithmetic using only the self-contained core. -/
def replayFindings (external : Option AggregationInput) : List VerifyFinding :=
  match decodeReplayInput host.nfc core.replayInput with
  | .error e => runSteps [.error e]
  | .ok (input, native) =>
    match replayEvaluation host.nfc host.sha256 core.replayInput with
    | .error e => runSteps [.error e]
    | .ok replayed =>
      runSteps (replayedStep host core replayed :: externalStep host core external :: evidenceSteps host core input native)

def secretFindings (serialised : String) : List VerifyFinding :=
  if (host.findSecrets serialised).length > 0 then
    [⟨.secretPresent, ", ".intercalate (host.findSecrets serialised).eraseDups⟩]
  else []

def hashFindings (contentHash recomputedHash : String) : List VerifyFinding :=
  if recomputedHash ≠ contentHash then
    [⟨.contentHashMismatch, "recorded " ++ contentHash ++ ", recomputed " ++ recomputedHash⟩]
  else []

/-- The findings on a candidate that has the shape of a bundle and a canonical text. -/
def verifyCanonical (candidate : JsValue) (external : Option AggregationInput) : Except String VerifyResult := do
  let bundle := bundleOf candidate
  let recomputedHash ← hashCore host (fieldOf candidate "core")
  let serialised ← stringified host.nfc (fieldOf candidate "core")
  let findings := hashFindings bundle.contentHash recomputedHash ++ referenceFindings bundle.core ++
    admittedFindings bundle.core ++ replayFindings host bundle.core external ++ secretFindings host serialised
  return { verified := findings.isEmpty, findings, recomputedHash, trustBoundary }

def verifyBundle (candidate : JsValue) (external : Option AggregationInput) : Except String VerifyResult :=
  match host.jsonSecrets candidate with
  | .error _ => .ok (failed .schemaInvalid)
  | .ok secrets =>
    if secrets.length > 0 then .ok (failed .secretPresent)
    else if !validBundleShape candidate then .ok (failed .schemaInvalid)
    else if (bundleOf candidate).core.producer.schemaVersion ≠ evidenceSchemaVersion then
      .ok (failed .schemaVersionUnknown)
    else
      match stringified host.nfc candidate with
      | .error _ => .ok (failed .notCanonical)
      | .ok _ => verifyCanonical host candidate external

end Verifier

end IcttSentinel.Evidence
