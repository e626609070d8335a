/-
The input of an offline replay as a document, packages/evidence/src/{replay,native-replay}.ts: what is encoded for an
input, and the decoders that read it back field by field and compare the canonical texts. Errors are the messages
thrown.
-/
import IcttSentinel.Evidence.Identity
import IcttSentinel.InvariantCore.Native
import Mathlib.Data.List.ReduceOption

namespace IcttSentinel.Evidence

open IcttSentinel.Lib IcttSentinel.InvariantCore

/-! ## Inputs as values -/

def JsValue.nullable {α : Type} (encode : α → JsValue) (a : Option α) : JsValue := a.elim .null encode

def JsValue.array {α : Type} (encode : α → JsValue) (l : List α) : JsValue := .arr (l.map fun a => some (encode a))

def pinValue (p : PinnedBlock) : JsValue :=
  .obj [("blockchainId", .str p.blockchainId), ("blockNumber", .bigint p.blockNumber), ("blockHash", .str p.blockHash)]

def provenanceValue (p : ProvenanceInput) : JsValue :=
  .obj [("manifestHash", .nullable .str p.manifestHash), ("policyHash", .nullable .str p.policyHash),
    ("sourceLockCommitSha", .nullable .str p.sourceLockCommitSha), ("adapterId", .nullable .str p.adapterId),
    ("adapterVersion", .nullable .integer p.adapterVersion), ("ruleVersion", .str p.ruleVersion)]

def scaleValue (s : TokenScaleInput) : JsValue :=
  .obj [("tokenMultiplier", .bigint s.tokenMultiplier), ("multiplyOnRemote", .bool s.multiplyOnRemote),
    ("homeDecimals", .integer s.homeDecimals), ("remoteDecimals", .integer s.remoteDecimals),
    ("established", .bool s.established)]

def remoteValue (r : RemoteObservation) : JsValue :=
  .obj [("remoteBlockchainId", .str r.remoteBlockchainId), ("remoteAddress", .str r.remoteAddress),
    ("transferredBalance", .nullable .bigint r.transferredBalance),
    ("remoteTotalSupply", .nullable .bigint r.remoteTotalSupply), ("scale", scaleValue r.scale),
    ("homePin", .nullable pinValue r.homePin), ("remotePin", .nullable pinValue r.remotePin),
    ("fingerprintRecognised", .bool r.fingerprintRecognised),
    ("tokenBehaviourCanonical", .bool r.tokenBehaviourCanonical), ("routeSingleHop", .bool r.routeSingleHop),
    ("initialReserveImbalance", .bigint r.initialReserveImbalance)]

def pendingValue (p : PendingEnvelope) : JsValue :=
  .obj [("messageKey", .str p.messageKey), ("direction", .str p.direction.text), ("amount", .bigint p.amount),
    ("ageSeconds", .integer p.ageSeconds), ("remoteBlockchainId", .str p.remoteBlockchainId),
    ("remoteAddress", .str p.remoteAddress)]

def effectValue (e : CreditedEffect) : JsValue :=
  .obj [("messageKey", .str e.messageKey), ("amount", .bigint e.amount),
    ("remoteBlockchainId", .str e.remoteBlockchainId), ("remoteAddress", .str e.remoteAddress),
    ("hasUniqueAuthorisedSource", .bool e.hasUniqueAuthorisedSource),
    ("routeMatchesSource", .bool e.routeMatchesSource), ("duplicateEffect", .bool e.duplicateEffect),
    ("causalSourceFact", .nullable .str e.causalSourceFact)]

def freshnessValue (f : FreshnessInput) : JsValue :=
  .obj [("fresh", .bool f.fresh), ("independentWitnessGroups", .integer f.independentWitnessGroups),
    ("requiredWitnessGroups", .integer f.requiredWitnessGroups)]

def homeEscrowValue (h : HomeEscrowInput) : JsValue :=
  .obj [("escrowBalance", .nullable .bigint h.escrowBalance), ("homePin", .nullable pinValue h.homePin),
    ("acceptedCollateralHomeUnits", .bigint h.acceptedCollateralHomeUnits)]

def proofInputValue (input : ProofInput) : JsValue :=
  .obj [("deploymentId", .str input.deploymentId), ("family", .str input.family),
    ("provenance", provenanceValue input.provenance), ("census", .str input.census.text),
    ("cut", .str input.cut.text), ("untrackedRemotes", .array .str input.untrackedRemotes),
    ("freshness", freshnessValue input.freshness), ("remotes", .array remoteValue input.remotes),
    ("pending", .array pendingValue input.pending), ("effects", .array effectValue input.effects),
    ("homeEscrow", homeEscrowValue input.homeEscrow),
    ("pendingAgeLimitSeconds", .integer input.pendingAgeLimitSeconds)]

def componentsValue (c : NativeSupplyComponents) : JsValue :=
  .obj [("totalMinted", .nullable .bigint c.totalMinted),
    ("initialReserveImbalance", .nullable .bigint c.initialReserveImbalance),
    ("burnedTxFeesAddressBalance", .nullable .bigint c.burnedTxFeesAddressBalance),
    ("burnedForTransferAddressBalance", .nullable .bigint c.burnedForTransferAddressBalance),
    ("componentsFresh", .bool c.componentsFresh), ("fingerprintRecognised", .bool c.fingerprintRecognised)]

def censusValue (m : MinterCensus) : JsValue :=
  .obj [("manifestRosterProvided", .bool m.manifestRosterProvided),
    ("genesisChainConfigRead", .bool m.genesisChainConfigRead), ("activationRulesKnown", .bool m.activationRulesKnown),
    ("roleHistoryCompleteFromActivation", .bool m.roleHistoryCompleteFromActivation),
    ("allCandidateRolesRead", .bool m.allCandidateRolesRead),
    ("unexpectedRoleHolders", .array .str m.unexpectedRoleHolders),
    ("unauthorisedMintObserved", .bool m.unauthorisedMintObserved), ("epochsCovered", .integer m.epochsCovered),
    ("epochsExpected", .integer m.epochsExpected)]

def feeReportingValue (f : BurnedFeeReporting) : JsValue :=
  .obj [("reportedRewardAlreadyInTotalMinted", .bool f.reportedRewardAlreadyInTotalMinted),
    ("duplicateReportObserved", .bool f.duplicateReportObserved), ("openReportEnvelopes", .integer f.openReportEnvelopes)]

def nativeInputValue (native : NativeInput) : JsValue :=
  .obj [("components", componentsValue native.components), ("census", censusValue native.census),
    ("feeReporting", feeReportingValue native.feeReporting),
    ("eligibleHomeCoverage", .nullable .bigint native.eligibleHomeCoverage),
    ("trustworthySupplyLowerBound", .nullable .bigint native.trustworthySupplyLowerBound),
    ("collateralNeeded", .nullable .bigint native.collateralNeeded),
    ("acceptedCollateral", .nullable .bigint native.acceptedCollateral)]

def nativeEngine : String := "native-upper-bound/v1"

def nativeReplayValue (context : ProofInput) (native : NativeInput) : JsValue :=
  .obj [("engine", .str nativeEngine), ("context", proofInputValue context), ("native", nativeInputValue native)]

/-! ## Encoders -/

section Encode

variable (nfc : Nfc)

/-- `canonicalStringify` with the message of its error. -/
def stringified (value : JsValue) : Except String String :=
  match canonicalStringify nfc value with
  | .ok text => .ok text
  | .error e => .error e.message

/-- `JSON.parse(canonicalStringify(value))`. -/
def reparsed (value : JsValue) : Except String JsValue :=
  match stringified nfc value with
  | .error e => .error e
  | .ok text =>
    match jsonParse text with
    | some value => .ok value
    | none => .error "SyntaxError"

def encodeProofInput (input : ProofInput) : Except String JsValue := reparsed nfc (proofInputValue input)

def encodeNativeReplay (context : ProofInput) (native : NativeInput) : Except String JsValue :=
  reparsed nfc (nativeReplayValue context native)

def encodeReplayInput (context : ProofInput) : Option NativeInput → Except String JsValue
  | none => encodeProofInput nfc context
  | some native => encodeNativeReplay nfc context native

end Encode

/-! ## Decoders of fields -/

/-- The entries of an object. An instance of a class shows none of its fields here. -/
def entriesOf (message : String) : JsValue → Except String (List (String × JsValue))
  | .obj entries => .ok entries
  | .classInstance => .ok []
  | _ => .error message

def object (v : JsValue) : Except String (List (String × JsValue)) := entriesOf "expected object" v

/-- `v[key]`. -/
def property (entries : List (String × JsValue)) (key : String) : JsValue :=
  match entries.find? fun e => e.1 = key with
  | some e => e.2
  | none => .undefined

def text : JsValue → Except String String
  | .str s => .ok s
  | _ => .error "expected string"

def bool : JsValue → Except String Bool
  | .bool b => .ok b
  | _ => .error "expected boolean"

/-- `/^(0|[1-9][0-9]*)$/`. -/
def isDecimal (s : String) : Bool :=
  match s.toList with
  | [] => false
  | c :: cs => (c = '0' && cs.isEmpty) || (c ≠ '0' && c.isDigit && cs.all Char.isDigit)

/-- `BigInt` of a decimal string. -/
def decimalValue (s : String) : Int := Nat.ofDigitChars 10 s.toList 0

def decimalUint (message s : String) : Except String Int :=
  if !isDecimal s || s.length > 78 || decimalValue s ≥ 2 ^ 256 then .error message else .ok (decimalValue s)

def uint (v : JsValue) : Except String Int := do
  let s ← text v
  decimalUint "invalid uint256" s

/-- `Number.MAX_SAFE_INTEGER`. -/
def maxSafeInteger : Int := 2 ^ 53 - 1

def count (v : JsValue) : Except String Int := do
  let n ← uint v
  if n > maxSafeInteger then .error "invalid count" else .ok n

def nullable {α : Type} (parse : JsValue → Except String α) : JsValue → Except String (Option α)
  | .null => .ok none
  | v => (parse v).map some

/-- A document has no holes, which `v.map` would skip. -/
def array {α : Type} (parse : JsValue → Except String α) : JsValue → Except String (List α)
  | .arr elements => elements.reduceOption.mapM parse
  | _ => .error "expected array"

def choice {α : Type} (choices : List α) (name : α → String) (v : JsValue) : Except String α := do
  let s ← text v
  match choices.find? fun a => name a = s with
  | some a => .ok a
  | none => .error "unknown enum"

def pin (v : JsValue) : Except String PinnedBlock := do
  let p ← object v
  return {
    blockchainId := ← text (property p "blockchainId")
    blockNumber := ← uint (property p "blockNumber")
    blockHash := ← text (property p "blockHash") }

/-! ## Decoders of inputs -/

def readScale (s : List (String × JsValue)) : Except String TokenScaleInput := do
  return {
    tokenMultiplier := ← uint (property s "tokenMultiplier")
    multiplyOnRemote := ← bool (property s "multiplyOnRemote")
    homeDecimals := ← count (property s "homeDecimals")
    remoteDecimals := ← count (property s "remoteDecimals")
    established := ← bool (property s "established") }

def readRemote (item : JsValue) : Except String RemoteObservation := do
  let r ← object item
  let s ← object (property r "scale")
  return {
    remoteBlockchainId := ← text (property r "remoteBlockchainId")
    remoteAddress := ← text (property r "remoteAddress")
    transferredBalance := ← nullable uint (property r "transferredBalance")
    remoteTotalSupply := ← nullable uint (property r "remoteTotalSupply")
    scale := ← readScale s
    homePin := ← nullable pin (property r "homePin")
    remotePin := ← nullable pin (property r "remotePin")
    fingerprintRecognised := ← bool (property r "fingerprintRecognised")
    tokenBehaviourCanonical := ← bool (property r "tokenBehaviourCanonical")
    routeSingleHop := ← bool (property r "routeSingleHop")
    initialReserveImbalance := ← uint (property r "initialReserveImbalance") }

def readPending (item : JsValue) : Except String PendingEnvelope := do
  let r ← object item
  return {
    messageKey := ← text (property r "messageKey")
    direction := ← choice [.homeToRemote, .remoteToHome] Direction.text (property r "direction")
    amount := ← uint (property r "amount")
    ageSeconds := ← count (property r "ageSeconds")
    remoteBlockchainId := ← text (property r "remoteBlockchainId")
    remoteAddress := ← text (property r "remoteAddress") }

def readEffect (item : JsValue) : Except String CreditedEffect := do
  let r ← object item
  return {
    messageKey := ← text (property r "messageKey")
    amount := ← uint (property r "amount")
    remoteBlockchainId := ← text (property r "remoteBlockchainId")
    remoteAddress := ← text (property r "remoteAddress")
    hasUniqueAuthorisedSource := ← bool (property r "hasUniqueAuthorisedSource")
    routeMatchesSource := ← bool (property r "routeMatchesSource")
    duplicateEffect := ← bool (property r "duplicateEffect")
    causalSourceFact := ← nullable text (property r "causalSourceFact") }

def readProvenance (p : List (String × JsValue)) : Except String ProvenanceInput := do
  return {
    manifestHash := ← nullable text (property p "manifestHash")
    policyHash := ← nullable text (property p "policyHash")
    sourceLockCommitSha := ← nullable text (property p "sourceLockCommitSha")
    adapterId := ← nullable text (property p "adapterId")
    adapterVersion := ← nullable count (property p "adapterVersion")
    ruleVersion := ← text (property p "ruleVersion") }

def readFreshness (f : List (String × JsValue)) : Except String FreshnessInput := do
  return {
    fresh := ← bool (property f "fresh")
    independentWitnessGroups := ← count (property f "independentWitnessGroups")
    requiredWitnessGroups := ← count (property f "requiredWitnessGroups") }

def readHomeEscrow (h : List (String × JsValue)) : Except String HomeEscrowInput := do
  return {
    escrowBalance := ← nullable uint (property h "escrowBalance")
    homePin := ← nullable pin (property h "homePin")
    acceptedCollateralHomeUnits := ← uint (property h "acceptedCollateralHomeUnits") }

/-- `input` in `decodeProofInput`. -/
def readProofInput (value : JsValue) : Except String ProofInput := do
  let v ← object value
  let p ← object (property v "provenance")
  let f ← object (property v "freshness")
  let h ← object (property v "homeEscrow")
  return {
    deploymentId := ← text (property v "deploymentId")
    family := ← text (property v "family")
    provenance := ← readProvenance p
    census := ← choice [.completeFromDeploymentBlock, .partialCensus, .unknown] CensusState.text (property v "census")
    cut := ← choice [.closed, .open, .gap] CutState.text (property v "cut")
    untrackedRemotes := ← array text (property v "untrackedRemotes")
    freshness := ← readFreshness f
    remotes := ← array readRemote (property v "remotes")
    pending := ← array readPending (property v "pending")
    effects := ← array readEffect (property v "effects")
    homeEscrow := ← readHomeEscrow h
    pendingAgeLimitSeconds := ← count (property v "pendingAgeLimitSeconds") }

def record (value : JsValue) : Except String (List (String × JsValue)) := entriesOf "expected native object" value

def boolean (v : JsValue) : Except String Bool := bool v

def amount : JsValue → Except String (Option Int)
  | .null => .ok none
  | .str s => (decimalUint "invalid native uint256" s).map some
  | _ => .error "invalid native uint256"

def nativeCount (v : JsValue) : Except String Int := do
  match ← amount v with
  | none => .error "invalid native count"
  | some n => if n > maxSafeInteger then .error "invalid native count" else .ok n

/-- `[0-9a-f]`. -/
def isHexDigit (c : Char) : Bool := c.isDigit || ('a' ≤ c && c ≤ 'f')

/-- `/^0x[0-9a-f]{40}$/`. -/
def isRoleHolder (s : String) : Bool :=
  match s.toList with
  | '0' :: 'x' :: digits => digits.length = 40 && digits.all isHexDigit
  | _ => false

/-- `holders.every(…)`, with the holders. -/
def roleHolders (v : JsValue) : Except String (List String) :=
  match array text v with
  | .ok holders => if holders.all isRoleHolder then .ok holders else .error "invalid role holder"
  | .error _ => .error "invalid role holder"

def readComponents (c : List (String × JsValue)) : Except String NativeSupplyComponents := do
  return {
    totalMinted := ← amount (property c "totalMinted")
    initialReserveImbalance := ← amount (property c "initialReserveImbalance")
    burnedTxFeesAddressBalance := ← amount (property c "burnedTxFeesAddressBalance")
    burnedForTransferAddressBalance := ← amount (property c "burnedForTransferAddressBalance")
    componentsFresh := ← boolean (property c "componentsFresh")
    fingerprintRecognised := ← boolean (property c "fingerprintRecognised") }

def readCensus (m : List (String × JsValue)) (holders : List String) : Except String MinterCensus := do
  return {
    manifestRosterProvided := ← boolean (property m "manifestRosterProvided")
    genesisChainConfigRead := ← boolean (property m "genesisChainConfigRead")
    activationRulesKnown := ← boolean (property m "activationRulesKnown")
    roleHistoryCompleteFromActivation := ← boolean (property m "roleHistoryCompleteFromActivation")
    allCandidateRolesRead := ← boolean (property m "allCandidateRolesRead")
    unexpectedRoleHolders := holders
    unauthorisedMintObserved := ← boolean (property m "unauthorisedMintObserved")
    epochsCovered := ← nativeCount (property m "epochsCovered")
    epochsExpected := ← nativeCount (property m "epochsExpected") }

def readFeeReporting (f : List (String × JsValue)) : Except String BurnedFeeReporting := do
  return {
    reportedRewardAlreadyInTotalMinted := ← boolean (property f "reportedRewardAlreadyInTotalMinted")
    duplicateReportObserved := ← boolean (property f "duplicateReportObserved")
    openReportEnvelopes := ← nativeCount (property f "openReportEnvelopes") }

/-- `input` in `decodeNativeInput`. -/
def readNativeInput (value : JsValue) : Except String NativeInput := do
  let v ← record value
  let c ← record (property v "components")
  let m ← record (property v "census")
  let f ← record (property v "feeReporting")
  let holders ← roleHolders (property m "unexpectedRoleHolders")
  return {
    components := ← readComponents c
    census := ← readCensus m holders
    feeReporting := ← readFeeReporting f
    eligibleHomeCoverage := ← amount (property v "eligibleHomeCoverage")
    trustworthySupplyLowerBound := ← amount (property v "trustworthySupplyLowerBound")
    collateralNeeded := ← amount (property v "collateralNeeded")
    acceptedCollateral := ← amount (property v "acceptedCollateral") }

/-! ## Decoders of documents -/

section Decode

variable (nfc : Nfc)

/-- What was read is returned when its canonical text is the text of the document. -/
def checked {α : Type} (message : String) (encode : α → JsValue) (value : JsValue) (input : α) : Except String α := do
  let own ← stringified nfc (encode input)
  let given ← stringified nfc value
  if own ≠ given then .error message else .ok input

/-- Decode only named fields. -/
def decodeProofInput (value : JsValue) : Except String ProofInput := do
  checked nfc "unknown or noncanonical input field" proofInputValue value (← readProofInput value)

def decodeNativeInput (value : JsValue) : Except String NativeInput := do
  checked nfc "unknown native input field" nativeInputValue value (← readNativeInput value)

/-- `Object.keys(v).sort().join(',')`. -/
def sortedKeys (entries : List (String × JsValue)) : String := ",".intercalate (sortStrings (entries.map (·.1)))

def decodeReplayInput (value : JsValue) : Except String (ProofInput × Option NativeInput) := do
  let v ← record value
  match property v "engine" with
  | .undefined => return (← decodeProofInput nfc value, none)
  | .str engine =>
    if engine ≠ nativeEngine || sortedKeys v ≠ "context,engine,native" then .error "unsupported replay engine"
    else
      let context ← decodeProofInput nfc (property v "context")
      let native ← decodeNativeInput nfc (property v "native")
      return (context, some native)
  | _ => .error "unsupported replay engine"

end Decode

end IcttSentinel.Evidence
