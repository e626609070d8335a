/-
Bundles written as values: the schema accepts each, the view of it is the bundle itself, and it has a canonical form
where its documents have one.
-/
import IcttSentinel.Evidence.Bundle
import IcttSentinel.Evidence.Replay

namespace IcttSentinel.Evidence

open IcttSentinel.Lib IcttSentinel.InvariantCore

variable {α : Type} {nfc : Nfc}

/-! ## Views -/

@[simp] theorem stringOf_str (s : String) : stringOf (.str s) = s := rfl

@[simp] theorem numberOf_integer (n : Int) : numberOf (.integer n) = n := rfl

@[simp] theorem booleanOf_bool (b : Bool) : booleanOf (.bool b) = b := rfl

theorem nullableOf_nullable (o : Option String) : nullableOf stringOf (.nullable .str o) = o := by
  cases o <;> rfl

theorem reduceOption_array (encode : α → JsValue) (l : List α) :
    (l.map fun a => some (encode a)).reduceOption = l.map encode := by
  rw [List.reduceOption, List.filterMap_map]
  exact congrFun List.filterMap_eq_map l

theorem listOf_array {view : JsValue → α} {encode : α → JsValue} (h : ∀ a, view (encode a) = a) (l : List α) :
    listOf view (.array encode l) = l := by
  have hcomp : view ∘ encode = id := funext h
  rw [JsValue.array, listOf, reduceOption_array, List.map_map, hcomp, List.map_id]

theorem listOf_strings (l : List String) : listOf stringOf (.array .str l) = l := listOf_array stringOf_str l

theorem fingerprintOf_value (f : ContractFingerprint) : fingerprintOf (fingerprintValue f) = f := by
  have hvalue : fingerprintOf (fingerprintValue f) =
      { f with
        implementationAddress := nullableOf stringOf (.nullable .str f.implementationAddress)
        implementationCodeHash := nullableOf stringOf (.nullable .str f.implementationCodeHash)
        proxyAdmin := nullableOf stringOf (.nullable .str f.proxyAdmin)
        beacon := nullableOf stringOf (.nullable .str f.beacon) } := rfl
  rw [hvalue]
  simp only [nullableOf_nullable]

theorem chainOf_value (c : PinnedChain) : chainOf (chainValue c) = c := rfl

theorem voteOf_value (v : WitnessVote) : voteOf (voteValue v) = v := rfl

theorem quorumOf_value (q : QuorumMatrix) : quorumOf (quorumValue q) = q := by
  have hvalue : quorumOf (quorumValue q) = { q with votes := listOf voteOf (.array voteValue q.votes) } := rfl
  rw [hvalue, listOf_array voteOf_value]

theorem factOf_value (f : RawFactRefRecord) : factOf (factValue f) = f := rfl

theorem historicalOf_value (b : HistoricalBlock) : historicalOf (historicalValue b) = b := by
  have hvalue : historicalOf (historicalValue b) = { b with votes := listOf voteOf (.array voteValue b.votes) } := rfl
  rw [hvalue, listOf_array voteOf_value]

theorem stateCallOf_value (c : StateCallRecord) : stateCallOf (stateCallValue c) = c := rfl

theorem registryOf_value (c : CensusRecord) : registryOf (registryValue c) = c := by
  have hvalue : registryOf (registryValue c) =
      { c with
        registeredRemotes := listOf stringOf (.array .str c.registeredRemotes)
        missingRemotes := listOf stringOf (.array .str c.missingRemotes)
        remotesWithoutRpc := listOf stringOf (.array .str c.remotesWithoutRpc) } := rfl
  rw [hvalue]
  simp only [listOf_strings]

theorem timelineOf_value (t : TimelineEntry) : timelineOf (timelineValue t) = t := rfl

theorem messageOf_value (m : MessageRecord) : messageOf (messageValue m) = m := by
  have hvalue : messageOf (messageValue m) =
      { m with
        timeline := listOf timelineOf (.array timelineValue m.timeline)
        envelopeIds := listOf stringOf (.array .str m.envelopeIds) } := rfl
  rw [hvalue, listOf_array timelineOf_value, listOf_strings]

theorem completenessOf_value (c : CompletenessRecord) : completenessOf (completenessValue c) = c := by
  have hvalue : completenessOf (completenessValue c) =
      { c with
        missingEvidence := listOf stringOf (.array .str c.missingEvidence)
        contradictoryEvidence := listOf stringOf (.array .str c.contradictoryEvidence) } := rfl
  rw [hvalue]
  simp only [listOf_strings]

theorem assuranceOf_value (a : AssuranceRecord) : assuranceOf (assuranceValue a) = a := by
  have hvalue : assuranceOf (assuranceValue a) =
      { a with
        assumptions := listOf stringOf (.array .str a.assumptions)
        exclusions := listOf stringOf (.array .str a.exclusions)
        nonGoals := listOf stringOf (.array .str a.nonGoals) } := rfl
  rw [hvalue]
  simp only [listOf_strings]

theorem optionalOf_historical (o : Option (List HistoricalBlock)) :
    optionalOf (listOf historicalOf) (o.elim .undefined (.array historicalValue)) = o := by
  cases o with
  | none => rfl
  | some l => exact congrArg some (listOf_array historicalOf_value l)

theorem coreOf_value (c : EvidenceCore) : coreOf (coreValue c) = c := by
  have hvalue : coreOf (coreValue c) =
      { c with
        fingerprints := listOf fingerprintOf (.array fingerprintValue c.fingerprints)
        chains := listOf chainOf (.array chainValue c.chains)
        quorum := quorumOf (quorumValue c.quorum)
        rawFacts := listOf factOf (.array factValue c.rawFacts)
        historicalBlocks :=
          optionalOf (listOf historicalOf) (c.historicalBlocks.elim .undefined (.array historicalValue))
        stateCalls := listOf stateCallOf (.array stateCallValue c.stateCalls)
        census := registryOf (registryValue c.census)
        messages := listOf messageOf (.array messageValue c.messages)
        completeness := completenessOf (completenessValue c.completeness)
        assurance := assuranceOf (assuranceValue c.assurance)
        previousBundleHash := nullableOf stringOf (.nullable .str c.previousBundleHash) } := rfl
  rw [hvalue, listOf_array fingerprintOf_value, listOf_array chainOf_value, quorumOf_value, listOf_array factOf_value,
    optionalOf_historical, listOf_array stateCallOf_value, registryOf_value, listOf_array messageOf_value,
    completenessOf_value, assuranceOf_value, nullableOf_nullable]

/-- The cast of a written bundle is the bundle. -/
theorem bundleOf_value (b : EvidenceBundle) : bundleOf (bundleValue b) = b := by
  have hvalue : bundleOf (bundleValue b) = { b with core := coreOf (coreValue b.core) } := rfl
  rw [hvalue, coreOf_value]

/-! ## The schema -/

theorem matches_array {shape : Shape} {encode : α → JsValue} {l : List α}
    (h : ∀ a ∈ l, matchesShape shape (encode a) = true) : matchesShape (.array shape) (.array encode l) = true := by
  rw [JsValue.array, matchesShape, reduceOption_array, List.all_map, List.all_eq_true]
  exact h

theorem matches_strings (l : List String) : matchesShape strings (.array .str l) = true := matches_array fun _ _ => rfl

theorem matches_nullable (o : Option String) : matchesShape (.nullable .s) (.nullable .str o) = true := by
  cases o <;> rfl

theorem matches_count {n : Int} (h : IsCount n) : matchesShape .n (.integer n) = true := by
  rw [matchesShape, h.safe, Bool.true_and, decide_eq_true_eq]
  exact h.1

/-- A record of the keys of its shape matches where its fields do. -/
theorem matches_record {fields : List (String × Shape)} {entries : List (String × JsValue)}
    (hkeys : (entries.all fun e => (fields.map (·.1)).contains e.1) = true)
    (hfields : fields.Forall fun f => matchesShape f.2 (property entries f.1) = true) :
    matchesShape (.record fields) (.obj entries) = true := by
  have hall : matchesFields fields entries = true := by
    clear hkeys
    induction fields with
    | nil => rfl
    | cons f fields ih =>
      rw [List.forall_cons] at hfields
      rw [matchesFields, hfields.1, ih hfields.2]
      rfl
  rw [matchesShape, entries?]
  show (_ && _) = true
  rw [hkeys, hall]
  rfl

theorem matches_vote (v : WitnessVote) : matchesShape voteShape (voteValue v) = true := rfl

theorem matches_fingerprint (f : ContractFingerprint) : matchesShape fingerprintShape (fingerprintValue f) = true :=
  matches_record rfl ⟨rfl, rfl, rfl, rfl, matches_nullable _, matches_nullable _, matches_nullable _,
    matches_nullable _, rfl⟩

theorem matches_chain (c : PinnedChain) : matchesShape chainShape (chainValue c) = true := rfl

theorem matches_fact {f : RawFactRefRecord} (h : IsCount f.logIndex) : matchesShape factShape (factValue f) = true :=
  matches_record rfl ⟨rfl, rfl, rfl, matches_count h, rfl⟩

theorem matches_historical (b : HistoricalBlock) : matchesShape historicalShape (historicalValue b) = true :=
  matches_record rfl ⟨rfl, rfl, rfl, rfl, matches_array fun v _ => matches_vote v⟩

theorem matches_stateCall (c : StateCallRecord) : matchesShape stateCallShape (stateCallValue c) = true := rfl

/-- The counts of a message record are safe integers. -/
structure MessageRecord.Counted (m : MessageRecord) : Prop where
  registryProtocolVersion : IsCount m.registryProtocolVersion
  sendAttempts : IsCount m.sendAttempts
  executionAttempts : IsCount m.executionAttempts
  economicEffectCount : IsCount m.economicEffectCount

theorem matches_message {m : MessageRecord} (h : m.Counted) : matchesShape messageShape (messageValue m) = true :=
  matches_record rfl ⟨rfl, rfl, rfl, matches_count h.registryProtocolVersion, rfl, rfl,
    matches_array fun _ _ => rfl, matches_count h.sendAttempts, matches_count h.executionAttempts, matches_strings _,
    matches_count h.economicEffectCount⟩

/-- A core whose counts are safe integers and whose documents have the shapes of rules and verdicts. -/
structure EvidenceCore.Shaped (c : EvidenceCore) : Prop where
  adapterVersion : IsCount c.sourceLock.adapterVersion
  independentGroups : IsCount c.quorum.independentGroups
  requiredGroups : IsCount c.quorum.requiredGroups
  rawFacts : ∀ f ∈ c.rawFacts, IsCount f.logIndex
  messages : ∀ m ∈ c.messages, m.Counted
  rules : matchesShape (.array ruleShape) c.rules = true
  verdict : matchesShape verdictShape c.verdict = true
  replayInput : matchesShape .any c.replayInput = true
  replayEvaluation : matchesShape .any c.replayEvaluation = true

theorem matches_core {c : EvidenceCore} (h : c.Shaped) : matchesShape coreShape (coreValue c) = true := by
  have hhistory : matchesShape (.optional (.array historicalShape))
      (c.historicalBlocks.elim .undefined (.array historicalValue)) = true := by
    cases c.historicalBlocks with
    | none => rfl
    | some l => exact matches_array fun b _ => matches_historical b
  have hlock : matchesShape (.record [("commitSha", .s), ("sourceLockHash", .s), ("adapterId", .s),
      ("adapterVersion", .n), ("adapterEpoch", .s)]) (sourceLockValue c.sourceLock) = true :=
    matches_record rfl ⟨rfl, rfl, rfl, matches_count h.adapterVersion, rfl⟩
  have hquorum : matchesShape (.record [("votes", .array voteShape), ("independentGroups", .n), ("requiredGroups", .n),
      ("note", .s)]) (quorumValue c.quorum) = true :=
    matches_record rfl ⟨matches_array fun v _ => matches_vote v, matches_count h.independentGroups,
      matches_count h.requiredGroups, rfl⟩
  have hregistry : matchesShape (.record [("completeness", .s), ("registeredRemotes", strings),
      ("missingRemotes", strings), ("remotesWithoutRpc", strings)]) (registryValue c.census) = true :=
    matches_record rfl ⟨rfl, matches_strings _, matches_strings _, matches_strings _⟩
  have hcompleteness : matchesShape (.record [("observedAt", .s), ("expiresAt", .s), ("fresh", .b),
      ("missingEvidence", strings), ("contradictoryEvidence", strings)]) (completenessValue c.completeness) = true :=
    matches_record rfl ⟨rfl, rfl, rfl, matches_strings _, matches_strings _⟩
  have hassurance : matchesShape (.record [("assuranceMode", .s), ("assumptions", strings), ("exclusions", strings),
      ("nonGoals", strings)]) (assuranceValue c.assurance) = true :=
    matches_record rfl ⟨rfl, matches_strings _, matches_strings _, matches_strings _⟩
  exact matches_record rfl ⟨rfl, hlock, rfl, rfl, matches_array fun f _ => matches_fingerprint f,
    matches_array fun c _ => matches_chain c, hquorum, matches_array fun f hf => matches_fact (h.rawFacts f hf), hhistory,
    matches_array fun c _ => matches_stateCall c, hregistry, matches_array fun m hm => matches_message (h.messages m hm),
    h.rules, h.verdict, hcompleteness, hassurance, matches_nullable _,
    matches_record rfl ⟨h.replayInput, h.replayEvaluation⟩⟩

/-- The schema accepts a written bundle. -/
theorem validBundleShape_value {b : EvidenceBundle} (h : b.core.Shaped) : validBundleShape (bundleValue b) = true :=
  matches_record rfl ⟨rfl, rfl, matches_core h⟩

/-! ## Canonical forms -/

theorem hasForm_count {n : Int} (h : IsCount n) : HasForm nfc (.integer n) := ⟨_, canon_count h⟩

theorem hasForm_nullable_str (o : Option String) : HasForm nfc (.nullable .str o) := hasForm_nullable hasForm_str o

theorem hasForm_vote (v : WitnessVote) : HasForm nfc (voteValue v) :=
  hasForm_record ["endpointId", "trustDomain", "providerGroup", "blockchainId", "agreedBlockHash", "agreed"] rfl
    (by decide) ⟨hasForm_str _, hasForm_str _, hasForm_str _, hasForm_str _, hasForm_str _, hasForm_bool _⟩

theorem hasForm_fingerprint (f : ContractFingerprint) : HasForm nfc (fingerprintValue f) :=
  hasForm_record ["role", "blockchainId", "runtimeCodeHash", "address", "implementationAddress",
      "implementationCodeHash", "proxyAdmin", "beacon", "recognised"] rfl (by decide)
    ⟨hasForm_str _, hasForm_str _, hasForm_str _, hasForm_str _, hasForm_nullable_str _, hasForm_nullable_str _,
      hasForm_nullable_str _, hasForm_nullable_str _, hasForm_bool _⟩

theorem hasForm_chain (c : PinnedChain) : HasForm nfc (chainValue c) :=
  hasForm_record ["blockchainId", "evmChainId", "blockNumber", "blockHash", "blockTimestamp", "acceptanceEvidence",
      "finalityBasis"] rfl (by decide)
    ⟨hasForm_str _, hasForm_str _, hasForm_str _, hasForm_str _, hasForm_str _, hasForm_str _, hasForm_str _⟩

theorem hasForm_fact {f : RawFactRefRecord} (h : IsCount f.logIndex) : HasForm nfc (factValue f) :=
  hasForm_record ["evmChainId", "blockHash", "txHash", "logIndex", "digest"] rfl (by decide)
    ⟨hasForm_str _, hasForm_str _, hasForm_str _, hasForm_count h, hasForm_str _⟩

theorem hasForm_historical (b : HistoricalBlock) : HasForm nfc (historicalValue b) :=
  hasForm_record ["blockchainId", "blockNumber", "blockHash", "acceptanceEvidence", "votes"] rfl (by decide)
    ⟨hasForm_str _, hasForm_str _, hasForm_str _, hasForm_str _, hasForm_array fun v _ => hasForm_vote v⟩

theorem hasForm_stateCall (c : StateCallRecord) : HasForm nfc (stateCallValue c) :=
  hasForm_record ["blockchainId", "target", "calldataDigest", "resultDigest", "observationPath", "result", "calldata",
      "provenance", "blockNumber", "blockHash"] rfl (by decide)
    ⟨hasForm_str _, hasForm_str _, hasForm_str _, hasForm_str _, hasForm_str _, hasForm_str _, hasForm_str _,
      hasForm_str _, hasForm_str _, hasForm_str _⟩

theorem hasForm_timeline (t : TimelineEntry) : HasForm nfc (timelineValue t) :=
  hasForm_record ["kind", "factDigest"] rfl (by decide) ⟨hasForm_str _, hasForm_str _⟩

theorem hasForm_message {m : MessageRecord} (h : m.Counted) : HasForm nfc (messageValue m) :=
  hasForm_record ["sourceBlockchainId", "destinationBlockchainId", "teleporterMessengerAddress",
      "registryProtocolVersion", "messageId", "state", "timeline", "sendAttempts", "executionAttempts", "envelopeIds",
      "economicEffectCount"] rfl (by decide)
    ⟨hasForm_str _, hasForm_str _, hasForm_str _, hasForm_count h.registryProtocolVersion, hasForm_str _,
      hasForm_str _, hasForm_array fun t _ => hasForm_timeline t, hasForm_count h.sendAttempts,
      hasForm_count h.executionAttempts, hasForm_strings _, hasForm_count h.economicEffectCount⟩

/-- The documents of a core have canonical forms, and it lists its historical blocks. -/
structure EvidenceCore.Formed (nfc : Nfc) (c : EvidenceCore) : Prop where
  historicalBlocks : ∃ l, c.historicalBlocks = some l
  rules : HasForm nfc c.rules
  verdict : HasForm nfc c.verdict
  replayInput : HasForm nfc c.replayInput
  replayEvaluation : HasForm nfc c.replayEvaluation

theorem hasForm_core {c : EvidenceCore} (hshape : c.Shaped) (h : c.Formed nfc) : HasForm nfc (coreValue c) := by
  have hproducer : HasForm nfc (producerValue c.producer) :=
    hasForm_record ["producer", "schemaVersion", "buildCommit", "artifactChecksum"] rfl (by decide)
      ⟨hasForm_str _, hasForm_str _, hasForm_str _, hasForm_str _⟩
  have hlock : HasForm nfc (sourceLockValue c.sourceLock) :=
    hasForm_record ["commitSha", "sourceLockHash", "adapterId", "adapterVersion", "adapterEpoch"] rfl (by decide)
      ⟨hasForm_str _, hasForm_str _, hasForm_str _, hasForm_count hshape.adapterVersion, hasForm_str _⟩
  have hbaseline : HasForm nfc (baselineValue c.baseline) :=
    hasForm_record ["manifestHash", "policyHash"] rfl (by decide) ⟨hasForm_str _, hasForm_str _⟩
  have hquorum : HasForm nfc (quorumValue c.quorum) :=
    hasForm_record ["votes", "independentGroups", "requiredGroups", "note"] rfl (by decide)
      ⟨hasForm_array fun v _ => hasForm_vote v, hasForm_count hshape.independentGroups,
        hasForm_count hshape.requiredGroups, hasForm_str _⟩
  have hhistory : HasForm nfc (c.historicalBlocks.elim .undefined (.array historicalValue)) := by
    obtain ⟨l, hl⟩ := h.historicalBlocks
    rw [hl]
    exact hasForm_array fun b _ => hasForm_historical b
  have hregistry : HasForm nfc (registryValue c.census) :=
    hasForm_record ["completeness", "registeredRemotes", "missingRemotes", "remotesWithoutRpc"] rfl (by decide)
      ⟨hasForm_str _, hasForm_strings _, hasForm_strings _, hasForm_strings _⟩
  have hcompleteness : HasForm nfc (completenessValue c.completeness) :=
    hasForm_record ["observedAt", "expiresAt", "fresh", "missingEvidence", "contradictoryEvidence"] rfl (by decide)
      ⟨hasForm_str _, hasForm_str _, hasForm_bool _, hasForm_strings _, hasForm_strings _⟩
  have hassurance : HasForm nfc (assuranceValue c.assurance) :=
    hasForm_record ["assuranceMode", "assumptions", "exclusions", "nonGoals"] rfl (by decide)
      ⟨hasForm_str _, hasForm_strings _, hasForm_strings _, hasForm_strings _⟩
  have hreplay : HasForm nfc (.obj [("input", c.replayInput), ("evaluation", c.replayEvaluation)]) :=
    hasForm_record ["input", "evaluation"] rfl (by decide) ⟨h.replayInput, h.replayEvaluation⟩
  exact hasForm_record ["producer", "sourceLock", "baseline", "deploymentId", "fingerprints", "chains", "quorum",
      "rawFacts", "historicalBlocks", "stateCalls", "census", "messages", "rules", "verdict", "completeness",
      "assurance", "previousBundleHash", "replay"] rfl (by decide)
    ⟨hproducer, hlock, hbaseline, hasForm_str _, hasForm_array fun f _ => hasForm_fingerprint f,
      hasForm_array fun c _ => hasForm_chain c, hquorum, hasForm_array fun f hf => hasForm_fact (hshape.rawFacts f hf),
      hhistory, hasForm_array fun c _ => hasForm_stateCall c, hregistry,
      hasForm_array fun m hm => hasForm_message (hshape.messages m hm), h.rules, h.verdict, hcompleteness, hassurance,
      hasForm_nullable_str _, hreplay⟩

theorem hasForm_bundle {b : EvidenceBundle} (hshape : b.core.Shaped) (h : b.core.Formed nfc) :
    HasForm nfc (bundleValue b) := by
  have hpresentation : HasForm nfc (presentationValue b.presentation) :=
    hasForm_record ["generatedAt", "locale", "toolVersion"] rfl (by decide) ⟨hasForm_str _, hasForm_str _, hasForm_str _⟩
  exact hasForm_record ["core", "presentation", "contentHash"] rfl (by decide)
    ⟨hasForm_core hshape h, hpresentation, hasForm_str _⟩

end IcttSentinel.Evidence
