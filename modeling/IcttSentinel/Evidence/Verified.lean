/-
What a verified bundle establishes: a candidate is verified exactly where every step adds nothing, and that is a
statement about its records.
-/
import IcttSentinel.Evidence.Candidates
import IcttSentinel.Evidence.Verify

namespace IcttSentinel.Evidence

open IcttSentinel.Domain IcttSentinel.Lib IcttSentinel.InvariantCore

/-! ## Steps that add nothing -/

/-- None of the steps adds a finding or throws. -/
def Silent (steps : List Step) : Prop := ∀ step ∈ steps, step = .ok []

instance (steps : List Step) : Decidable (Silent steps) := List.decidableBAll _ steps

theorem runSteps_eq_nil {steps : List Step} : runSteps steps = [] ↔ Silent steps := by
  unfold Silent
  induction steps with
  | nil => simp [runSteps]
  | cons step steps ih =>
    rw [List.forall_mem_cons]
    cases step with
    | error e => simp [runSteps]
    | ok findings => rw [runSteps, List.append_eq_nil_iff, ih, Except.ok.injEq]

@[simp] theorem silent_nil : Silent [] := fun _ h => by cases h

@[simp] theorem silent_cons {step : Step} {steps : List Step} : Silent (step :: steps) ↔ step = .ok [] ∧ Silent steps :=
  List.forall_mem_cons

@[simp] theorem silent_append {steps steps' : List Step} : Silent (steps ++ steps') ↔ Silent steps ∧ Silent steps' :=
  List.forall_mem_append

@[simp] theorem silent_flatMap {α : Type} {l : List α} {f : α → List Step} :
    Silent (l.flatMap f) ↔ ∀ a ∈ l, Silent (f a) := by
  unfold Silent
  simp only [List.mem_flatMap]
  exact ⟨fun h a ha step hstep => h step ⟨a, ha, hstep⟩, fun h step ⟨a, ha, hstep⟩ => h a ha step hstep⟩

@[simp] theorem silent_map {α : Type} {l : List α} {f : α → Step} : Silent (l.map f) ↔ ∀ a ∈ l, f a = .ok [] :=
  List.forall_mem_map

theorem expect_eq_ok {failure : VerifyFailure} {ok : Except String Bool} {detail : String} :
    expect failure ok detail = .ok [] ↔ ok = .ok true := by
  unfold expect
  cases ok with
  | error e => simp [Except.map]
  | ok b => cases b <;> simp [Except.map]

@[simp] theorem requireEvidence_eq_ok {ok : Except String Bool} {detail : String} :
    requireEvidence ok detail = .ok [] ↔ ok = .ok true := expect_eq_ok

/-! ## What the steps establish -/

section Evidence

variable (host : Host) (core : EvidenceCore) (input : ProofInput)

/-- The bundle is one of this producer, of the replayed deployment, and not empty. -/
structure IdentityEvidence : Prop where
  producer : core.producer.producer = "ictt-sentinel"
  artifactChecksum : isHex 64 core.producer.artifactChecksum = true
  sourceLockHash : isHex 64 core.sourceLock.sourceLockHash = true
  deploymentId : core.deploymentId = input.deploymentId
  manifestHash : some core.baseline.manifestHash = input.provenance.manifestHash
  policyHash : some core.baseline.policyHash = input.provenance.policyHash
  commitSha : some core.sourceLock.commitSha = input.provenance.sourceLockCommitSha
  adapterId : some core.sourceLock.adapterId = input.provenance.adapterId
  adapterVersion : some core.sourceLock.adapterVersion = input.provenance.adapterVersion
  chains : 2 ≤ core.chains.length
  fingerprints : 0 < core.fingerprints.length
  rawFacts : 0 < core.rawFacts.length
  stateCalls : 0 < core.stateCalls.length
  messages : 0 < core.messages.length
  requiredGroups : 2 ≤ core.quorum.requiredGroups
  threshold : core.quorum.requiredGroups = input.freshness.requiredWitnessGroups
  contracts : ∀ f ∈ core.fingerprints,
    isRoleHolder f.address = true ∧ isHash f.runtimeCodeHash = true ∧ ∃ c ∈ core.chains, c.blockchainId = f.blockchainId
  remotes : ∀ r ∈ input.remotes, ∃ f ∈ core.fingerprints,
    f.blockchainId = r.remoteBlockchainId ∧ f.address = r.remoteAddress ∧ f.recognised = r.fingerprintRecognised

/-- A pinned chain has a basis that stands and enough failure domains among the votes counted for it. -/
structure ChainEvidence (chain : PinnedChain) : Prop where
  acceptanceEvidence : chain.acceptanceEvidence ≠ ""
  finalityBasis : chain.finalityBasis = "accepted-quorum" ∨ chain.finalityBasis = "settled-quorum"
  stands : ∃ evmChainId blockTimestamp, bigInt chain.evmChainId = .ok evmChainId ∧
    bigInt chain.blockTimestamp = .ok blockTimestamp ∧
      finalityBasisStands chain.finalityBasis ⟨evmChainId, chain.blockchainId⟩ blockTimestamp = true
  blockNumber : isDecimal chain.blockNumber = true
  blockHash : isHash chain.blockHash = true
  quorum : core.quorum.requiredGroups ≤ (chainCount core chain : Int)

structure QuorumEvidence : Prop where
  replayed : leastCount core = some input.freshness.independentWitnessGroups
  recorded : leastCount core = some core.quorum.independentGroups
  votes : ∀ v ∈ core.quorum.votes,
    isEndpointId v.endpointId = true ∧ ∃ c ∈ core.chains, c.blockchainId = v.blockchainId
  pins : ∀ o ∈ replayPins input, ∃ p, o = some p ∧
    pinned core p.blockchainId (toString p.blockNumber) p.blockHash = true

/-- A historical block lies below the pin of its chain, and all votes on the chain agree on it. -/
structure HistoricalEvidence (block : HistoricalBlock) : Prop where
  below : ∃ chain, (core.chains.find? fun c => c.blockchainId = block.blockchainId) = some chain ∧
    ∃ height top, bigInt block.blockNumber = .ok height ∧ bigInt chain.blockNumber = .ok top ∧ height < top
  blockNumber : isDecimal block.blockNumber = true
  blockHash : isHash block.blockHash = true
  acceptanceEvidence : block.acceptanceEvidence ≠ ""
  count : block.votes.length = (core.quorum.votes.filter fun v => v.blockchainId = block.blockchainId).length
  votes : ∀ v ∈ block.votes, v.agreed = true ∧ v.agreedBlockHash = block.blockHash ∧
    v.blockchainId = block.blockchainId ∧ ∃ w ∈ core.quorum.votes, w.blockchainId = block.blockchainId ∧
      w.endpointId = v.endpointId ∧ w.trustDomain = v.trustDomain ∧ w.providerGroup = v.providerGroup
  endpoints : (block.votes.map (·.endpointId)).eraseDups.length =
    (core.quorum.votes.filter fun v => v.blockchainId = block.blockchainId).length

structure FactEvidence : Prop where
  digests : ∀ f ∈ core.rawFacts, ∃ evmChainId, bigInt f.evmChainId = .ok evmChainId ∧
    f.digest = factDigest host evmChainId f.blockHash f.txHash f.logIndex
  blocks : ∀ f ∈ core.rawFacts, ∃ c ∈ core.chains, c.evmChainId = f.evmChainId ∧
    (c.blockHash = f.blockHash ∨ ∃ b ∈ history core, b.blockchainId = c.blockchainId ∧ b.blockHash = f.blockHash)
  distinct : (core.rawFacts.map (·.digest)).Nodup

/-- A state call reads a recognised contract, or the escrow, at a pinned block. -/
structure CallEvidence (call : StateCallRecord) : Prop where
  target : recognised core call.blockchainId call.target = true ∨ escrowBound core call = true
  block : pinned core call.blockchainId call.blockNumber call.blockHash = true
  calldataDigest : call.calldataDigest = domainSeparatedSha256 host.sha256 "ictt-sentinel/calldata/v1" call.calldata
  resultDigest : call.resultDigest = stateCallDigest host call.target call.calldata call.result
  provenance : call.provenance ≠ ""

structure Erc20Evidence : Prop where
  transferredBalance : ∀ r i, (r, i) ∈ input.remotes.zipIdx →
    observed core (remotePath i "transferredBalance") r.transferredBalance = true
  remoteTotalSupply : ∀ r i, (r, i) ∈ input.remotes.zipIdx →
    observed core (remotePath i "remoteTotalSupply") r.remoteTotalSupply = true
  escrowBalance : observed core "homeEscrow.escrowBalance" input.homeEscrow.escrowBalance = true

structure NativeEvidence (native : NativeInput) : Prop where
  values : ∀ path value, (path, value) ∈ nativeValues native → observed core path value = true
  fingerprintRecognised : native.components.fingerprintRecognised = true
  fingerprint : ∃ f ∈ core.fingerprints, f.role = "native-token-remote" ∧ f.recognised = true
  epochsExpected : 0 < native.census.epochsExpected
  epochsCovered : native.census.epochsExpected ≤ native.census.epochsCovered
  manifestRosterProvided : native.census.manifestRosterProvided = true
  genesisChainConfigRead : native.census.genesisChainConfigRead = true
  activationRulesKnown : native.census.activationRulesKnown = true
  roleHistoryCompleteFromActivation : native.census.roleHistoryCompleteFromActivation = true
  allCandidateRolesRead : native.census.allCandidateRolesRead = true
  census : ∃ text, stringified host.nfc (censusValue native.census) = .ok text ∧
    observation core "native.census" = some text
  feeReporting : ∃ text, stringified host.nfc (feeReportingValue native.feeReporting) = .ok text ∧
    observation core "native.feeReporting" = some text
  supplyLowerBound : ∀ bound ∈ native.trustworthySupplyLowerBound,
    observation core "native.trustworthySupplyLowerBound" = some (toString bound)

structure ClosingEvidence : Prop where
  registeredRemotes : same host (.array .str core.census.registeredRemotes)
    (.array (fun r : RemoteObservation => .str (r.remoteBlockchainId ++ "/" ++ r.remoteAddress)) input.remotes) = .ok true
  completeness : core.census.completeness = input.census.text
  missingRemotes : core.census.missingRemotes = []
  remotesWithoutRpc : core.census.remotesWithoutRpc = []
  recordedFresh : core.completeness.fresh = true
  replayedFresh : input.freshness.fresh = true
  expiry : ∃ observedAt expiresAt, host.dateParse core.completeness.observedAt = some observedAt ∧
    host.dateParse core.completeness.expiresAt = some expiresAt ∧ observedAt < expiresAt
  messages : ∀ m ∈ core.messages, 0 < m.timeline.length ∧ 0 < m.envelopeIds.length
  effects : ∀ e ∈ input.effects, ∃ fact ∈ e.causalSourceFact, fact ∈ core.rawFacts.map (·.digest)

/-- Everything that is required of a bundle beside its arithmetic. -/
structure Evidenced (native : Option NativeInput) : Prop where
  identity : IdentityEvidence core input
  chains : ∀ c ∈ core.chains, ChainEvidence core c
  quorum : QuorumEvidence core input
  heights : ((history core).map fun b => b.blockchainId ++ "/" ++ b.blockNumber).Nodup
  history : ∀ b ∈ history core, HistoricalEvidence core b
  facts : FactEvidence host core
  observationPaths : (core.stateCalls.map (·.observationPath)).Nodup
  calls : ∀ c ∈ core.stateCalls, CallEvidence host core c
  erc20 : native = none → Erc20Evidence core input
  native : ∀ n ∈ native, NativeEvidence host core n
  closing : ClosingEvidence host core input

end Evidence

/-! ## The steps, group by group -/

section Groups

variable {host : Host} {core : EvidenceCore} {input : ProofInput}

theorem silent_identity : Silent (identitySteps core input) ↔ IdentityEvidence core input := by
  simp only [identitySteps, silent_cons, silent_nil, requireEvidence_eq_ok, Except.ok.injEq, Bool.and_eq_true,
    decide_eq_true_eq, List.all_eq_true, List.any_eq_true, and_true]
  constructor
  · rintro ⟨⟨hproducer, hchecksum⟩, hlock, ⟨⟨⟨⟨⟨hdeployment, hmanifest⟩, hpolicy⟩, hcommit⟩, hadapter⟩, hversion⟩,
      ⟨⟨⟨⟨hchains, hfingerprints⟩, hfacts⟩, hcalls⟩, hmessages⟩, ⟨hrequired, hthreshold⟩, hcontracts, hremotes⟩
    exact ⟨hproducer, hchecksum, hlock, hdeployment, hmanifest, hpolicy, hcommit, hadapter, hversion, hchains,
      hfingerprints, hfacts, hcalls, hmessages, hrequired, hthreshold,
      fun f hf => ⟨(hcontracts f hf).1.1, (hcontracts f hf).1.2, (hcontracts f hf).2⟩,
      fun r hr => (hremotes r hr).imp fun f h => ⟨h.1, h.2.1.1, h.2.1.2, h.2.2⟩⟩
  · intro h
    exact ⟨⟨h.producer, h.artifactChecksum⟩, h.sourceLockHash,
      ⟨⟨⟨⟨⟨h.deploymentId, h.manifestHash⟩, h.policyHash⟩, h.commitSha⟩, h.adapterId⟩, h.adapterVersion⟩,
      ⟨⟨⟨⟨h.chains, h.fingerprints⟩, h.rawFacts⟩, h.stateCalls⟩, h.messages⟩, ⟨h.requiredGroups, h.threshold⟩,
      fun f hf => ⟨⟨(h.contracts f hf).1, (h.contracts f hf).2.1⟩, (h.contracts f hf).2.2⟩,
      fun r hr => (h.remotes r hr).imp fun f h => ⟨h.1, ⟨h.2.1, h.2.2.1⟩, h.2.2.2⟩⟩

/-- Two parses and what is decided from them. -/
theorem bind_bigInt_eq_ok {s t : String} {decided : Int → Int → Bool} :
    (do let m ← bigInt s
        let n ← bigInt t
        return decided m n : Except String Bool) = .ok true ↔
      ∃ m n, bigInt s = .ok m ∧ bigInt t = .ok n ∧ decided m n = true := by
  constructor
  · intro h
    obtain ⟨m, hm, h⟩ := bind_eq_ok.1 h
    obtain ⟨n, hn, h⟩ := bind_eq_ok.1 h
    exact ⟨m, n, hm, hn, Except.ok.inj h⟩
  · rintro ⟨m, n, hm, hn, h⟩
    rw [hm, ok_bind, hn, ok_bind, h]
    rfl

theorem silent_chain {chain : PinnedChain} : Silent (chainSteps core chain) ↔ ChainEvidence core chain := by
  simp only [chainSteps, silent_cons, silent_nil, requireEvidence_eq_ok, bind_bigInt_eq_ok, Except.ok.injEq,
    Bool.and_eq_true, Bool.or_eq_true, decide_eq_true_eq, and_true]
  constructor
  · rintro ⟨⟨hacceptance, hbasis⟩, hstands, ⟨hnumber, hhash⟩, hquorum⟩
    exact ⟨hacceptance, hbasis, hstands, hnumber, hhash, hquorum⟩
  · intro h
    exact ⟨⟨h.acceptanceEvidence, h.finalityBasis⟩, h.stands, ⟨h.blockNumber, h.blockHash⟩, h.quorum⟩

theorem silent_quorum : Silent (quorumSteps core input) ↔ QuorumEvidence core input := by
  have hpin : ∀ o : Option PinnedBlock, (o.any fun p => pinned core p.blockchainId (toString p.blockNumber) p.blockHash) =
      true ↔ ∃ p, o = some p ∧ pinned core p.blockchainId (toString p.blockNumber) p.blockHash = true := by
    intro o
    cases o <;> simp
  simp only [quorumSteps, silent_cons, silent_nil, requireEvidence_eq_ok, Except.ok.injEq, Bool.and_eq_true,
    decide_eq_true_eq, List.all_eq_true, List.any_eq_true, hpin, and_true]
  constructor
  · rintro ⟨⟨hreplayed, hrecorded⟩, hvotes, hpins⟩
    exact ⟨hreplayed, hrecorded, hvotes, hpins⟩
  · intro h
    exact ⟨⟨h.replayed, h.recorded⟩, h.votes, h.pins⟩

theorem silent_historical {block : HistoricalBlock} :
    Silent (historicalSteps core block) ↔ HistoricalEvidence core block := by
  simp only [historicalSteps, silent_cons, silent_nil, requireEvidence_eq_ok, Except.ok.injEq, Bool.and_eq_true,
    decide_eq_true_eq, List.all_eq_true, List.any_eq_true, List.mem_filter, and_true]
  constructor
  · rintro ⟨hbelow, ⟨hcount, hvotes⟩, hendpoints⟩
    have hvotes' : ∀ v ∈ block.votes, v.agreed = true ∧ v.agreedBlockHash = block.blockHash ∧
        v.blockchainId = block.blockchainId ∧ ∃ w ∈ core.quorum.votes, w.blockchainId = block.blockchainId ∧
          w.endpointId = v.endpointId ∧ w.trustDomain = v.trustDomain ∧ w.providerGroup = v.providerGroup := by
      intro v hv
      obtain ⟨⟨⟨hagreed, hhash⟩, hchain⟩, w, ⟨hw, hwchain⟩, ⟨hendpoint, hdomain⟩, hgroup⟩ := hvotes v hv
      exact ⟨hagreed, hhash, hchain, w, hw, hwchain, hendpoint, hdomain, hgroup⟩
    cases hfind : core.chains.find? fun c => c.blockchainId = block.blockchainId with
    | none =>
      rw [hfind] at hbelow
      cases hbelow
    | some chain =>
      rw [hfind] at hbelow
      change (if isDecimal block.blockNumber = true then _ else _) = _ at hbelow
      split_ifs at hbelow with hnumber
      · obtain ⟨height, top, hheight, htop, hlt⟩ := bind_bigInt_eq_ok.1 hbelow
        simp only [Bool.and_eq_true, decide_eq_true_eq] at hlt
        exact ⟨⟨chain, hfind, height, top, hheight, htop, hlt.1.1⟩, hnumber, hlt.1.2, hlt.2, hcount, hvotes', hendpoints⟩
      · cases hbelow
  · intro h
    obtain ⟨chain, hfind, height, top, hheight, htop, hlt⟩ := h.below
    refine ⟨?_, ⟨h.count, fun v hv => ?_⟩, h.endpoints⟩
    · rw [hfind]
      change (if isDecimal block.blockNumber = true then _ else _) = _
      rw [if_pos h.blockNumber]
      refine bind_bigInt_eq_ok.2 ⟨height, top, hheight, htop, ?_⟩
      simp [hlt, h.blockHash, h.acceptanceEvidence]
    · obtain ⟨hagreed, hhash, hchain, w, hw, hwchain, hendpoint, hdomain, hgroup⟩ := h.votes v hv
      exact ⟨⟨⟨hagreed, hhash⟩, hchain⟩, w, ⟨hw, hwchain⟩, ⟨hendpoint, hdomain⟩, hgroup⟩

theorem silent_history : Silent (historySteps core) ↔
    ((history core).map fun b => b.blockchainId ++ "/" ++ b.blockNumber).Nodup ∧
      ∀ b ∈ history core, HistoricalEvidence core b := by
  simp only [historySteps, silent_cons, silent_flatMap, silent_historical, requireEvidence_eq_ok, Except.ok.injEq,
    decide_eq_true_eq]

theorem silent_facts : Silent (factSteps host core) ↔ FactEvidence host core := by
  have hdigest : ∀ f : RawFactRefRecord,
      (do let evmChainId ← bigInt f.evmChainId
          return decide (f.digest = factDigest host evmChainId f.blockHash f.txHash f.logIndex) : Except String Bool) =
        .ok true ↔ ∃ evmChainId, bigInt f.evmChainId = .ok evmChainId ∧
          f.digest = factDigest host evmChainId f.blockHash f.txHash f.logIndex := by
    intro f
    constructor
    · intro h
      obtain ⟨n, hn, h⟩ := bind_eq_ok.1 h
      exact ⟨n, hn, of_decide_eq_true (Except.ok.inj h)⟩
    · rintro ⟨n, hn, h⟩
      rw [hn, ok_bind, decide_eq_true h]
      rfl
  simp only [factSteps, silent_append, silent_flatMap, silent_cons, silent_nil, requireEvidence_eq_ok, hdigest,
    Except.ok.injEq, Bool.and_eq_true, Bool.or_eq_true, decide_eq_true_eq, List.any_eq_true, and_true]
  constructor
  · rintro ⟨hfacts, hdistinct⟩
    exact ⟨fun f hf => (hfacts f hf).1, fun f hf => (hfacts f hf).2, hdistinct⟩
  · intro h
    exact ⟨fun f hf => ⟨h.digests f hf, h.blocks f hf⟩, h.distinct⟩

/-- The calls still to come are new among themselves and beside the ones already seen. -/
theorem silent_stateCalls {calls : List StateCallRecord} (earlier : List StateCallRecord) :
    Silent (stateCallSteps host core earlier calls) ↔
      (∀ c ∈ calls, ∀ e ∈ earlier, e.observationPath ≠ c.observationPath) ∧
        (calls.map (·.observationPath)).Nodup ∧ ∀ c ∈ calls, CallEvidence host core c := by
  induction calls generalizing earlier with
  | nil => simp [stateCallSteps]
  | cons call calls ih =>
    have hcall : Silent (callSteps host core earlier call) ↔
        (∀ e ∈ earlier, e.observationPath ≠ call.observationPath) ∧ CallEvidence host core call := by
      simp only [callSteps, silent_cons, silent_nil, requireEvidence_eq_ok, Except.ok.injEq, Bool.and_eq_true,
        Bool.or_eq_true, decide_eq_true_eq, List.all_eq_true, and_true]
      constructor
      · rintro ⟨hnew, htarget, hblock, ⟨hcalldata, hresult⟩, hprovenance⟩
        exact ⟨hnew, htarget, hblock, hcalldata, hresult, hprovenance⟩
      · rintro ⟨hnew, h⟩
        exact ⟨hnew, h.target, h.block, ⟨h.calldataDigest, h.resultDigest⟩, h.provenance⟩
    rw [stateCallSteps, silent_append, hcall, ih, List.map_cons, List.nodup_cons]
    simp only [List.forall_mem_cons, List.mem_append, List.mem_singleton, List.mem_map]
    constructor
    · rintro ⟨⟨hnew, hevidence⟩, hlater, hnodup, hcalls⟩
      refine ⟨⟨hnew, fun c hc e he => hlater c hc e (Or.inl he)⟩, ⟨?_, hnodup⟩, hevidence, hcalls⟩
      rintro ⟨c, hc, hpath⟩
      exact hlater c hc call (Or.inr rfl) hpath.symm
    · rintro ⟨⟨hnew, hlater⟩, ⟨hpath, hnodup⟩, hevidence, hcalls⟩
      refine ⟨⟨hnew, hevidence⟩, fun c hc e he => ?_, hnodup, hcalls⟩
      rcases he with he | rfl
      · exact hlater c hc e he
      · exact fun heq => hpath ⟨c, hc, heq.symm⟩

theorem silent_erc20 : Silent (erc20Steps core input) ↔ Erc20Evidence core input := by
  simp only [erc20Steps, silent_append, silent_flatMap, silent_cons, silent_nil, requireEvidence_eq_ok,
    Except.ok.injEq, and_true, Prod.forall]
  constructor
  · rintro ⟨hremotes, hescrow⟩
    exact ⟨fun r i hr => (hremotes r i hr).1, fun r i hr => (hremotes r i hr).2, hescrow⟩
  · intro h
    exact ⟨fun r i hr => ⟨h.transferredBalance r i hr, h.remoteTotalSupply r i hr⟩, h.escrowBalance⟩

theorem silent_native {native : NativeInput} :
    Silent (nativeSteps host core native) ↔ NativeEvidence host core native := by
  have htext : ∀ (path : String) (value : JsValue),
      (do let text ← stringified host.nfc value
          return decide (observation core path = some text) : Except String Bool) = .ok true ↔
        ∃ text, stringified host.nfc value = .ok text ∧ observation core path = some text := by
    intro path value
    constructor
    · intro h
      obtain ⟨text, htext, h⟩ := bind_eq_ok.1 h
      exact ⟨text, htext, of_decide_eq_true (Except.ok.inj h)⟩
    · rintro ⟨text, htext, h⟩
      rw [htext, ok_bind, decide_eq_true h]
      rfl
  simp only [nativeSteps, silent_append, silent_map, silent_cons, silent_nil, requireEvidence_eq_ok, htext,
    Except.ok.injEq, Bool.and_eq_true, decide_eq_true_eq, List.any_eq_true, List.forall_mem_cons, List.not_mem_nil,
    false_implies, implies_true, and_true, Option.mem_toList, Prod.forall]
  constructor
  · rintro ⟨⟨⟨hvalues, ⟨hrecognised, hfingerprint⟩, ⟨⟨⟨⟨⟨hexpected, hcovered⟩, hroster⟩, hgenesis⟩, hrules⟩, hhistory⟩,
      hroles⟩, hcensus, hfees⟩, hbound⟩
    exact ⟨hvalues, hrecognised, hfingerprint, hexpected, hcovered, hroster, hgenesis, hrules, hhistory, hroles, hcensus,
      hfees, hbound⟩
  · intro h
    exact ⟨⟨⟨h.values, ⟨h.fingerprintRecognised, h.fingerprint⟩, ⟨⟨⟨⟨⟨h.epochsExpected, h.epochsCovered⟩,
      h.manifestRosterProvided⟩, h.genesisChainConfigRead⟩, h.activationRulesKnown⟩,
      h.roleHistoryCompleteFromActivation⟩, h.allCandidateRolesRead⟩, h.census, h.feeReporting⟩, h.supplyLowerBound⟩

theorem silent_closing : Silent (closingSteps host core input) ↔ ClosingEvidence host core input := by
  have hregistered : (do
      let registered ← same host (.array .str core.census.registeredRemotes)
        (.array (fun r : RemoteObservation => .str (r.remoteBlockchainId ++ "/" ++ r.remoteAddress)) input.remotes)
      return registered && core.census.completeness = input.census.text && core.census.missingRemotes.length = 0 &&
        core.census.remotesWithoutRpc.length = 0 : Except String Bool) = .ok true ↔
      same host (.array .str core.census.registeredRemotes)
        (.array (fun r : RemoteObservation => .str (r.remoteBlockchainId ++ "/" ++ r.remoteAddress)) input.remotes) =
          .ok true ∧ core.census.completeness = input.census.text ∧ core.census.missingRemotes = [] ∧
            core.census.remotesWithoutRpc = [] := by
    constructor
    · intro h
      obtain ⟨registered, hsame, h⟩ := bind_eq_ok.1 h
      have hall := Except.ok.inj h
      simp only [Bool.and_eq_true, decide_eq_true_eq, List.length_eq_zero_iff] at hall
      obtain ⟨⟨⟨rfl, hcompleteness⟩, hmissing⟩, hwithout⟩ := hall
      exact ⟨hsame, hcompleteness, hmissing, hwithout⟩
    · rintro ⟨hsame, hcompleteness, hmissing, hwithout⟩
      rw [hsame, ok_bind, hcompleteness, hmissing, hwithout]
      simp
      rfl
  -- both timestamps have to parse before they are compared
  have hexpiry : ∀ o o' : Option Int, (o.any fun observedAt => o'.any fun expiresAt => expiresAt > observedAt) = true ↔
      ∃ observedAt expiresAt, o = some observedAt ∧ o' = some expiresAt ∧ observedAt < expiresAt := by
    intro o o'
    cases o <;> cases o' <;> simp
  have hsource : ∀ o : Option String, (o.any fun fact => (core.rawFacts.map (·.digest)).contains fact) = true ↔
      ∃ fact ∈ o, fact ∈ core.rawFacts.map (·.digest) := by
    intro o
    cases o <;> simp
  simp only [closingSteps, silent_append, silent_map, silent_cons, silent_nil, requireEvidence_eq_ok, hregistered,
    hsource, Except.ok.injEq, Bool.and_eq_true, hexpiry, decide_eq_true_eq, List.all_eq_true, and_true]
  constructor
  · rintro ⟨⟨⟨hsame, hcompleteness, hmissing, hwithout⟩, ⟨⟨hrecorded, hreplayed⟩, hexpiry⟩, hmessages⟩, heffects⟩
    exact ⟨hsame, hcompleteness, hmissing, hwithout, hrecorded, hreplayed, hexpiry, hmessages, heffects⟩
  · intro h
    exact ⟨⟨⟨h.registeredRemotes, h.completeness, h.missingRemotes, h.remotesWithoutRpc⟩,
      ⟨⟨h.recordedFresh, h.replayedFresh⟩, h.expiry⟩, h.messages⟩, h.effects⟩

theorem silent_evidence {native : Option NativeInput} :
    Silent (evidenceSteps host core input native) ↔ Evidenced host core input native := by
  have hamounts : Silent (native.elim (erc20Steps core input) (nativeSteps host core)) ↔
      (native = none → Erc20Evidence core input) ∧ ∀ n ∈ native, NativeEvidence host core n := by
    cases native with
    | none => simp [silent_erc20]
    | some n => simp [silent_native]
  simp only [evidenceSteps, silent_append, silent_flatMap, silent_identity, silent_chain, silent_quorum, silent_history,
    silent_facts, silent_stateCalls, silent_closing, hamounts]
  constructor
  · rintro ⟨⟨⟨⟨⟨⟨⟨hidentity, hchains⟩, hquorum⟩, hheights, hhistory⟩, hfacts⟩, -, hpaths, hcalls⟩, herc20, hnative⟩,
      hclosing⟩
    exact ⟨hidentity, hchains, hquorum, hheights, hhistory, hfacts, hpaths, hcalls, herc20, hnative, hclosing⟩
  · intro h
    have hnew : ∀ c ∈ core.stateCalls, ∀ e ∈ ([] : List StateCallRecord), e.observationPath ≠ c.observationPath :=
      fun _ _ _ he => absurd he List.not_mem_nil
    exact ⟨⟨⟨⟨⟨⟨⟨h.identity, h.chains⟩, h.quorum⟩, h.heights, h.history⟩, h.facts⟩, hnew, h.observationPaths, h.calls⟩,
      h.erc20, h.native⟩, h.closing⟩

end Groups

/-! ## Verified candidates -/

section Verified

variable (host : Host) (candidate : JsValue) (external : Option AggregationInput)

/-- The input of the bundle is decoded and replayed to what the bundle records, and everything required is there. -/
structure ReplayVerified (core : EvidenceCore) (input : ProofInput) (native : Option NativeInput) : Prop where
  decoded : decodeReplayInput host.nfc core.replayInput = .ok (input, native)
  replayed : ∃ replayed, replayEvaluation host.nfc host.sha256 core.replayInput = .ok replayed ∧
    replayedStep host core replayed = .ok []
  external : externalStep host core external = .ok []
  evidenced : Evidenced host core input native

/-- What is established by a verification that succeeds. -/
structure Verified (core : EvidenceCore) : Prop where
  noSecrets : host.jsonSecrets candidate = .ok []
  shape : validBundleShape candidate = true
  schemaVersion : core.producer.schemaVersion = evidenceSchemaVersion
  canonical : ∃ text, stringified host.nfc candidate = .ok text
  content : ∃ text, stringified host.nfc (fieldOf candidate "core") = .ok text ∧
    host.sha256 (evidenceSchemaVersion ++ "\u0000" ++ text) = (bundleOf candidate).contentHash ∧ host.findSecrets text = []
  references : ∀ m ∈ core.messages, ∀ t ∈ m.timeline, t.factDigest ∈ core.rawFacts.map (·.digest)
  missingEvidence : core.completeness.missingEvidence = []
  contradictoryEvidence : core.completeness.contradictoryEvidence = []
  replay : ∃ input native, ReplayVerified host external core input native

variable {host candidate external}

theorem referenceFindings_eq_nil {core : EvidenceCore} : referenceFindings core = [] ↔
    ∀ m ∈ core.messages, ∀ t ∈ m.timeline, t.factDigest ∈ core.rawFacts.map (·.digest) := by
  simp only [referenceFindings, List.flatMap_eq_nil_iff, ite_eq_left_iff, List.contains_iff_mem, List.cons_ne_nil,
    imp_false, not_not]

theorem admittedFindings_eq_nil {core : EvidenceCore} : admittedFindings core = [] ↔
    core.completeness.missingEvidence = [] ∧ core.completeness.contradictoryEvidence = [] := by
  simp only [admittedFindings, List.append_eq_nil_iff, ite_eq_right_iff, List.cons_ne_nil, imp_false, gt_iff_lt,
    List.length_pos_iff, not_not]

theorem replayFindings_eq_nil {core : EvidenceCore} : replayFindings host core external = [] ↔
    ∃ input native, ReplayVerified host external core input native := by
  constructor
  · intro h
    unfold replayFindings at h
    cases hdecoded : decodeReplayInput host.nfc core.replayInput with
    | error e =>
      rw [hdecoded] at h
      cases h
    | ok read =>
      obtain ⟨input, native⟩ := read
      rw [hdecoded] at h
      dsimp only at h
      cases hreplayed : replayEvaluation host.nfc host.sha256 core.replayInput with
      | error e =>
        rw [hreplayed] at h
        cases h
      | ok replayed =>
        rw [hreplayed] at h
        have hsilent := runSteps_eq_nil.1 h
        rw [silent_cons, silent_cons, silent_evidence] at hsilent
        exact ⟨input, native, hdecoded, ⟨replayed, hreplayed, hsilent.1⟩, hsilent.2.1, hsilent.2.2⟩
  · rintro ⟨input, native, hdecoded, ⟨replayed, hreplayed, hstep⟩, hexternal, hevidenced⟩
    unfold replayFindings
    rw [hdecoded]
    dsimp only
    rw [hreplayed]
    exact runSteps_eq_nil.2 (silent_cons.2 ⟨hstep, silent_cons.2 ⟨hexternal, silent_evidence.2 hevidenced⟩⟩)

theorem verifyCanonical_eq_ok {r : VerifyResult} : verifyCanonical host candidate external = .ok r ∧ r.verified = true ↔
    ∃ text, stringified host.nfc (fieldOf candidate "core") = .ok text ∧
      (hashFindings (bundleOf candidate).contentHash (host.sha256 (evidenceSchemaVersion ++ "\u0000" ++ text)) = [] ∧
        referenceFindings (bundleOf candidate).core = [] ∧ admittedFindings (bundleOf candidate).core = [] ∧
        replayFindings host (bundleOf candidate).core external = [] ∧ secretFindings host text = []) ∧
      r = ⟨true, [], host.sha256 (evidenceSchemaVersion ++ "\u0000" ++ text), trustBoundary⟩ := by
  constructor
  · rintro ⟨h, hverified⟩
    obtain ⟨hash, hhash, h⟩ := bind_eq_ok.1 h
    obtain ⟨text, htext, hhash⟩ := bind_eq_ok.1 hhash
    obtain ⟨text', htext', h⟩ := bind_eq_ok.1 h
    cases hhash
    rw [htext] at htext'
    cases htext'
    cases h
    rw [List.isEmpty_iff] at hverified
    refine ⟨text, htext, ?_, ?_⟩
    · simpa only [List.append_eq_nil_iff, and_assoc] using hverified
    · simp only [hverified, List.isEmpty_nil]
  · rintro ⟨text, htext, ⟨hhash, hreferences, hadmitted, hreplay, hsecrets⟩, rfl⟩
    refine ⟨?_, rfl⟩
    rw [verifyCanonical, hashCore, htext]
    simp only [ok_bind, pure_bind, hhash, hreferences, hadmitted, hreplay, hsecrets, List.append_nil]
    rfl

/-- A candidate is verified exactly where what verification establishes holds of it. -/
theorem verifyBundle_verified_iff :
    (∃ r, verifyBundle host candidate external = .ok r ∧ r.verified = true) ↔
      Verified host candidate external (bundleOf candidate).core := by
  constructor
  · rintro ⟨r, h, hverified⟩
    unfold verifyBundle at h
    cases hsecrets : host.jsonSecrets candidate with
    | error e =>
      rw [hsecrets] at h
      cases h
      cases hverified
    | ok secrets =>
      rw [hsecrets] at h
      change (if _ then _ else _) = _ at h
      -- each early return of the verifier carries a failed check, so none of them is verified
      split_ifs at h with hnone hshape hversion
      · cases h
        cases hverified
      · cases h
        cases hverified
      · cases h
        cases hverified
      · cases htext : stringified host.nfc candidate with
        | error e =>
          rw [htext] at h
          cases h
          cases hverified
        | ok text =>
          rw [htext] at h
          obtain ⟨core, hcore, ⟨hhash, hreferences, hadmitted, hreplay, hfound⟩, -⟩ :=
            verifyCanonical_eq_ok.1 ⟨h, hverified⟩
          have hempty : secrets = [] := by
            rw [gt_iff_lt, List.length_pos_iff, not_not] at hnone
            exact hnone
          subst hempty
          simp only [hashFindings, ne_eq, ite_eq_right_iff, List.cons_ne_nil, imp_false, not_not] at hhash
          simp only [secretFindings, gt_iff_lt, List.length_pos_iff, ite_eq_right_iff, List.cons_ne_nil, imp_false,
            not_not] at hfound
          exact ⟨hsecrets, by simpa using hshape, not_not.1 hversion, ⟨text, htext⟩, ⟨core, hcore, hhash, hfound⟩,
            referenceFindings_eq_nil.1 hreferences, (admittedFindings_eq_nil.1 hadmitted).1,
            (admittedFindings_eq_nil.1 hadmitted).2, replayFindings_eq_nil.1 hreplay⟩
  · intro h
    obtain ⟨text, htext⟩ := h.canonical
    obtain ⟨core, hcore, hhash, hfound⟩ := h.content
    -- conversely no check leaves a finding
    have hfindings := verifyCanonical_eq_ok.2 ⟨core, hcore, ⟨by simp [hashFindings, hhash],
      referenceFindings_eq_nil.2 h.references, admittedFindings_eq_nil.2 ⟨h.missingEvidence, h.contradictoryEvidence⟩,
      replayFindings_eq_nil.2 h.replay, by simp [secretFindings, hfound]⟩, rfl⟩
    refine ⟨_, ?_, hfindings.2⟩
    rw [verifyBundle, h.noSecrets]
    show (if ([] : List String).length > 0 then _ else _) = _
    rw [if_neg (by decide), h.shape]
    show (if (bundleOf candidate).core.producer.schemaVersion ≠ evidenceSchemaVersion then _ else _) = _
    rw [if_neg (not_not.2 h.schemaVersion), htext]
    exact hfindings.1

end Verified

/-! ## Bundles that record their own replay -/

section Recorded

variable {host : Host} {core : EvidenceCore} {input : ProofInput} {nfc : Nfc} {sha256 : String → String}

theorem same_self {v : JsValue} (h : HasForm host.nfc v) : same host v v = .ok true := by
  obtain ⟨text, htext⟩ := h.stringified
  rw [same, htext, ok_bind, ok_bind, decide_eq_true rfl]
  rfl

/-- A census that lists the remotes of the input is not contradictory. -/
theorem silent_census (hregistered : core.census.registeredRemotes =
      input.remotes.map fun r => r.remoteBlockchainId ++ "/" ++ r.remoteAddress)
    (hcensus : core.census.completeness = input.census.text ∧ core.census.missingRemotes = [] ∧
      core.census.remotesWithoutRpc = [])
    (hrest : Silent (closingSteps host core input).tail) : Silent (closingSteps host core input) := by
  obtain ⟨hcompleteness, hmissing, hwithout⟩ := hcensus
  have harray : JsValue.array .str core.census.registeredRemotes =
      .array (fun r : RemoteObservation => .str (r.remoteBlockchainId ++ "/" ++ r.remoteAddress)) input.remotes := by
    rw [hregistered, JsValue.array, JsValue.array, List.map_map]
    rfl
  refine silent_cons.2 ⟨requireEvidence_eq_ok.2 ?_, hrest⟩
  rw [← harray, same_self (hasForm_strings _), ok_bind, hcompleteness, hmissing, hwithout, decide_eq_true rfl]
  rfl

/-- The steps of a bundle without a native input, where its identity and its closing are known. -/
theorem silent_evidence_of (hidentity : IdentityEvidence core input) (hclosing : Silent (closingSteps host core input))
    (hrest : Silent (core.chains.flatMap (chainSteps core) ++ quorumSteps core input ++ historySteps core ++
      factSteps host core ++ stateCallSteps host core [] core.stateCalls ++ erc20Steps core input)) :
    Silent (evidenceSteps host core input none) := by
  simp only [silent_append] at hrest
  obtain ⟨⟨⟨⟨⟨hchains, hquorum⟩, hhistory⟩, hfacts⟩, hcalls⟩, herc20⟩ := hrest
  simp only [evidenceSteps, silent_append]
  exact ⟨⟨⟨⟨⟨⟨⟨silent_identity.2 hidentity, hchains⟩, hquorum⟩, hhistory⟩, hfacts⟩, hcalls⟩, herc20⟩, hclosing⟩

theorem hasForm_verdict (v : VerdictRecord) : HasForm nfc (verdictValue v) :=
  hasForm_record ["protocolStatus", "dataStatus", "claimMode", "coverage", "reasonCodes", "criticalRuleIds",
      "unknownRuleIds"] rfl (by decide)
    ⟨hasForm_str _, hasForm_str _, hasForm_str _, hasForm_str _, hasForm_reasons _, hasForm_strings _, hasForm_strings _⟩

theorem matches_verdict (v : VerdictRecord) : matchesShape verdictShape (verdictValue v) = true :=
  matches_record rfl ⟨rfl, rfl, rfl, rfl, matches_array fun _ _ => rfl, matches_strings _, matches_strings _⟩

theorem hasForm_texts {texts : List (String × String)} (h : PlainKeys (texts.map (·.1))) :
    HasForm nfc (textsValue texts) := by
  refine hasForm_record (texts.map (·.1)) ?_ h ?_
  · rw [List.map_map]
    rfl
  · rw [List.forall_iff_forall_mem]
    intro e he
    obtain ⟨t, -, rfl⟩ := List.mem_map.1 he
    exact hasForm_str _

theorem hasForm_rule {r : RuleRecord} (hinputs : PlainKeys (r.inputs.map (·.1)))
    (hintermediates : PlainKeys (r.intermediates.map (·.1))) : HasForm nfc (ruleValue r) :=
  hasForm_record ["ruleId", "ruleVersion", "result", "reasonCodes", "inputs", "intermediates", "unit", "floor", "ceil",
      "dust"] rfl (by decide)
    ⟨hasForm_str _, hasForm_str _, hasForm_str _, hasForm_reasons _, hasForm_texts hinputs, hasForm_texts hintermediates,
      hasForm_str _, hasForm_nullable_str _, hasForm_nullable_str _, hasForm_nullable_str _⟩

theorem matches_rule (r : RuleRecord) : matchesShape ruleShape (ruleValue r) = true :=
  matches_record rfl ⟨rfl, rfl, rfl, matches_array fun _ _ => rfl, rfl, rfl, rfl, matches_nullable _,
    matches_nullable _, matches_nullable _⟩

/-- A document that was parsed from a canonical text has a canonical form. -/
theorem hasForm_of_reparsed {v c : JsValue} (hdense : Dense v) (h : reparsed nfc v = .ok c) : HasForm nfc c := by
  cases htext : stringified nfc v with
  | error e =>
    rw [reparsed, htext] at h
    cases h
  | ok text =>
    obtain ⟨d, hd, -⟩ := canonicalStringify_ok_iff.1 (stringified_eq_ok.1 htext)
    rw [reparsed_eq hdense hd] at h
    cases h
    exact ⟨_, canon_of_canon hd⟩

/-- The documents of a replay of proof input have canonical forms. -/
theorem replayProof_forms {replayed : Replayed} (h : replayProof nfc sha256 input = .ok replayed) :
    HasForm nfc replayed.evaluation ∧ HasForm nfc (ruleValue replayed.rule) := by
  obtain ⟨proof, -, h⟩ := bind_eq_ok.1 h
  obtain ⟨gateA, -, h⟩ := bind_eq_ok.1 h
  obtain ⟨gateB, -, h⟩ := bind_eq_ok.1 h
  obtain ⟨document, hdocument, h⟩ := bind_eq_ok.1 h
  cases h
  exact ⟨hasForm_of_reparsed (dense_evaluationValue _) hdocument,
    hasForm_rule (show PlainKeys ["proof"] by decide) (show PlainKeys ["gateA", "gateB"] by decide)⟩

/-- A core records what the replay of its own input gives. -/
structure Records (host : Host) (core : EvidenceCore) (input : ProofInput) (replayed : Replayed) : Prop where
  encoded : encodeProofInput host.nfc input = .ok core.replayInput
  computed : replayProof host.nfc host.sha256 input = .ok replayed
  evaluation : core.replayEvaluation = replayed.evaluation
  rules : core.rules = .array ruleValue [replayed.rule]
  verdict : core.verdict = verdictValue replayed.verdict

/-- Such a core is verified where everything else that is required is there. -/
theorem Records.replayVerified {replayed : Replayed} (h : Records host core input replayed)
    (hencodable : ProofEncodable host.nfc input) (hevidenced : Evidenced host core input none) :
    ReplayVerified host none core input none := by
  obtain ⟨hevaluation, hrule⟩ := replayProof_forms h.computed
  obtain ⟨c, hc⟩ := (reads_proofInput hencodable).form
  have hinput : core.replayInput = c := by
    have hencoded := h.encoded
    rw [encodeProofInput, reparsed_eq (dense_proofInputValue input) hc] at hencoded
    exact (Except.ok.inj hencoded).symm
  have hdecoded : decodeReplayInput host.nfc core.replayInput = .ok (input, none) := by
    rw [hinput]
    exact decodeReplayInput_proof hencodable hc
  refine ⟨hdecoded, ⟨replayed, ?_, ?_⟩, rfl, hevidenced⟩
  · rw [replayEvaluation, hdecoded]
    exact h.computed
  · rw [replayedStep, expect_eq_ok, h.evaluation, h.rules, h.verdict, same_self hevaluation,
      same_self (hasForm_array fun _ hr => (List.mem_singleton.1 hr) ▸ hrule), same_self (hasForm_verdict _)]
    rfl

end Recorded

/-! ## Bundles that are written from a core -/

section Written

variable {host : Host} {core : EvidenceCore} {external : Option AggregationInput}

/-- A bundle with the hash of its core. -/
def sealed (host : Host) (core : EvidenceCore) (presentation : EvidencePresentation) (text : String) : EvidenceBundle where
  core
  presentation
  contentHash := host.sha256 (evidenceSchemaVersion ++ "\u0000" ++ text)

/-- Where nothing looks like a credential, a core that holds what verification establishes is the core of a bundle that
is verified. -/
theorem exists_verified (hquiet : ∀ v, host.jsonSecrets v = .ok []) (hclean : ∀ s, host.findSecrets s = [])
    (hshaped : core.Shaped) (hformed : core.Formed host.nfc)
    (hversion : core.producer.schemaVersion = evidenceSchemaVersion)
    (hreferences : ∀ m ∈ core.messages, ∀ t ∈ m.timeline, t.factDigest ∈ core.rawFacts.map (·.digest))
    (hmissing : core.completeness.missingEvidence = []) (hcontradictory : core.completeness.contradictoryEvidence = [])
    (hreplay : ∃ input native, ReplayVerified host external core input native) :
    ∃ candidate r, (bundleOf candidate).core = core ∧ verifyBundle host candidate external = .ok r ∧
      r.verified = true := by
  obtain ⟨text, htext⟩ := (hasForm_core hshaped hformed).stringified
  have hbundle := bundleOf_value (sealed host core ⟨"", "", ""⟩ text)
  have hcore : (bundleOf (bundleValue (sealed host core ⟨"", "", ""⟩ text))).core = core := by
    rw [hbundle]
    rfl
  have hverified : Verified host (bundleValue (sealed host core ⟨"", "", ""⟩ text)) external
      (bundleOf (bundleValue (sealed host core ⟨"", "", ""⟩ text))).core := by
    rw [hcore]
    exact ⟨hquiet _, validBundleShape_value hshaped, hversion, (hasForm_bundle hshaped hformed).stringified,
      ⟨text, htext, by rw [hbundle]; rfl, hclean text⟩, hreferences, hmissing, hcontradictory, hreplay⟩
  obtain ⟨r, hr, htrue⟩ := verifyBundle_verified_iff.2 hverified
  exact ⟨_, r, hcore, hr, htrue⟩

/-- The counts of a core are safe integers. -/
structure EvidenceCore.Counted (c : EvidenceCore) : Prop where
  adapterVersion : IsCount c.sourceLock.adapterVersion
  independentGroups : IsCount c.quorum.independentGroups
  requiredGroups : IsCount c.quorum.requiredGroups
  rawFacts : ∀ f ∈ c.rawFacts, IsCount f.logIndex
  messages : ∀ m ∈ c.messages, m.Counted

/-- The core with the documents of a replay. -/
def EvidenceCore.withReplay (c : EvidenceCore) (document : JsValue) (replayed : Replayed) : EvidenceCore :=
  { c with
    replayInput := document
    replayEvaluation := replayed.evaluation
    rules := .array ruleValue [replayed.rule]
    verdict := verdictValue replayed.verdict }

theorem stateCallSteps_withReplay {document : JsValue} {replayed : Replayed} (earlier calls : List StateCallRecord) :
    stateCallSteps host (core.withReplay document replayed) earlier calls = stateCallSteps host core earlier calls := by
  induction calls generalizing earlier with
  | nil => rfl
  | cons call calls ih =>
    rw [stateCallSteps, stateCallSteps, ih]
    rfl

/-- What is required of the records does not look at the documents. -/
theorem Evidenced.withReplay {input : ProofInput} {native : Option NativeInput} (h : Evidenced host core input native)
    (document : JsValue) (replayed : Replayed) : Evidenced host (core.withReplay document replayed) input native := by
  have hsilent : Silent (evidenceSteps host core input native) := silent_evidence.2 h
  apply silent_evidence.1
  unfold evidenceSteps at hsilent ⊢
  rw [stateCallSteps_withReplay]
  exact hsilent

/-- A core whose records hold what is required of them for an input is, with the documents of the replay of the input,
the core of a bundle that is verified. -/
theorem exists_recorded {input : ProofInput} (hquiet : ∀ v, host.jsonSecrets v = .ok [])
    (hclean : ∀ s, host.findSecrets s = []) (hencodable : ProofEncodable host.nfc input)
    (hpending : input.pending.length < 2 ^ 53) (hcounted : core.Counted) (hhistory : ∃ l, core.historicalBlocks = some l)
    (hversion : core.producer.schemaVersion = evidenceSchemaVersion)
    (hreferences : ∀ m ∈ core.messages, ∀ t ∈ m.timeline, t.factDigest ∈ core.rawFacts.map (·.digest))
    (hmissing : core.completeness.missingEvidence = []) (hcontradictory : core.completeness.contradictoryEvidence = [])
    (hevidenced : Evidenced host core input none) :
    ∃ candidate r document replayed, (bundleOf candidate).core = core.withReplay document replayed ∧
      verifyBundle host candidate none = .ok r ∧ r.verified = true ∧
        decodeReplayInput host.nfc (bundleOf candidate).core.replayInput = .ok (input, none) := by
  obtain ⟨document, hdocument⟩ := (reads_proofInput hencodable).form
  obtain ⟨replayed, hreplayed⟩ := replayProof_returns host.nfc host.sha256 ⟨document, hdocument⟩ hpending
  obtain ⟨hevaluation, hrule⟩ := replayProof_forms hreplayed
  have hencoded : encodeProofInput host.nfc input = .ok document := reparsed_eq (dense_proofInputValue input) hdocument
  have hrules : HasForm host.nfc (.array ruleValue [replayed.rule]) :=
    hasForm_array fun _ hr => (List.mem_singleton.1 hr) ▸ hrule
  have hdefined : ∀ v : JsValue, HasForm host.nfc v → matchesShape .any v = true := by
    rintro v ⟨c, hc⟩
    cases v <;> first | rfl | cases hc
  have hreplay : ReplayVerified host none (core.withReplay document replayed) input none := by
    have hrecords : Records host (core.withReplay document replayed) input replayed := ⟨hencoded, hreplayed, rfl, rfl, rfl⟩
    exact hrecords.replayVerified hencodable (hevidenced.withReplay document replayed)
  have hshaped : (core.withReplay document replayed).Shaped :=
    ⟨hcounted.adapterVersion, hcounted.independentGroups, hcounted.requiredGroups, hcounted.rawFacts, hcounted.messages,
      matches_array fun r _ => matches_rule r, matches_verdict _, hdefined document ⟨_, canon_of_canon hdocument⟩,
      hdefined _ hevaluation⟩
  have hformed : (core.withReplay document replayed).Formed host.nfc :=
    ⟨hhistory, hrules, hasForm_verdict _, ⟨_, canon_of_canon hdocument⟩, hevaluation⟩
  obtain ⟨candidate, r, hcore, hr, hverified⟩ := exists_verified hquiet hclean hshaped hformed hversion hreferences
    hmissing hcontradictory ⟨input, none, hreplay⟩
  exact ⟨candidate, r, document, replayed, hcore, hr, hverified, hcore ▸ hreplay.decoded⟩

end Written

end IcttSentinel.Evidence
