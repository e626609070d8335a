/-
What the state calls, pins and votes of a verified bundle are tied to: a cited read to a recognised contract at a pinned
block, the cited blocks of a chain to one another where the chain list says so, and a pinned chain to the votes that
are counted for it.
-/
import IcttSentinel.Evidence.Verified

namespace IcttSentinel.Evidence

open IcttSentinel.Domain IcttSentinel.Lib IcttSentinel.InvariantCore

/-- A block of a chain, as a bundle writes it. -/
structure PinText where
  blockchainId : String
  blockNumber : String
  blockHash : String
  deriving DecidableEq

/-! ## Sample bundles -/

section Samples

/-- A host on which nothing looks like a credential, and the two times of the samples. -/
def sampleHost (sha256 : String → String) : Host where
  nfc := sampleNfc
  sha256
  jsonSecrets := fun _ => .ok []
  findSecrets := fun _ => []
  dateParse := fun s =>
    if s = "1970-01-01T00:00:00.000Z" then some 0 else if s = "1970-01-01T00:01:00.000Z" then some 60000 else none

def homeChainId : String := "0xaa"

def remoteChainId : String := "0xbb"

def homeBlockHash : String := "0x1111111111111111111111111111111111111111111111111111111111111111"

def laterBlockHash : String := "0x2222222222222222222222222222222222222222222222222222222222222222"

def remoteBlockHash : String := "0x3333333333333333333333333333333333333333333333333333333333333333"

def tokenHomeAddress : String := "0x4444444444444444444444444444444444444444"

def tokenRemoteAddress : String := "0x5555555555555555555555555555555555555555"

def escrowTokenAddress : String := "0x6666666666666666666666666666666666666666"

/-- One remote whose two numbers agree, backed by the escrow. -/
def boundInput : ProofInput where
  deploymentId := "deployment"
  family := "canonical-erc20-single-hop"
  provenance := ⟨some "manifest", some "policy", some "commit", some "adapter", some 1, "rule"⟩
  census := .completeFromDeploymentBlock
  untrackedRemotes := []
  cut := .closed
  freshness := ⟨true, 2, 2⟩
  remotes :=
    [{ remoteBlockchainId := remoteChainId
       remoteAddress := tokenRemoteAddress
       transferredBalance := some 100
       remoteTotalSupply := some 100
       scale := ⟨1, false, 18, 18, true⟩
       homePin := some ⟨homeChainId, 7, homeBlockHash⟩
       remotePin := some ⟨remoteChainId, 9, remoteBlockHash⟩
       fingerprintRecognised := true
       tokenBehaviourCanonical := true
       routeSingleHop := true
       initialReserveImbalance := 0 }]
  pending := []
  effects := []
  homeEscrow := ⟨some 100, some ⟨homeChainId, 7, homeBlockHash⟩, 0⟩
  pendingAgeLimitSeconds := 3600

/-- A read, before it is recorded with its digests. -/
structure SampleRead where
  path : String
  block : PinText
  target : String
  calldata : String
  result : String

def SampleRead.call (sha256 : String → String) (r : SampleRead) : StateCallRecord where
  blockchainId := r.block.blockchainId
  target := r.target
  calldataDigest := domainSeparatedSha256 sha256 "ictt-sentinel/calldata/v1" r.calldata
  resultDigest := stateCallDigest (sampleHost sha256) r.target r.calldata r.result
  observationPath := r.path
  result := r.result
  calldata := r.calldata
  provenance := "eth_call"
  blockNumber := r.block.blockNumber
  blockHash := r.block.blockHash

def sampleFingerprint (role blockchainId address : String) : ContractFingerprint :=
  ⟨role, blockchainId, homeBlockHash, address, none, none, none, none, true⟩

def sampleChain (block : PinText) : PinnedChain :=
  ⟨block.blockchainId, "1", block.blockNumber, block.blockHash, "1000", "head", "settled-quorum"⟩

def sampleVote (endpointId operator : String) (agreed : Bool) (block : PinText) : WitnessVote :=
  ⟨endpointId, operator, operator, block.blockchainId, block.blockHash, agreed⟩

def homeBlock : PinText := ⟨homeChainId, "7", homeBlockHash⟩

def laterBlock : PinText := ⟨homeChainId, "8", laterBlockHash⟩

def remoteBlock : PinText := ⟨remoteChainId, "9", remoteBlockHash⟩

/-- What the samples are verified with, beside the documents of their replay. -/
structure SampleParts where
  blocks : List PinText
  votes : List WitnessVote
  reads : List SampleRead

def sampleCore (sha256 : String → String) (parts : SampleParts) (document evaluation rules verdict : JsValue) :
    EvidenceCore where
  producer := ⟨"ictt-sentinel", evidenceSchemaVersion, "build", "7777777777777777777777777777777777777777777777777777777777777777"⟩
  sourceLock := ⟨"commit", "7777777777777777777777777777777777777777777777777777777777777777", "adapter", 1, "epoch"⟩
  baseline := ⟨"manifest", "policy"⟩
  deploymentId := "deployment"
  fingerprints :=
    [sampleFingerprint "token-home" homeChainId tokenHomeAddress,
      sampleFingerprint "erc20-token-remote" remoteChainId tokenRemoteAddress]
  chains := parts.blocks.map sampleChain
  quorum := ⟨parts.votes, 2, 2, "note"⟩
  rawFacts := [⟨"1", homeBlockHash, "0x7a", 0, factDigest (sampleHost sha256) 1 homeBlockHash "0x7a" 0⟩]
  historicalBlocks := some []
  stateCalls := parts.reads.map (·.call sha256)
  census := ⟨"complete-from-deployment-block", [remoteChainId ++ "/" ++ tokenRemoteAddress], [], []⟩
  messages :=
    [{ sourceBlockchainId := homeChainId
       destinationBlockchainId := remoteChainId
       teleporterMessengerAddress := tokenHomeAddress
       registryProtocolVersion := 1
       messageId := "message"
       state := "DELIVERED"
       timeline := [⟨"source-accounted", factDigest (sampleHost sha256) 1 homeBlockHash "0x7a" 0⟩]
       sendAttempts := 1
       executionAttempts := 0
       envelopeIds := ["message"]
       economicEffectCount := 0 }]
  rules
  verdict
  completeness := ⟨"1970-01-01T00:00:00.000Z", "1970-01-01T00:01:00.000Z", true, [], []⟩
  assurance := ⟨"mode", [], [], []⟩
  previousBundleHash := none
  replayInput := document
  replayEvaluation := evaluation

/-- Two operators vote for each block. -/
def agreeingVotes (blocks : List PinText) : List WitnessVote :=
  blocks.flatMap fun b => [sampleVote "ep-1" "operator-1" true b, sampleVote "ep-2" "operator-2" true b]

/-- The reads of the one remote, of what is given, and of the escrow. -/
def sampleReads (balance supply : PinText × String × String) : List SampleRead :=
  [⟨"homeEscrow.tokenAddress", homeBlock, tokenHomeAddress, "0x10fe9ae8", escrowTokenAddress⟩,
    ⟨"homeEscrow.escrowBalance", homeBlock, escrowTokenAddress, "0x70a08231" ++ paddedAddress tokenHomeAddress, "100"⟩,
    ⟨"remotes.0.transferredBalance", balance.1, balance.2.1, balance.2.2, "100"⟩,
    ⟨"remotes.0.remoteTotalSupply", supply.1, supply.2.1, supply.2.2, "100"⟩]

def balanceRead (block : PinText) : PinText × String × String := (block, tokenHomeAddress, "0x1f2d4c4b")

def supplyRead : PinText × String × String := (remoteBlock, tokenRemoteAddress, "0x18160ddd")

def honestParts : SampleParts where
  blocks := [homeBlock, remoteBlock]
  votes := agreeingVotes [homeBlock, remoteBlock]
  reads := sampleReads (balanceRead homeBlock) supplyRead

/-- The home chain is pinned twice, the supply of the remote is read from the TokenHome, both numbers are read at the
later pin, and a third operator votes for another block of the remote chain. -/
def looseParts : SampleParts where
  blocks := [homeBlock, laterBlock, remoteBlock]
  votes := agreeingVotes [homeBlock, laterBlock, remoteBlock] ++
    [sampleVote "ep-3" "operator-3" false ⟨remoteChainId, "9", laterBlockHash⟩]
  reads := sampleReads (balanceRead laterBlock) (laterBlock, tokenHomeAddress, "0x18160ddd")

/-- The parts pass with a hash that is always empty, and documents that are not looked at. -/
def SampleParts.Pass (parts : SampleParts) : Prop :=
  Silent (evidenceSteps (sampleHost fun _ => "") (sampleCore (fun _ => "") parts .null .null .null .null) boundInput none)

section Transfer

variable {sha256 sha256' : String → String} {parts : SampleParts} {input evaluation rules verdict : JsValue}
  {input' evaluation' rules' verdict' : JsValue}

theorem sample_observation (path : String) :
    observation (sampleCore sha256 parts input evaluation rules verdict) path =
      observation (sampleCore sha256' parts input' evaluation' rules' verdict') path := by
  simp only [observation, sampleCore, ← List.map_reverse, List.find?_map, Option.map_map]
  rfl

theorem sample_observed (path : String) (value : Option Int) :
    observed (sampleCore sha256 parts input evaluation rules verdict) path value =
      observed (sampleCore sha256' parts input' evaluation' rules' verdict') path value := by
  simp only [observed]
  rw [sample_observation]

theorem sample_escrowBound (read : SampleRead) :
    escrowBound (sampleCore sha256 parts input evaluation rules verdict) (read.call sha256) =
      escrowBound (sampleCore sha256' parts input' evaluation' rules' verdict') (read.call sha256') := by
  simp only [escrowBound, sampleCore, List.find?_map, Option.any_map]
  rfl

/-- The requirements do not depend on the hash: its digests are checked against itself. -/
theorem sample_evidenced (h : Evidenced (sampleHost sha256) (sampleCore sha256 parts input evaluation rules verdict)
    boundInput none) :
    Evidenced (sampleHost sha256') (sampleCore sha256' parts input' evaluation' rules' verdict') boundInput none := by
  have hi := h.identity
  have hreads : 0 < ((sampleCore sha256' parts input' evaluation' rules' verdict').stateCalls).length := by
    have hcalls := hi.stateCalls
    simpa only [sampleCore, List.length_map] using hcalls
  have hpaths : (parts.reads.map fun r => (r.call sha256).observationPath).Nodup := by
    have hnodup := h.observationPaths
    rwa [sampleCore, List.map_map] at hnodup
  refine ⟨⟨hi.producer, hi.artifactChecksum, hi.sourceLockHash, hi.deploymentId, hi.manifestHash, hi.policyHash,
    hi.commitSha, hi.adapterId, hi.adapterVersion, hi.chains, hi.fingerprints, Nat.zero_lt_one, hreads, Nat.zero_lt_one,
    hi.requiredGroups, hi.threshold, hi.contracts, hi.remotes⟩, fun c hc => ?_, ?_, h.heights,
    fun b hb => absurd hb List.not_mem_nil, ?_, ?_, ?_, ?_, fun n hn => absurd hn (Option.not_mem_none n), ?_⟩
  · obtain ⟨hacceptance, hbasis, hstands, hnumber, hhash, hquorum⟩ := h.chains c hc
    exact ⟨hacceptance, hbasis, hstands, hnumber, hhash, hquorum⟩
  · exact ⟨h.quorum.replayed, h.quorum.recorded, h.quorum.votes, h.quorum.pins⟩
  · refine ⟨fun f hf => ?_, fun f hf => ?_, List.nodup_singleton _⟩
    · obtain rfl := List.mem_singleton.1 hf
      exact ⟨1, show bigInt "1" = .ok 1 by decide +kernel, rfl⟩
    · obtain rfl := List.mem_singleton.1 hf
      exact h.facts.blocks ⟨"1", homeBlockHash, "0x7a", 0, factDigest (sampleHost sha256) 1 homeBlockHash "0x7a" 0⟩
        List.mem_cons_self
  · rw [sampleCore, List.map_map]
    exact hpaths
  · intro call hcall
    obtain ⟨read, hread, rfl⟩ := List.mem_map.1 hcall
    obtain ⟨htarget, hblock, -, -, -⟩ := h.calls (read.call sha256) (List.mem_map_of_mem hread)
    have hescrow : escrowBound (sampleCore sha256' parts input' evaluation' rules' verdict') (read.call sha256') =
        escrowBound (sampleCore sha256 parts input evaluation rules verdict) (read.call sha256) := sample_escrowBound read
    exact ⟨hescrow ▸ htarget, hblock, rfl, rfl, show "eth_call" ≠ "" by decide⟩
  · intro _
    obtain ⟨hbalance, hsupply, hescrow⟩ := h.erc20 rfl
    refine ⟨fun r i hr => ?_, fun r i hr => ?_, ?_⟩
    · exact (sample_observed _ _).trans (hbalance r i hr)
    · exact (sample_observed _ _).trans (hsupply r i hr)
    · exact (sample_observed _ _).trans hescrow
  · obtain ⟨hregistered, hcompleteness, hmissing, hwithout, hrecorded, hreplayed, hexpiry, -, -⟩ := h.closing
    exact ⟨hregistered, hcompleteness, hmissing, hwithout, hrecorded, hreplayed, hexpiry,
      fun m hm => (List.mem_singleton.1 hm) ▸ ⟨Nat.zero_lt_one, Nat.zero_lt_one⟩, fun e he => absurd he List.not_mem_nil⟩

end Transfer

theorem boundInput_encodable : ProofEncodable sampleNfc boundInput where
  deploymentId := rfl
  family := rfl
  provenance := ⟨fun _ _ => rfl, fun _ _ => rfl, fun _ _ => rfl, fun _ _ => rfl, fun n hn => by
    cases hn
    exact isCount_one, rfl⟩
  untrackedRemotes := fun _ _ => rfl
  independentWitnessGroups := ⟨by decide, by decide⟩
  requiredWitnessGroups := ⟨by decide, by decide⟩
  remotes := fun r hr => by
    obtain rfl := List.mem_singleton.1 hr
    have hamount : ∀ n ∈ some (100 : Int), IsUint256 n := fun n hn => by
      cases hn
      exact ⟨by decide, by decide⟩
    have hpin : ∀ p ∈ some (⟨homeChainId, 7, homeBlockHash⟩ : PinnedBlock), PinEncodable sampleNfc p := fun p hp => by
      cases hp
      exact ⟨rfl, ⟨by decide, by decide⟩, rfl⟩
    have hpin' : ∀ p ∈ some (⟨remoteChainId, 9, remoteBlockHash⟩ : PinnedBlock), PinEncodable sampleNfc p :=
      fun p hp => by
        cases hp
        exact ⟨rfl, ⟨by decide, by decide⟩, rfl⟩
    exact ⟨rfl, rfl, hamount, hamount, ⟨⟨by decide, by decide⟩, ⟨by decide, by decide⟩, ⟨by decide, by decide⟩⟩, hpin,
      hpin', ⟨by decide, by decide⟩⟩
  pending := fun p hp => by cases hp
  effects := fun e he => by cases he
  escrowBalance := fun n hn => by
    cases hn
    exact ⟨by decide, by decide⟩
  homePin := fun p hp => by
    cases hp
    exact ⟨rfl, ⟨by decide, by decide⟩, rfl⟩
  acceptedCollateralHomeUnits := ⟨by decide, by decide⟩
  pendingAgeLimitSeconds := ⟨by decide, by decide⟩

/-- Parts that pass are the parts of a bundle that is verified, whatever the hash is. -/
theorem exists_sample {parts : SampleParts} (h : parts.Pass) (sha256 : String → String) :
    ∃ candidate r document evaluation rules verdict,
      (bundleOf candidate).core = sampleCore sha256 parts document evaluation rules verdict ∧
        verifyBundle (sampleHost sha256) candidate none = .ok r ∧ r.verified = true ∧
          decodeReplayInput (sampleHost sha256).nfc (bundleOf candidate).core.replayInput = .ok (boundInput, none) := by
  have hevidenced : Evidenced (sampleHost sha256) (sampleCore sha256 parts .null .null .null .null) boundInput none :=
    sample_evidenced (silent_evidence.1 h)
  have hcounted : (sampleCore sha256 parts .null .null .null .null).Counted := by
    have htwo : IsCount 2 := ⟨by decide, by decide⟩
    refine ⟨isCount_one, htwo, htwo, fun f hf => ?_, fun m hm => ?_⟩
    · obtain rfl := List.mem_singleton.1 hf
      exact isCount_zero
    · obtain rfl := List.mem_singleton.1 hm
      exact ⟨isCount_one, isCount_one, isCount_zero, isCount_zero⟩
  have hreferences : ∀ m ∈ (sampleCore sha256 parts .null .null .null .null).messages, ∀ t ∈ m.timeline,
      t.factDigest ∈ (sampleCore sha256 parts .null .null .null .null).rawFacts.map (·.digest) := by
    intro m hm t ht
    obtain rfl := List.mem_singleton.1 hm
    obtain rfl := List.mem_singleton.1 ht
    exact List.mem_cons_self
  obtain ⟨candidate, r, document, replayed, hcore, hr, hverified, hinput⟩ := exists_recorded (fun _ => rfl)
    (fun _ => rfl) boundInput_encodable (by decide) hcounted ⟨[], rfl⟩ rfl hreferences rfl rfl hevidenced
  exact ⟨candidate, r, document, _, _, _, hcore, hr, hverified, hinput⟩

/-- The samples are of one producer and one remote. -/
theorem sample_identity {parts : SampleParts} {input : ProofInput} (hblocks : 2 ≤ parts.blocks.length)
    (hreads : 0 < parts.reads.length)
    (hchains : ∀ id ∈ [homeChainId, remoteChainId], ∃ b ∈ parts.blocks, b.blockchainId = id)
    (hdeployment : input.deploymentId = "deployment") (hprovenance : input.provenance = boundInput.provenance)
    (hthreshold : input.freshness.requiredWitnessGroups = 2)
    (hremotes : ∀ r ∈ input.remotes, r.remoteBlockchainId = remoteChainId ∧ r.remoteAddress = tokenRemoteAddress ∧
      r.fingerprintRecognised = true) :
    IdentityEvidence (sampleCore (fun _ => "") parts .null .null .null .null) input := by
  have hchecksum : isHex 64 "7777777777777777777777777777777777777777777777777777777777777777" = true := by
    decide +kernel
  have hcode : isHash homeBlockHash = true := by decide +kernel
  have hpinned : ∀ id ∈ [homeChainId, remoteChainId], ∃ c ∈ parts.blocks.map sampleChain, c.blockchainId = id := by
    intro id hid
    obtain ⟨b, hb, hsame⟩ := hchains id hid
    exact ⟨_, List.mem_map_of_mem hb, hsame⟩
  exact {
    producer := rfl
    artifactChecksum := hchecksum
    sourceLockHash := hchecksum
    deploymentId := hdeployment.symm
    manifestHash := by rw [hprovenance]; rfl
    policyHash := by rw [hprovenance]; rfl
    commitSha := by rw [hprovenance]; rfl
    adapterId := by rw [hprovenance]; rfl
    adapterVersion := by rw [hprovenance]; rfl
    chains := by rwa [sampleCore, List.length_map]
    fingerprints := show 0 < 2 by decide
    rawFacts := Nat.zero_lt_one
    stateCalls := by rwa [sampleCore, List.length_map]
    messages := Nat.zero_lt_one
    requiredGroups := Int.le_refl 2
    threshold := hthreshold.symm
    contracts := by
      intro f hf
      rcases List.mem_pair.1 hf with rfl | rfl
      · exact ⟨by decide +kernel, hcode, hpinned _ (by decide)⟩
      · exact ⟨by decide +kernel, hcode, hpinned _ (by decide)⟩
    remotes := by
      intro r hr
      obtain ⟨hid, haddress, hrecognised⟩ := hremotes r hr
      exact ⟨_, List.mem_cons_of_mem _ List.mem_cons_self, hid.symm, haddress.symm, hrecognised.symm⟩ }

/-- The census of the samples lists the one remote. -/
theorem sample_closing (parts : SampleParts) : Silent (closingSteps (sampleHost fun _ => "")
    (sampleCore (fun _ => "") parts .null .null .null .null) boundInput) := by
  have hrest : Silent (closingSteps (sampleHost fun _ => "")
      (sampleCore (fun _ => "") ⟨[], [], []⟩ .null .null .null .null) boundInput).tail := by decide +kernel
  exact silent_census rfl ⟨rfl, rfl, rfl⟩ hrest

theorem honestParts_pass : honestParts.Pass :=
  silent_evidence_of
    (sample_identity (by decide) (by decide) (by decide +kernel) rfl rfl rfl (by decide +kernel)) (sample_closing _)
    (by decide +kernel)

theorem looseParts_pass : looseParts.Pass :=
  silent_evidence_of
    (sample_identity (by decide) (by decide) (by decide +kernel) rfl rfl rfl (by decide +kernel)) (sample_closing _)
    (by decide +kernel)

end Samples

section Verified

variable {host : Host} {candidate : JsValue} {external : Option AggregationInput} {r : VerifyResult}
  {input : ProofInput} {native : Option NativeInput}

/-- What is decoded of a verified bundle is what its evidence is about. -/
theorem evidenced_of_verified (h : verifyBundle host candidate external = .ok r) (hverified : r.verified = true)
    (hinput : decodeReplayInput host.nfc (bundleOf candidate).core.replayInput = .ok (input, native)) :
    Evidenced host (bundleOf candidate).core input native := by
  obtain ⟨input', native', hreplay⟩ := (verifyBundle_verified_iff.1 ⟨r, h, hverified⟩).replay
  have hsame := hreplay.decoded
  rw [hinput] at hsame
  cases hsame
  exact hreplay.evidenced

/-! ## Reads -/

/-- Exactly one call is cited for a path: it gave the value, from a recognised contract at a pinned block, and its digests
are its own. -/
def ReadAt (host : Host) (core : EvidenceCore) (path : String) (value : Option Int) : Prop :=
  ∃ call ∈ core.stateCalls, call.observationPath = path ∧
    (∀ other ∈ core.stateCalls, other.observationPath = path → other = call) ∧
    (∃ n, value = some n ∧ call.result = toString n) ∧
    recognised core call.blockchainId call.target = true ∧
    pinned core call.blockchainId call.blockNumber call.blockHash = true ∧
    call.calldataDigest = domainSeparatedSha256 host.sha256 "ictt-sentinel/calldata/v1" call.calldata ∧
    call.resultDigest = stateCallDigest host call.target call.calldata call.result

theorem readAt_of_observed {core : EvidenceCore} (hpaths : (core.stateCalls.map (·.observationPath)).Nodup)
    (hcalls : ∀ c ∈ core.stateCalls, CallEvidence host core c) {path : String} {value : Option Int}
    (hpath : path ≠ "homeEscrow.escrowBalance") (h : observed core path value = true) :
    ReadAt host core path value := by
  cases value with
  | none => cases h
  | some n =>
    have hresult : observation core path = some (toString n) := by simpa [observed] using h
    obtain ⟨call, hfind, hcall⟩ := Option.map_eq_some_iff.1 hresult
    have hmem : call ∈ core.stateCalls := List.mem_reverse.1 (List.mem_of_find?_eq_some hfind)
    have hcited : call.observationPath = path := by simpa using List.find?_some hfind
    have hunique : ∀ other ∈ core.stateCalls, other.observationPath = path → other = call :=
      fun other hother hsame => List.inj_on_of_nodup_map hpaths hother hmem (hsame.trans hcited.symm)
    have hevidence := hcalls call hmem
    have hrecognised : recognised core call.blockchainId call.target = true := by
      refine hevidence.target.resolve_right fun hescrow => hpath ?_
      rw [escrowBound, Bool.and_eq_true, decide_eq_true_eq] at hescrow
      exact hcited.symm.trans hescrow.1
    exact ⟨call, hmem, hcited, hunique, ⟨n, rfl, hcall⟩, hrecognised, hevidence.block, hevidence.calldataDigest,
      hevidence.resultDigest⟩

theorem remotePath_ne_escrow (i : Nat) (field : String) : remotePath i field ≠ "homeEscrow.escrowBalance" := by
  intro h
  have hlist := congrArg String.toList h
  rw [remotePath, String.append_assoc, String.append_assoc, String.toList_append] at hlist
  cases hlist

/-- Both numbers of a remote are read from recognised contracts at pinned blocks, its own contract has a fingerprint, and
its pins are in the chain list. Which of the recognised contracts is read, and with which calldata, is not compared
with the remote. -/
theorem verified_remote_reads (h : verifyBundle host candidate external = .ok r) (hverified : r.verified = true)
    (hinput : decodeReplayInput host.nfc (bundleOf candidate).core.replayInput = .ok (input, none)) {i : Nat}
    {remote : RemoteObservation} (hremote : input.remotes[i]? = some remote) :
    ReadAt host (bundleOf candidate).core (remotePath i "transferredBalance") remote.transferredBalance ∧
      ReadAt host (bundleOf candidate).core (remotePath i "remoteTotalSupply") remote.remoteTotalSupply ∧
      (∃ f ∈ (bundleOf candidate).core.fingerprints, f.blockchainId = remote.remoteBlockchainId ∧
        f.address = remote.remoteAddress ∧ f.recognised = remote.fingerprintRecognised) ∧
      ∀ o ∈ [remote.homePin, remote.remotePin], ∃ p, o = some p ∧
        pinned (bundleOf candidate).core p.blockchainId (toString p.blockNumber) p.blockHash = true := by
  have hevidenced := evidenced_of_verified h hverified hinput
  have hread := hevidenced.erc20 rfl
  have hmem : (remote, i) ∈ input.remotes.zipIdx := List.mk_mem_zipIdx_iff_getElem?.2 hremote
  have hremotes : remote ∈ input.remotes := List.mem_of_getElem? hremote
  refine ⟨?_, ?_, hevidenced.identity.remotes remote hremotes, fun o ho => hevidenced.quorum.pins o ?_⟩
  · exact readAt_of_observed hevidenced.observationPaths hevidenced.calls (remotePath_ne_escrow _ _)
      (hread.transferredBalance remote i hmem)
  · exact readAt_of_observed hevidenced.observationPaths hevidenced.calls (remotePath_ne_escrow _ _)
      (hread.remoteTotalSupply remote i hmem)
  · exact List.mem_append_left _ (List.mem_flatMap.2 ⟨remote, hremotes, ho⟩)

/-- The two numbers of the remote of an honest bundle. -/
theorem verified_remote_reads_honest : ∃ candidate,
    ReadAt (sampleHost id) (bundleOf candidate).core (remotePath 0 "transferredBalance") (some 100) ∧
      ReadAt (sampleHost id) (bundleOf candidate).core (remotePath 0 "remoteTotalSupply") (some 100) := by
  obtain ⟨candidate, r, _, _, _, _, -, hr, hverified, hinput⟩ := exists_sample honestParts_pass id
  obtain ⟨hbalance, hsupply, -⟩ := verified_remote_reads hr hverified hinput (i := 0) rfl
  exact ⟨candidate, hbalance, hsupply⟩

/-- The calls cited for a remote read the TokenHome and the remote itself: the target, the chain, the block and the
calldata are the ones the collector writes for that remote. -/
structure RemoteBound (selector : String → String) (core : EvidenceCore) (tokenHome : String) (i : Nat)
    (remote : RemoteObservation) : Prop where
  transferredBalance : ∀ call ∈ core.stateCalls, call.observationPath = remotePath i "transferredBalance" →
    call.target = tokenHome ∧
      (∃ p ∈ remote.homePin, call.blockchainId = p.blockchainId ∧ call.blockNumber = toString p.blockNumber ∧
        call.blockHash = p.blockHash) ∧
      call.calldata = selector "getTransferredBalance(bytes32,address)" ++
        String.ofList (remote.remoteBlockchainId.toList.drop 2) ++ paddedAddress remote.remoteAddress
  remoteTotalSupply : ∀ call ∈ core.stateCalls, call.observationPath = remotePath i "remoteTotalSupply" →
    call.target = remote.remoteAddress ∧ call.blockchainId = remote.remoteBlockchainId ∧
      ∃ p ∈ remote.remotePin, call.blockNumber = toString p.blockNumber ∧ call.blockHash = p.blockHash

/-- Every number of every remote is read from the contract it is about. -/
def RemotesBound (selector : String → String) (core : EvidenceCore) (input : ProofInput) : Prop :=
  ∃ tokenHome, ∀ i remote, input.remotes[i]? = some remote → RemoteBound selector core tokenHome i remote

/-- The supply of a remote is accepted from a call to the TokenHome. -/
theorem other_contract_is_read : ¬ ∃ (sha256 selector : String → String), ∀ candidate external r input,
    verifyBundle (sampleHost sha256) candidate external = .ok r → r.verified = true →
      decodeReplayInput (sampleHost sha256).nfc (bundleOf candidate).core.replayInput = .ok (input, none) →
        RemotesBound selector (bundleOf candidate).core input := by
  rintro ⟨sha256, selector, h⟩
  obtain ⟨candidate, r, _, _, _, _, hcore, hr, hverified, hinput⟩ := exists_sample looseParts_pass sha256
  obtain ⟨tokenHome, hbound⟩ := h candidate none r boundInput hr hverified hinput
  have hsupply := (hbound 0 _ rfl).remoteTotalSupply
  rw [hcore] at hsupply
  have htarget := (hsupply (SampleRead.call sha256 ⟨"remotes.0.remoteTotalSupply", laterBlock, tokenHomeAddress,
    "0x18160ddd", "100"⟩) (by simp [sampleCore, looseParts, sampleReads])
    (show "remotes.0.remoteTotalSupply" = remotePath 0 "remoteTotalSupply" by decide +kernel)).1
  exact absurd htarget (show tokenHomeAddress ≠ tokenRemoteAddress by decide)

/-! ## One cut per chain -/

def PinnedChain.pinText (c : PinnedChain) : PinText := ⟨c.blockchainId, c.blockNumber, c.blockHash⟩

/-- The blocks that state calls and replay pins name. -/
def citedPins (core : EvidenceCore) (input : ProofInput) : List PinText :=
  (core.stateCalls.map fun c => ⟨c.blockchainId, c.blockNumber, c.blockHash⟩) ++
    (replayPins input).filterMap fun o => o.map fun p => ⟨p.blockchainId, toString p.blockNumber, p.blockHash⟩

/-- The chain list names two blockchains, and what is cited of a blockchain is one block. -/
structure OneCut (core : EvidenceCore) (input : ProofInput) : Prop where
  chains : ∃ c ∈ core.chains, ∃ d ∈ core.chains, c.blockchainId ≠ d.blockchainId
  blocks : ∀ p ∈ citedPins core input, ∀ q ∈ citedPins core input, p.blockchainId = q.blockchainId → p = q

theorem exists_chain_of_pinned {core : EvidenceCore} {blockchainId blockNumber blockHash : String}
    (h : pinned core blockchainId blockNumber blockHash = true) :
    ∃ c ∈ core.chains, c.pinText = ⟨blockchainId, blockNumber, blockHash⟩ := by
  simp only [pinned, List.any_eq_true, Bool.and_eq_true, decide_eq_true_eq] at h
  obtain ⟨c, hc, ⟨rfl, rfl⟩, rfl⟩ := h
  exact ⟨c, hc, rfl⟩

/-- Every block a verified bundle cites is one of its chain list. -/
theorem exists_chain_of_cited {core : EvidenceCore} (h : Evidenced host core input native) {p : PinText}
    (hp : p ∈ citedPins core input) : ∃ c ∈ core.chains, c.pinText = p := by
  rcases List.mem_append.1 hp with hp | hp
  · obtain ⟨call, hcall, rfl⟩ := List.mem_map.1 hp
    exact exists_chain_of_pinned (h.calls call hcall).block
  · obtain ⟨o, ho, hpin⟩ := List.mem_filterMap.1 hp
    obtain ⟨b, rfl, hpinned⟩ := h.quorum.pins o ho
    cases hpin
    exact exists_chain_of_pinned hpinned

/-- A list of two entries or more that are told apart by their ids names two blockchains. -/
theorem exists_two_chains {chains : List PinnedChain} (hdistinct : (chains.map (·.blockchainId)).Nodup)
    (hlength : 2 ≤ chains.length) : ∃ c ∈ chains, ∃ d ∈ chains, c.blockchainId ≠ d.blockchainId := by
  obtain _ | ⟨c, _ | ⟨d, rest⟩⟩ := chains
  · simp at hlength
  · simp at hlength
  refine ⟨c, List.mem_cons_self, d, List.mem_cons_of_mem _ List.mem_cons_self, fun heq => ?_⟩
  rw [List.map_cons, List.nodup_cons] at hdistinct
  exact hdistinct.1 (heq ▸ List.mem_cons_self)

/-- A verified bundle whose chain list repeats no blockchain has one cut per chain: the list is long enough to name two,
and every call and pin is looked up in it. -/
theorem verified_oneCut_of_distinct (h : verifyBundle host candidate external = .ok r) (hverified : r.verified = true)
    (hinput : decodeReplayInput host.nfc (bundleOf candidate).core.replayInput = .ok (input, native))
    (hdistinct : ((bundleOf candidate).core.chains.map (·.blockchainId)).Nodup) :
    OneCut (bundleOf candidate).core input := by
  have hevidenced := evidenced_of_verified h hverified hinput
  refine ⟨exists_two_chains hdistinct hevidenced.identity.chains, fun p hp q hq hchain => ?_⟩
  obtain ⟨c, hc, rfl⟩ := exists_chain_of_cited hevidenced hp
  obtain ⟨d, hd, rfl⟩ := exists_chain_of_cited hevidenced hq
  rw [List.inj_on_of_nodup_map hdistinct hc hd hchain]

/-- The honest bundle lists two chains, each once. -/
theorem verified_oneCut_of_distinct_honest : ∃ candidate, OneCut (bundleOf candidate).core boundInput := by
  obtain ⟨candidate, r, document, evaluation, rules, verdict, hcore, hr, hverified, hinput⟩ :=
    exists_sample honestParts_pass id
  have hdistinct : ((sampleCore id honestParts document evaluation rules verdict).chains.map (·.blockchainId)).Nodup :=
    show ([homeChainId, remoteChainId] : List String).Nodup by decide
  exact ⟨candidate, verified_oneCut_of_distinct hr hverified hinput (hcore ▸ hdistinct)⟩

/-- A chain pinned twice is read at both blocks. -/
theorem chain_is_cut_twice : ¬ ∃ sha256 : String → String, ∀ candidate external r input native,
    verifyBundle (sampleHost sha256) candidate external = .ok r → r.verified = true →
      decodeReplayInput (sampleHost sha256).nfc (bundleOf candidate).core.replayInput = .ok (input, native) →
        OneCut (bundleOf candidate).core input := by
  rintro ⟨sha256, h⟩
  obtain ⟨candidate, r, _, _, _, _, hcore, hr, hverified, hinput⟩ := exists_sample looseParts_pass sha256
  have hblocks := (h candidate none r boundInput none hr hverified hinput).blocks
  rw [hcore] at hblocks
  have hsame := hblocks homeBlock (by simp [citedPins, sampleCore, looseParts, sampleReads, SampleRead.call, homeBlock])
    laterBlock (by simp [citedPins, sampleCore, looseParts, sampleReads, SampleRead.call, balanceRead, laterBlock]) rfl
  exact absurd hsame (by decide)

/-! ## Votes -/

/-- No vote listed for a pinned chain names another block or is marked as not agreeing. -/
def NoDissent (core : EvidenceCore) : Prop := ∀ c ∈ core.chains, ∀ v ∈ core.quorum.votes,
  v.blockchainId = c.blockchainId → v.agreed = true ∧ v.agreedBlockHash = c.blockHash

/-- The votes that name a chain. -/
def votesNaming (core : EvidenceCore) (chain : PinnedChain) : List WitnessVote :=
  core.quorum.votes.filter fun v => v.blockchainId = chain.blockchainId

/-- The votes that are counted are those that name the chain, without the ones that dissent. -/
theorem countedVotes_eq_filter (core : EvidenceCore) (chain : PinnedChain) :
    countedVotes core chain = (votesNaming core chain).filter fun v => v.agreed && v.agreedBlockHash = chain.blockHash := by
  rw [countedVotes, votesNaming, List.filter_filter]
  exact List.filter_congr fun v _ => by rw [Bool.and_assoc, Bool.and_comm]

/-- A vote adds one failure domain at most. -/
theorem length_joinVote_le (components : List VoteComponent) (vote : WitnessVote) :
    (joinVote components vote).length ≤ components.length + 1 := by
  unfold joinVote
  rw [List.length_append, List.length_singleton]
  exact Nat.succ_le_succ (List.length_filter_le _ _)

theorem length_foldl_joinVote_le (votes : List WitnessVote) (components : List VoteComponent) :
    (votes.foldl joinVote components).length ≤ components.length + votes.length := by
  induction votes generalizing components with
  | nil => exact le_rfl
  | cons vote votes ih =>
    have hjoin := length_joinVote_le components vote
    have hrest := ih (joinVote components vote)
    rw [List.foldl_cons, List.length_cons]
    omega

theorem chainCount_le (core : EvidenceCore) (chain : PinnedChain) : chainCount core chain ≤ (countedVotes core chain).length := by
  have hle := length_foldl_joinVote_le (countedVotes core chain) []
  rwa [List.length_nil, Nat.zero_add] at hle

/-- The recorded number of failure domains is one that each pinned chain has. -/
theorem QuorumEvidence.recorded_le {core : EvidenceCore} {input : ProofInput} (h : QuorumEvidence core input)
    {chain : PinnedChain} (hchain : chain ∈ core.chains) : core.quorum.independentGroups ≤ (chainCount core chain : Int) :=
  (List.min?_eq_some_iff.1 h.recorded).2 _ (List.mem_map_of_mem hchain)

variable {core : EvidenceCore} {input : ProofInput} {native : Option NativeInput} {vote : WitnessVote}

/-- The core with one more vote listed. -/
def EvidenceCore.withVote (core : EvidenceCore) (vote : WitnessVote) : EvidenceCore :=
  { core with quorum := { core.quorum with votes := core.quorum.votes ++ [vote] } }

@[simp] theorem votes_withVote : (core.withVote vote).quorum.votes = core.quorum.votes ++ [vote] := rfl

/-- The vote is for a pinned chain, and for no block that is listed for it. -/
structure Dissents (core : EvidenceCore) (vote : WitnessVote) : Prop where
  names : ∃ c ∈ core.chains, c.blockchainId = vote.blockchainId
  apart : ∀ c ∈ core.chains, vote.blockchainId = c.blockchainId → ¬ (vote.agreed = true ∧ vote.agreedBlockHash = c.blockHash)

/-- What is filtered out does not notice the vote. -/
theorem filter_withVote {p : WitnessVote → Bool} (h : p vote = false) :
    (core.withVote vote).quorum.votes.filter p = core.quorum.votes.filter p := by
  have hnot : ¬ p vote = true := by
    rw [h]
    exact Bool.false_ne_true
  rw [votes_withVote, List.filter_append, List.filter_cons_of_neg hnot, List.filter_nil, List.append_nil]

theorem countedVotes_withVote (h : Dissents core vote) {chain : PinnedChain} (hchain : chain ∈ core.chains) :
    countedVotes (core.withVote vote) chain = countedVotes core chain := by
  refine filter_withVote (Bool.eq_false_iff.2 ?_)
  simp only [ne_eq, Bool.and_eq_true, decide_eq_true_eq]
  rintro ⟨⟨hname, hagreed⟩, hhash⟩
  exact h.apart chain hchain hname ⟨hagreed, hhash⟩

theorem chainCount_withVote (h : Dissents core vote) {chain : PinnedChain} (hchain : chain ∈ core.chains) :
    chainCount (core.withVote vote) chain = chainCount core chain := by
  rw [chainCount, chainCount, countedVotes_withVote h hchain]

theorem leastCount_withVote (h : Dissents core vote) : leastCount (core.withVote vote) = leastCount core := by
  have hcounts : (core.chains.map fun c => (chainCount (core.withVote vote) c : Int)) =
      core.chains.map fun c => (chainCount core c : Int) :=
    List.map_congr_left fun c hc => congrArg Nat.cast (chainCount_withVote h hc)
  exact congrArg List.min? hcounts

/-- All that is required of a core is still met when it lists one more vote that dissents. -/
theorem evidenced_withVote (h : Evidenced host core input native) (hid : isEndpointId vote.endpointId = true)
    (hdissents : Dissents core vote) (hhistory : ∀ b ∈ history core, b.blockchainId ≠ vote.blockchainId) :
    Evidenced host (core.withVote vote) input native := by
  constructor
  case identity =>
    have hi := h.identity
    exact ⟨hi.producer, hi.artifactChecksum, hi.sourceLockHash, hi.deploymentId, hi.manifestHash, hi.policyHash,
      hi.commitSha, hi.adapterId, hi.adapterVersion, hi.chains, hi.fingerprints, hi.rawFacts, hi.stateCalls, hi.messages,
      hi.requiredGroups, hi.threshold, hi.contracts, hi.remotes⟩
  case chains =>
    intro c hc
    obtain ⟨hacceptance, hbasis, hstands, hnumber, hhash, hquorum⟩ := h.chains c hc
    exact ⟨hacceptance, hbasis, hstands, hnumber, hhash, by rw [chainCount_withVote hdissents hc]; exact hquorum⟩
  case quorum =>
    obtain ⟨hreplayed, hrecorded, hvotes, hpins⟩ := h.quorum
    have hleast := leastCount_withVote hdissents
    refine ⟨hleast.trans hreplayed, hleast.trans hrecorded, fun v hv => ?_, hpins⟩
    rcases List.mem_append.1 hv with hv | hv
    · exact hvotes v hv
    · obtain rfl := List.mem_singleton.1 hv
      exact ⟨hid, hdissents.names⟩
  case heights => exact h.heights
  case history =>
    intro b hb
    obtain ⟨hbelow, hnumber, hhash, hacceptance, hcount, hvotes, hendpoints⟩ := h.history b hb
    -- the votes on the chain of a historical block are as before
    have hsame : ((core.withVote vote).quorum.votes.filter fun v => v.blockchainId = b.blockchainId) =
        core.quorum.votes.filter fun v => v.blockchainId = b.blockchainId :=
      filter_withVote (decide_eq_false fun hname => hhistory b hb hname.symm)
    refine ⟨hbelow, hnumber, hhash, hacceptance, hsame ▸ hcount, fun v hv => ?_, hsame ▸ hendpoints⟩
    obtain ⟨hagreed, hblock, hname, w, hw, hwitness⟩ := hvotes v hv
    exact ⟨hagreed, hblock, hname, w, List.mem_append_left _ hw, hwitness⟩
  case facts => exact ⟨h.facts.digests, h.facts.blocks, h.facts.distinct⟩
  case observationPaths => exact h.observationPaths
  case calls =>
    intro c hc
    obtain ⟨htarget, hblock, hcalldata, hresult, hprovenance⟩ := h.calls c hc
    exact ⟨htarget, hblock, hcalldata, hresult, hprovenance⟩
  case erc20 =>
    intro hnative
    obtain ⟨hbalance, hsupply, hescrow⟩ := h.erc20 hnative
    exact ⟨hbalance, hsupply, hescrow⟩
  case native =>
    intro n hn
    obtain ⟨hvalues, hrecognised, hfingerprint, hexpected, hcovered, hroster, hgenesis, hrules, hroles, hread, hcensus,
      hfees, hbound⟩ := h.native n hn
    exact ⟨hvalues, hrecognised, hfingerprint, hexpected, hcovered, hroster, hgenesis, hrules, hroles, hread, hcensus,
      hfees, hbound⟩
  case closing =>
    obtain ⟨hregistered, hcompleteness, hmissing, hwithout, hrecorded, hreplayed, hexpiry, hmessages, heffects⟩ := h.closing
    exact ⟨hregistered, hcompleteness, hmissing, hwithout, hrecorded, hreplayed, hexpiry, hmessages, heffects⟩

/-- No chain lists more votes than the bundle records failure domains. -/
def NoneSpare (core : EvidenceCore) : Prop :=
  ∀ c ∈ core.chains, ((votesNaming core c).length : Int) ≤ core.quorum.independentGroups

theorem Evidenced.noDissent (h : Evidenced host core input native) (hspare : NoneSpare core) : NoDissent core := by
  intro c hc v hv hname
  -- the count reaches the recorded number only if no vote is left out of it
  have hcount : ((votesNaming core c).length : Int) ≤ (countedVotes core c).length :=
    ((hspare c hc).trans (h.quorum.recorded_le hc)).trans (Int.ofNat_le.2 (chainCount_le _ c))
  rw [countedVotes_eq_filter] at hcount
  have hall := List.length_filter_eq_length_iff.1 (le_antisymm (List.length_filter_le _ _) (Int.ofNat_le.1 hcount))
  have hvote := hall v (List.mem_filter.2 ⟨hv, decide_eq_true hname⟩)
  rwa [Bool.and_eq_true, decide_eq_true_eq] at hvote

/-- A vote that dissents is one to spare: the failure domains that are recorded have votes of their own. -/
theorem Evidenced.spares (h : Evidenced host core input native) (hdissents : Dissents core vote) :
    ¬ NoneSpare (core.withVote vote) ∧ ¬ NoDissent (core.withVote vote) := by
  obtain ⟨c, hc, hname⟩ := hdissents.names
  have hmem : vote ∈ (core.withVote vote).quorum.votes := List.mem_append_right _ (List.mem_singleton_self vote)
  constructor
  · intro hspare
    have hrecorded := (h.quorum.recorded_le hc).trans (Int.ofNat_le.2 (chainCount_le core c))
    have hmore : votesNaming (core.withVote vote) c = votesNaming core c ++ [vote] := by
      unfold votesNaming
      rw [votes_withVote, List.filter_append]
      exact congrArg _ (List.filter_cons_of_pos (decide_eq_true hname.symm))
    have hfewer : (countedVotes core c).length ≤ (votesNaming core c).length := by
      rw [countedVotes_eq_filter]
      exact List.length_filter_le _ _
    have hle : ((votesNaming (core.withVote vote) c).length : Int) ≤ core.quorum.independentGroups := hspare c hc
    rw [hmore, List.length_append, List.length_singleton] at hle
    omega
  · exact fun hnone => hdissents.apart c hc hname.symm (hnone c hc vote hmem hname.symm)

/-- A verified bundle counts votes of two failure domains or more for each pinned chain. Where no chain lists more votes
than the bundle records failure domains, none of them can be spared, and so none dissents. And any verified bundle can
list a vote that dissents: it is one to spare, and nothing that is required fails. -/
theorem verified_noDissent_of_none_spare (h : verifyBundle host candidate external = .ok r) (hverified : r.verified = true) :
    (∀ c ∈ (bundleOf candidate).core.chains, 2 ≤ chainCount (bundleOf candidate).core c) ∧
      (NoneSpare (bundleOf candidate).core → NoDissent (bundleOf candidate).core) ∧
      ∃ input native, ReplayVerified host external (bundleOf candidate).core input native ∧
        ∀ vote, isEndpointId vote.endpointId = true → Dissents (bundleOf candidate).core vote →
          (∀ b ∈ history (bundleOf candidate).core, b.blockchainId ≠ vote.blockchainId) →
            ReplayVerified host external ((bundleOf candidate).core.withVote vote) input native ∧
              ¬ NoneSpare ((bundleOf candidate).core.withVote vote) ∧
              ¬ NoDissent ((bundleOf candidate).core.withVote vote) := by
  obtain ⟨input, native, hreplay⟩ := (verifyBundle_verified_iff.1 ⟨r, h, hverified⟩).replay
  have hevidenced := hreplay.evidenced
  refine ⟨fun c hc => ?_, hevidenced.noDissent, input, native, hreplay, fun vote hid hdissents hhistory =>
    ⟨⟨hreplay.decoded, hreplay.replayed, hreplay.external, evidenced_withVote hevidenced hid hdissents hhistory⟩,
      hevidenced.spares hdissents⟩⟩
  have hrequired := hevidenced.identity.requiredGroups
  have hquorum := (hevidenced.chains c hc).quorum
  omega

def lateVote : WitnessVote := sampleVote "ep-3" "operator-3" false ⟨remoteChainId, "9", laterBlockHash⟩

/-- The honest bundle records two failure domains, and two votes for each chain; a third one that is late can be added. -/
theorem verified_noDissent_of_none_spare_honest : ∃ candidate, NoDissent (bundleOf candidate).core ∧
    ¬ NoDissent ((bundleOf candidate).core.withVote lateVote) := by
  obtain ⟨candidate, r, document, evaluation, rules, verdict, hcore, hr, hverified, -⟩ := exists_sample honestParts_pass id
  have hspare : ∀ c ∈ honestParts.blocks.map sampleChain,
      ((honestParts.votes.filter fun v => v.blockchainId = c.blockchainId).length : Int) ≤ 2 := by decide +kernel
  obtain ⟨-, hnone, input, native, -, hmore⟩ := verified_noDissent_of_none_spare hr hverified
  have hdissents : Dissents (bundleOf candidate).core lateVote := by
    rw [hcore]
    refine ⟨⟨sampleChain remoteBlock, by simp [sampleCore, honestParts], rfl⟩, fun c _ _ => ?_⟩
    rintro ⟨hagreed, -⟩
    cases hagreed
  have hhistory : history (bundleOf candidate).core = [] := by
    rw [hcore]
    rfl
  refine ⟨candidate, hnone ?_, (hmore lateVote rfl hdissents (by simp [hhistory])).2.2⟩
  rw [hcore]
  exact hspare

/-- A vote for another block is left out of the count. -/
theorem dissent_is_left_out : ¬ ∃ sha256 : String → String, ∀ candidate external r,
    verifyBundle (sampleHost sha256) candidate external = .ok r → r.verified = true →
      NoDissent (bundleOf candidate).core := by
  rintro ⟨sha256, h⟩
  obtain ⟨candidate, r, _, _, _, _, hcore, hr, hverified, -⟩ := exists_sample looseParts_pass sha256
  have hvotes := h candidate none r hr hverified
  rw [hcore] at hvotes
  have hagreed := (hvotes (sampleChain remoteBlock) (by simp [sampleCore, looseParts])
    lateVote (by simp [lateVote, sampleCore, looseParts]) rfl).1
  cases hagreed

end Verified

end IcttSentinel.Evidence
