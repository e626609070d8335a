/-
What is required of a bundle looks at its digests only to recompute them: a core with one raw fact that passes under one
hash passes under every other, once its digests are its own and its voters have other pseudonyms.
-/
import IcttSentinel.Evidence.Binding

namespace IcttSentinel.Evidence

open IcttSentinel.Domain IcttSentinel.Lib IcttSentinel.InvariantCore

section Digested

variable (host : Host) (pseudonym : String → String)

def RawFactRefRecord.ownDigest (f : RawFactRefRecord) : String :=
  factDigest host ((bigInt f.evmChainId).toOption.getD 0) f.blockHash f.txHash f.logIndex

def WitnessVote.renamed (v : WitnessVote) : WitnessVote := { v with endpointId := pseudonym v.endpointId }

def StateCallRecord.digested (c : StateCallRecord) : StateCallRecord :=
  { c with
    calldataDigest := domainSeparatedSha256 host.sha256 "ictt-sentinel/calldata/v1" c.calldata
    resultDigest := stateCallDigest host c.target c.calldata c.result }

def MessageRecord.citing (digest : String) (m : MessageRecord) : MessageRecord :=
  { m with timeline := m.timeline.map fun t => { t with factDigest := digest } }

/-- The core with one raw fact, which all its messages cite, and with digests of its own. -/
def EvidenceCore.digested (core : EvidenceCore) (fact : RawFactRefRecord) : EvidenceCore :=
  { core with
    quorum := { core.quorum with votes := core.quorum.votes.map (·.renamed pseudonym) }
    rawFacts := [{ fact with digest := fact.ownDigest host }]
    stateCalls := core.stateCalls.map (·.digested host)
    messages := core.messages.map (·.citing (fact.ownDigest host)) }

variable {host pseudonym} {core : EvidenceCore} {fact : RawFactRefRecord} {input : ProofInput}

theorem observation_digested (path : String) : observation (core.digested host pseudonym fact) path = observation core path := by
  simp only [observation, EvidenceCore.digested, ← List.map_reverse, List.find?_map, Option.map_map]
  rfl

theorem observed_digested (path : String) (value : Option Int) :
    observed (core.digested host pseudonym fact) path value = observed core path value := by
  simp only [observed, observation_digested]

theorem escrowBound_digested (call : StateCallRecord) :
    escrowBound (core.digested host pseudonym fact) (call.digested host) = escrowBound core call := by
  simp only [escrowBound, EvidenceCore.digested, List.find?_map, Option.any_map]
  rfl

/-- Counting failure domains does not look at the voter's pseudonym. -/
theorem chainCount_digested (chain : PinnedChain) :
    chainCount (core.digested host pseudonym fact) chain = chainCount core chain := by
  have hvotes : countedVotes (core.digested host pseudonym fact) chain =
      (countedVotes core chain).map (·.renamed pseudonym) := by
    unfold countedVotes EvidenceCore.digested
    rw [List.filter_map]
    rfl
  unfold chainCount
  rw [hvotes, List.foldl_map]
  rfl

theorem leastCount_digested : leastCount (core.digested host pseudonym fact) = leastCount core := by
  unfold leastCount
  simp only [chainCount_digested]
  rfl

/-- Other digests and pseudonyms change nothing that is required of a core. -/
theorem evidenced_digested {host' : Host} (h : Evidenced host core input none) (hfact : core.rawFacts = [fact])
    (hhistory : history core = []) (heffects : input.effects = []) (hnfc : host'.nfc = host.nfc)
    (hdates : host'.dateParse = host.dateParse)
    (hpseudonyms : ∀ v ∈ core.quorum.votes, isEndpointId (pseudonym v.endpointId) = true) :
    Evidenced host' (core.digested host' pseudonym fact) input none := by
  have hi := h.identity
  have hmem : fact ∈ core.rawFacts := hfact ▸ List.mem_singleton_self fact
  have hcalls : 0 < (core.digested host' pseudonym fact).stateCalls.length :=
    (List.length_map _).symm ▸ hi.stateCalls
  have hmessages : 0 < (core.digested host' pseudonym fact).messages.length :=
    (List.length_map _).symm ▸ hi.messages
  constructor
  case identity =>
    exact ⟨hi.producer, hi.artifactChecksum, hi.sourceLockHash, hi.deploymentId, hi.manifestHash, hi.policyHash,
      hi.commitSha, hi.adapterId, hi.adapterVersion, hi.chains, hi.fingerprints, Nat.zero_lt_one, hcalls, hmessages,
      hi.requiredGroups, hi.threshold, hi.contracts, hi.remotes⟩
  case chains =>
    intro c hc
    obtain ⟨hacceptance, hbasis, hstands, hnumber, hhash, hquorum⟩ := h.chains c hc
    exact ⟨hacceptance, hbasis, hstands, hnumber, hhash, by rw [chainCount_digested]; exact hquorum⟩
  case quorum =>
    refine ⟨by rw [leastCount_digested]; exact h.quorum.replayed, by rw [leastCount_digested]; exact h.quorum.recorded,
      fun v hv => ?_, h.quorum.pins⟩
    obtain ⟨v, hvote, rfl⟩ := List.mem_map.1 hv
    exact ⟨hpseudonyms v hvote, (h.quorum.votes v hvote).2⟩
  case heights => exact h.heights
  case history =>
    intro b hb
    have hnone : history (core.digested host' pseudonym fact) = [] := hhistory
    rw [hnone] at hb
    cases hb
  -- the one fact now carries the digest that the verifier computes from it
  case facts =>
    obtain ⟨evmChainId, hparsed, -⟩ := h.facts.digests fact hmem
    refine ⟨fun f hf => ?_, fun f hf => ?_, List.nodup_singleton _⟩
    · obtain rfl := List.mem_singleton.1 hf
      refine ⟨evmChainId, hparsed, ?_⟩
      show fact.ownDigest host' = _
      unfold RawFactRefRecord.ownDigest
      rw [hparsed]
      rfl
    · obtain rfl := List.mem_singleton.1 hf
      exact h.facts.blocks fact hmem
  case observationPaths =>
    show ((core.stateCalls.map (·.digested host')).map (·.observationPath)).Nodup
    rw [List.map_map]
    exact h.observationPaths
  case calls =>
    intro c hc
    obtain ⟨call, hcall, rfl⟩ := List.mem_map.1 hc
    obtain ⟨htarget, hblock, -, -, hprovenance⟩ := h.calls call hcall
    exact ⟨by rw [escrowBound_digested]; exact htarget, hblock, rfl, rfl, hprovenance⟩
  case erc20 =>
    intro hnative
    obtain ⟨hbalance, hsupply, hescrow⟩ := h.erc20 hnative
    exact ⟨fun r i hr => (observed_digested _ _).trans (hbalance r i hr),
      fun r i hr => (observed_digested _ _).trans (hsupply r i hr), (observed_digested _ _).trans hescrow⟩
  case native => exact fun n hn => absurd hn (Option.not_mem_none n)
  case closing =>
    obtain ⟨hregistered, hcompleteness, hmissing, hwithout, hrecorded, hreplayed, hexpiry, htimelines, -⟩ := h.closing
    refine ⟨?_, hcompleteness, hmissing, hwithout, hrecorded, hreplayed, by rw [hdates]; exact hexpiry, fun m hm => ?_,
      fun e he => ?_⟩
    · unfold same at hregistered ⊢
      rw [hnfc]
      exact hregistered
    · obtain ⟨m, hmessage, rfl⟩ := List.mem_map.1 hm
      exact ⟨(List.length_map _).symm ▸ (htimelines m hmessage).1, (htimelines m hmessage).2⟩
    · rw [heffects] at he
      cases he

/-- A core that passes with a hash that is always empty is, digested, the core of a bundle that is verified, whatever the
hash is. -/
theorem exists_digested (sha256 pseudonym : String → String)
    (hpasses : Silent (evidenceSteps (sampleHost fun _ => "") core input none)) (hfact : core.rawFacts = [fact])
    (hhistory : core.historicalBlocks = some []) (heffects : input.effects = [])
    (hpseudonyms : ∀ v ∈ core.quorum.votes, isEndpointId (pseudonym v.endpointId) = true)
    (hencodable : ProofEncodable sampleNfc input) (hpending : input.pending.length < 2 ^ 53) (hcounted : core.Counted)
    (hversion : core.producer.schemaVersion = evidenceSchemaVersion)
    (hmissing : core.completeness.missingEvidence = []) (hcontradictory : core.completeness.contradictoryEvidence = []) :
    ∃ candidate r document replayed,
      (bundleOf candidate).core = (core.digested (sampleHost sha256) pseudonym fact).withReplay document replayed ∧
        verifyBundle (sampleHost sha256) candidate none = .ok r ∧ r.verified = true ∧
          decodeReplayInput sampleNfc (bundleOf candidate).core.replayInput = .ok (input, none) := by
  have hnone : history core = [] := by rw [history, hhistory]; rfl
  have hevidenced : Evidenced (sampleHost sha256) (core.digested (sampleHost sha256) pseudonym fact) input none :=
    evidenced_digested (silent_evidence.1 hpasses) hfact hnone heffects rfl rfl hpseudonyms
  have hcounted' : (core.digested (sampleHost sha256) pseudonym fact).Counted := by
    refine ⟨hcounted.adapterVersion, hcounted.independentGroups, hcounted.requiredGroups, fun f hf => ?_, fun m hm => ?_⟩
    · obtain rfl := List.mem_singleton.1 hf
      exact hcounted.rawFacts fact (hfact ▸ List.mem_singleton_self fact)
    · obtain ⟨m, hmessage, rfl⟩ := List.mem_map.1 hm
      obtain ⟨hversion, hsends, hexecutions, heffects⟩ := hcounted.messages m hmessage
      exact ⟨hversion, hsends, hexecutions, heffects⟩
  have hreferences : ∀ m ∈ (core.digested (sampleHost sha256) pseudonym fact).messages, ∀ t ∈ m.timeline,
      t.factDigest ∈ (core.digested (sampleHost sha256) pseudonym fact).rawFacts.map (·.digest) := by
    intro m hm t ht
    obtain ⟨m, -, rfl⟩ := List.mem_map.1 hm
    obtain ⟨t, -, rfl⟩ := List.mem_map.1 ht
    exact List.mem_cons_self
  exact exists_recorded (fun _ => rfl) (fun _ => rfl) hencodable hpending hcounted' ⟨[], hhistory⟩ hversion hreferences
    hmissing hcontradictory hevidenced

end Digested

end IcttSentinel.Evidence
