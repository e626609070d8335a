/-
Which messages stand behind the pending transfers and the effects of a bundle. The verifier resolves the facts that
messages and effects cite, and looks up no message key.
-/
import IcttSentinel.Evidence.Digested

namespace IcttSentinel.Evidence

open IcttSentinel.Domain IcttSentinel.Lib IcttSentinel.InvariantCore

/-! ## Messages behind an input -/

/-- The message was accounted for at its source, by a fact of the bundle, and was not executed. -/
structure InFlight (core : EvidenceCore) (m : MessageRecord) : Prop where
  accounted : ∃ t ∈ m.timeline, t.kind = "source-accounted" ∧ t.factDigest ∈ core.rawFacts.map (·.digest)
  unexecuted : ∀ t ∈ m.timeline, t.kind ≠ "execution-succeeded"

/-- Every pending transfer names a message in flight, no two of them the same record, and every effect names a message
that was executed. -/
structure Backed (core : EvidenceCore) (input : ProofInput) : Prop where
  pending : ∃ records, records.Subperm core.messages ∧
    List.Forall₂ (fun p m => m.messageId = p.messageKey ∧ InFlight core m) input.pending records
  effects : ∀ e ∈ input.effects, ∃ m ∈ core.messages, m.messageId = e.messageKey ∧
    ∃ t ∈ m.timeline, t.kind = "execution-succeeded"

/-! ## Other keys -/

section Rekeyed

variable {host : Host} {core : EvidenceCore} {input : ProofInput} {native : Option NativeInput}

/-- Nothing is required of the message keys. -/
theorem evidenced_rekeyed (h : Evidenced host core input native) (rename : String → String) :
    Evidenced host core (input.rekeyed rename) native := by
  constructor
  case identity =>
    have hi := h.identity
    exact ⟨hi.producer, hi.artifactChecksum, hi.sourceLockHash, hi.deploymentId, hi.manifestHash, hi.policyHash,
      hi.commitSha, hi.adapterId, hi.adapterVersion, hi.chains, hi.fingerprints, hi.rawFacts, hi.stateCalls, hi.messages,
      hi.requiredGroups, hi.threshold, hi.contracts, hi.remotes⟩
  case chains => exact h.chains
  case quorum => exact ⟨h.quorum.replayed, h.quorum.recorded, h.quorum.votes, h.quorum.pins⟩
  case heights => exact h.heights
  case history => exact h.history
  case facts => exact h.facts
  case observationPaths => exact h.observationPaths
  case calls => exact h.calls
  case erc20 =>
    intro hnative
    obtain ⟨hbalance, hsupply, hescrow⟩ := h.erc20 hnative
    exact ⟨hbalance, hsupply, hescrow⟩
  case native => exact h.native
  case closing =>
    obtain ⟨hregistered, hcompleteness, hmissing, hwithout, hrecorded, hreplayed, hexpiry, hmessages, heffects⟩ := h.closing
    refine ⟨hregistered, hcompleteness, hmissing, hwithout, hrecorded, hreplayed, hexpiry, hmessages, fun e he => ?_⟩
    obtain ⟨e, hmem, rfl⟩ := List.mem_map.1 he
    exact heffects e hmem

/-- A key that is no message's leaves its transfer without one. -/
theorem not_backed_rekeyed {rename : String → String} {p : PendingEnvelope} (hp : p ∈ input.pending)
    (hghost : ∀ m ∈ core.messages, m.messageId ≠ rename p.messageKey) : ¬ Backed core (input.rekeyed rename) := by
  rintro ⟨⟨records, hsubperm, hpending⟩, -⟩
  obtain ⟨m, hm, hkey, -⟩ := exists_row_of_forall₂ hpending (List.mem_map_of_mem hp)
  exact hghost m (hsubperm.subset hm) hkey

end Rekeyed

/-! ## A transfer of no message -/

/-- The supply of the remote falls short, and a transfer that no message of the sample is about makes up for it. -/
def ghostInput : ProofInput :=
  { boundInput with
    remotes := boundInput.remotes.map fun r => { r with remoteTotalSupply := some 60 }
    pending := [{
      messageKey := "ghost"
      direction := .homeToRemote
      amount := 40
      ageSeconds := 0
      remoteBlockchainId := remoteChainId
      remoteAddress := tokenRemoteAddress }] }

def ghostParts : SampleParts :=
  { honestParts with
    reads := honestParts.reads.map fun read =>
      if read.path = "remotes.0.remoteTotalSupply" then { read with result := "60" } else read }

def ghostCore : EvidenceCore := sampleCore (fun _ => "") ghostParts .null .null .null .null

theorem ghostCore_passes : Silent (evidenceSteps (sampleHost fun _ => "") ghostCore ghostInput none) := by
  have hclosing : Silent (closingSteps (sampleHost fun _ => "") ghostCore ghostInput) :=
    silent_census rfl ⟨rfl, rfl, rfl⟩ (by decide +kernel)
  exact silent_evidence_of
    (sample_identity (by decide) (by decide) (by decide +kernel) rfl rfl rfl (by decide +kernel)) hclosing (by decide +kernel)

theorem ghostInput_encodable : ProofEncodable sampleNfc ghostInput where
  deploymentId := rfl
  family := rfl
  provenance := boundInput_encodable.provenance
  untrackedRemotes := boundInput_encodable.untrackedRemotes
  independentWitnessGroups := boundInput_encodable.independentWitnessGroups
  requiredWitnessGroups := boundInput_encodable.requiredWitnessGroups
  remotes := fun r hr => by
    obtain ⟨r, hbound, rfl⟩ := List.mem_map.1 hr
    obtain ⟨hchain, haddress, hbalance, -, hscale, hhome, hremote, himbalance⟩ := boundInput_encodable.remotes r hbound
    have hsupply : ∀ n ∈ some (60 : Int), IsUint256 n := fun n hn => by
      cases hn
      exact ⟨by decide, by decide⟩
    exact ⟨hchain, haddress, hbalance, hsupply, hscale, hhome, hremote, himbalance⟩
  pending := fun p hp => by
    obtain rfl := List.mem_singleton.1 hp
    exact ⟨rfl, ⟨by decide, by decide⟩, ⟨by decide, by decide⟩, rfl, rfl⟩
  effects := boundInput_encodable.effects
  escrowBalance := boundInput_encodable.escrowBalance
  homePin := boundInput_encodable.homePin
  acceptedCollateralHomeUnits := boundInput_encodable.acceptedCollateralHomeUnits
  pendingAgeLimitSeconds := boundInput_encodable.pendingAgeLimitSeconds

/-- A transfer is accepted that no message record is about. -/
theorem ghost_transfer_is_verified : ¬ ∃ sha256 : String → String, ∀ candidate external r input,
    verifyBundle (sampleHost sha256) candidate external = .ok r → r.verified = true →
      decodeReplayInput (sampleHost sha256).nfc (bundleOf candidate).core.replayInput = .ok (input, none) →
        Backed (bundleOf candidate).core input := by
  rintro ⟨sha256, h⟩
  have hpseudonyms : ∀ v ∈ ghostCore.quorum.votes, isEndpointId v.endpointId = true := by decide +kernel
  have htwo : IsCount 2 := ⟨by decide, by decide⟩
  have hcounted : ghostCore.Counted := by
    refine ⟨isCount_one, htwo, htwo, fun f hf => ?_, fun m hm => ?_⟩
    · obtain rfl := List.mem_singleton.1 hf
      exact isCount_zero
    · obtain rfl := List.mem_singleton.1 hm
      exact ⟨isCount_one, isCount_one, isCount_zero, isCount_zero⟩
  obtain ⟨candidate, r, _, _, hcore, hr, hverified, hinput⟩ := exists_digested sha256 (fun s => s)
    ghostCore_passes rfl rfl rfl hpseudonyms ghostInput_encodable (by decide) hcounted rfl rfl rfl
  obtain ⟨⟨records, hsubperm, hpending⟩, -⟩ := h candidate none r ghostInput hr hverified hinput
  rw [hcore] at hsubperm
  cases hpending with
  | cons hghost _ =>
    obtain ⟨m, hm, hcited⟩ := List.mem_map.1 (hsubperm.subset List.mem_cons_self)
    obtain rfl := List.mem_singleton.1 hm
    rw [← hcited] at hghost
    exact absurd hghost.1 (show "message" ≠ "ghost" by decide)

end IcttSentinel.Evidence
