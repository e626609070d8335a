/-
The binding of a verified bundle to the reviewed files, `bindBundle` in apps/cli/src/configured.ts. The roster of remotes
is compared by its length and by looking each remote of the bundle up in the manifest, so a bundle that repeats one
approved remote in the place of another is bound as well.
-/
import IcttSentinel.Collector.Probe
import IcttSentinel.Evidence.Digested

namespace IcttSentinel.Cli

open IcttSentinel.Collector IcttSentinel.Config IcttSentinel.Evidence IcttSentinel.InvariantCore IcttSentinel.Lib

/-! ## The reviewed files -/

inductive AssetMode where
  | canonicalErc20
  | native
  deriving DecidableEq, Repr

structure ReviewedRemote where
  deployment : Deployment
  expectedDecimals : Nat

/-- A manifest, as far as a bundle is bound to it. Loading refuses one that declares a blockchain twice. -/
structure ReviewedManifest where
  name : Slug
  digest : String
  baseline : BaselineState
  assetMode : AssetMode
  homeDecimals : Nat
  home : Deployment
  remotes : List ReviewedRemote
  remotes_bounds : 1 ≤ remotes.length ∧ remotes.length ≤ 32
  blockchainIds : ((home :: remotes.map (·.deployment)).map (·.chain.blockchainId)).Nodup

structure ReviewedPolicy where
  digest : String
  value : Policy

/-- `deployments`. -/
def ReviewedManifest.deployments (m : ReviewedManifest) : List Deployment := m.home :: m.remotes.map (·.deployment)

/-! ## Faults -/

/-- The fault a statement adds, or its throw. -/
abbrev FaultStep := Except String (List String)

def require (ok : Except String Bool) (reason : String) : FaultStep := ok.map fun ok => if ok then [] else [reason]

/-- All faults, up to the first throw. -/
def gather : List FaultStep → FaultStep
  | [] => .ok []
  | step :: steps => do
    let faults ← step
    let rest ← gather steps
    return faults ++ rest

section Bind

variable (number : String → Option Rat) (witness : String → String) (core : EvidenceCore) (m : ReviewedManifest)
  (policy : Policy) (observed expires : Option Int)

/-- The pinned chain and the fingerprint of a deployment. `number` is `Number(text)` where that is finite; dates are
small enough for the quotient to be exact. -/
def positionSteps (d : Deployment) : List FaultStep :=
  let pin := core.chains.find? fun c => c.blockchainId = d.chain.blockchainId
  let fp := core.fingerprints.find? fun f => f.blockchainId = d.chain.blockchainId && f.address = d.contract.address
  [require
      (match pin with
        | none => .ok false
        | some pin =>
          if pin.evmChainId = toString d.chain.evmChainId then do
            let blockNumber ← bigInt pin.blockNumber
            return blockNumber ≥ d.contract.deploymentBlock
          else .ok false)
      "chain-pin-mismatch",
    require (.ok (pin.all fun pin => pin.finalityBasis = d.chain.finality.mode.text)) "finality-basis-mismatch",
    require (.ok (core.quorum.requiredGroups ≥ d.chain.independentTrustDomains)) "chain-quorum-mismatch"] ++
    (pin.toList.map fun pin =>
      require
        (.ok (observed.any fun observed => (number pin.blockTimestamp).any fun timestamp =>
          timestamp ≤ (observed : Rat) / 1000 && (observed : Rat) / 1000 - timestamp ≤ policy.maxAgeSeconds))
        "pin-observation-age-mismatch") ++
    [require
      (.ok (fp.any fun fp =>
        fp.recognised && fp.role = d.contract.role.text &&
          some fp.runtimeCodeHash = d.contract.fingerprint.runtimeCodeHash &&
          fp.implementationAddress = d.contract.proxy.implementation && fp.proxyAdmin = d.contract.proxy.admin &&
          (if d.contract.proxy.kind = .beacon then fp.beacon.isSome else fp.beacon.isNone) &&
          fp.implementationCodeHash.all fun hash => d.contract.fingerprint.allowedImplementationHashes.contains hash))
      "approved-fingerprint-mismatch"]

/-- The votes on the chain of a deployment; `witness` is the pseudonym of an endpoint id. -/
def voteSteps (d : Deployment) : List FaultStep :=
  (core.quorum.votes.filter fun v => v.blockchainId = d.chain.blockchainId).map fun vote =>
    require
      (.ok (d.chain.endpoints.any fun ep =>
        witness ep.id.val = vote.endpointId && ep.trustDomain.val = vote.trustDomain &&
          ep.providerGroup.val = vote.providerGroup))
      "witness-identity-mismatch"

/-- What is compared before the deployments. -/
def documentSteps (sourceLockHash policyDigest : String) (native : Option NativeInput) : List FaultStep :=
  [require (.ok (m.baseline = .approved)) "approved-baseline-required",
    require (.ok (core.baseline.manifestHash = m.digest && core.baseline.policyHash = policyDigest))
      "configuration-digest-mismatch",
    require (.ok (core.deploymentId = m.name.val)) "deployment-identity-mismatch",
    require (.ok (core.sourceLock.commitSha = pinnedCommitSha && core.sourceLock.sourceLockHash = sourceLockHash))
      "source-lock-mismatch",
    require (.ok ((if native.isNone then AssetMode.canonicalErc20 else .native) = m.assetMode)) "asset-mode-mismatch",
    require (.ok (core.quorum.requiredGroups ≥ policy.minIndependentTrustDomains)) "policy-quorum-mismatch",
    require (.ok (core.chains.length = 1 + m.remotes.length)) "chain-roster-mismatch",
    require
      (.ok (observed.any fun observed => expires.any fun expires =>
        expires > observed && expires - observed ≤ (policy.expiresAfterSeconds : Int) * 1000))
      "policy-expiry-mismatch"]

/-- A remote of the bundle is one of the manifest. -/
def ReviewedManifest.approves (m : ReviewedManifest) (r : RemoteObservation) : Bool :=
  m.remotes.any fun approved =>
    approved.deployment.chain.blockchainId = r.remoteBlockchainId &&
      approved.deployment.contract.address = r.remoteAddress && (approved.expectedDecimals : Int) = r.scale.remoteDecimals &&
      (m.homeDecimals : Int) = r.scale.homeDecimals

def rosterSteps (input : ProofInput) : List FaultStep :=
  require (.ok (input.remotes.length = m.remotes.length)) "remote-roster-mismatch" ::
    input.remotes.map fun r => require (.ok (m.approves r)) "remote-scale-or-address-mismatch"

def pinSteps (pins : Option (List PinText)) : List FaultStep :=
  pins.toList.map fun pins =>
    require
      (.ok (pins.length = core.chains.length && pins.all fun p => core.chains.any fun c =>
        c.blockchainId = p.blockchainId && c.blockNumber = p.blockNumber && c.blockHash = p.blockHash))
      "requested-pin-mismatch"

end Bind

/-- The comparisons, once the replay input is decoded. -/
def boundSteps (dateParse : String → Option Int) (number : String → Option Rat) (witness : String → String)
    (sourceLockHash : String) (core : EvidenceCore) (m : ReviewedManifest) (policy : ReviewedPolicy)
    (pins : Option (List PinText)) (input : ProofInput) (native : Option NativeInput) : List FaultStep :=
  let observed := dateParse core.completeness.observedAt
  let expires := dateParse core.completeness.expiresAt
  documentSteps core m policy.value observed expires sourceLockHash policy.digest native ++
    m.deployments.flatMap (fun d => positionSteps number core policy.value observed d ++ voteSteps witness core d) ++
    rosterSteps m input ++ pinSteps core pins

/-- `bindBundle`: the faults, or a throw. -/
def bindBundle (host : Host) (number : String → Option Rat) (sourceLockHash : String) (bundle : EvidenceBundle)
    (m : ReviewedManifest) (policy : ReviewedPolicy) (pins : Option (List PinText)) : Except String (List String) := do
  let (input, native) ← decodeReplayInput host.nfc bundle.core.replayInput
  gather (boundSteps host.dateParse number (witnessId host.sha256 m.name.val) sourceLockHash bundle.core m policy pins
    input native)

/-! ## The roster -/

/-- What a remote is bound by. -/
structure RosterEntry where
  blockchainId : String
  address : String
  homeDecimals : Int
  remoteDecimals : Int
  deriving DecidableEq

def entryOf (r : RemoteObservation) : RosterEntry where
  blockchainId := r.remoteBlockchainId
  address := r.remoteAddress
  homeDecimals := r.scale.homeDecimals
  remoteDecimals := r.scale.remoteDecimals

def ReviewedManifest.roster (m : ReviewedManifest) : List RosterEntry :=
  m.remotes.map fun approved => {
    blockchainId := approved.deployment.chain.blockchainId
    address := approved.deployment.contract.address
    homeDecimals := m.homeDecimals
    remoteDecimals := approved.expectedDecimals }

theorem ReviewedManifest.approves_iff {m : ReviewedManifest} {r : RemoteObservation} :
    m.approves r = true ↔ entryOf r ∈ m.roster := by
  unfold approves roster entryOf
  rw [List.any_eq_true, List.mem_map]
  refine exists_congr fun approved => and_congr_right fun _ => ?_
  simp only [Bool.and_eq_true, decide_eq_true_iff, RosterEntry.mk.injEq]
  tauto

/-- No blockchain is in the roster twice. -/
theorem ReviewedManifest.roster_nodup (m : ReviewedManifest) : (m.roster.map (·.blockchainId)).Nodup := by
  have hnodup := m.blockchainIds
  rw [List.map_cons, List.nodup_cons, List.map_map] at hnodup
  unfold roster
  rw [List.map_map]
  exact hnodup.2

theorem require_eq_ok {ok : Except String Bool} {reason : String} : require ok reason = .ok [] ↔ ok = .ok true := by
  unfold require
  cases ok with
  | error e => simp [Except.map]
  | ok b => cases b <;> simp [Except.map]

/-- There is no fault exactly where no comparison adds one. -/
theorem gather_eq_ok {steps : List FaultStep} : gather steps = .ok [] ↔ ∀ step ∈ steps, step = .ok [] := by
  induction steps with
  | nil => simp [gather]
  | cons step steps ih =>
    rw [List.forall_mem_cons, ← ih, gather]
    constructor
    · intro h
      obtain ⟨faults, hstep, h⟩ := bind_eq_ok.1 h
      obtain ⟨rest, hrest, h⟩ := bind_eq_ok.1 h
      obtain ⟨rfl, rfl⟩ := List.append_eq_nil_iff.1 (Except.ok.inj h)
      exact ⟨hstep, hrest⟩
    · rintro ⟨rfl, hrest⟩
      rw [ok_bind, hrest]
      rfl

section Bound

variable {host : Host} {number : String → Option Rat} {sourceLockHash : String} {candidate : JsValue}
  {external : Option AggregationInput} {r : VerifyResult} {m : ReviewedManifest} {policy : ReviewedPolicy}
  {pins : Option (List PinText)}

/-- A list of entries of the roster, as long as the roster, is the roster exactly where it names no blockchain twice. -/
theorem perm_roster_iff {l : List RemoteObservation} (hlength : l.length = m.remotes.length)
    (hall : ∀ r ∈ l, entryOf r ∈ m.roster) :
    (l.map entryOf).Perm m.roster ↔ (l.map (·.remoteBlockchainId)).Nodup := by
  have hids : l.map (·.remoteBlockchainId) = (l.map entryOf).map (·.blockchainId) := by
    rw [List.map_map]
    rfl
  rw [hids]
  constructor
  · exact fun hperm => (hperm.map _).nodup_iff.2 m.roster_nodup
  · intro hnodup
    have hsubset : l.map entryOf ⊆ m.roster := by
      intro entry hentry
      obtain ⟨r, hr, rfl⟩ := List.mem_map.1 hentry
      exact hall r hr
    have hsubperm := (List.Nodup.of_map _ hnodup).subperm hsubset
    apply hsubperm.perm_of_length_le
    unfold ReviewedManifest.roster
    rw [List.length_map, List.length_map, hlength]

/-- The remotes of a bundle that is verified and bound are those of the manifest, each of them once, exactly where the
bundle names no blockchain twice. -/
theorem bound_roster_iff (h : verifyBundle host candidate external = .ok r) (hverified : r.verified = true)
    (hbound : bindBundle host number sourceLockHash (bundleOf candidate) m policy pins = .ok []) :
    ∃ input native, decodeReplayInput host.nfc (bundleOf candidate).core.replayInput = .ok (input, native) ∧
      ((input.remotes.map entryOf).Perm m.roster ↔ (input.remotes.map (·.remoteBlockchainId)).Nodup) := by
  obtain ⟨input, native, hreplay⟩ := (verifyBundle_verified_iff.1 ⟨r, h, hverified⟩).replay
  have hdecoded := hreplay.decoded
  refine ⟨input, native, hdecoded, ?_⟩
  unfold bindBundle at hbound
  rw [hdecoded, ok_bind] at hbound
  have hsteps := gather_eq_ok.1 hbound
  have hroster : ∀ step ∈ rosterSteps m input, step = .ok [] := fun step hstep =>
    hsteps step (List.mem_append_left _ (List.mem_append_right _ hstep))
  have hlength := require_eq_ok.1 (hroster _ List.mem_cons_self)
  apply perm_roster_iff (of_decide_eq_true (Except.ok.inj hlength))
  intro r hr
  have happroved := require_eq_ok.1 (hroster _ (List.mem_cons_of_mem _ (List.mem_map_of_mem hr)))
  exact ReviewedManifest.approves_iff.1 (Except.ok.inj happroved)

end Bound

/-! ### Two bundles of two remotes -/

section Roster

def words (digit : Char) : String := "0x" ++ String.ofList (List.replicate 64 digit)

def sampleDigest : String := String.ofList (List.replicate 64 '7')

def operatorEndpoint (id operator : Slug) (secretRef : String) : Endpoint where
  id := id
  trustDomain := operator
  providerGroup := operator
  role := .primary
  secretRef := secretRef
  archiveDepth := .full

/-- A contract of canonical code, alone on a chain that two operators serve. -/
def sampleDeployment (digit : Char) (evmChainId : Nat) (role : ContractRole) (address : String) : Deployment where
  chain := {
    blockchainId := words digit
    evmChainId := evmChainId
    networkId := 1
    subnetId := words '0'
    genesisHash := some (words digit)
    trustedCheckpoint := none
    finality := { mode := .settledQuorum, acceptedStateQueries := .acceptedOnly, maxLagSeconds := 60 }
    endpoints := [operatorEndpoint ⟨"ep-1", by decide⟩ ⟨"operator-1", by decide⟩ "ICTT_SENTINEL_RPC_A",
      operatorEndpoint ⟨"ep-2", by decide⟩ ⟨"operator-2", by decide⟩ "ICTT_SENTINEL_RPC_B"]
    independentTrustDomains := 2
    endpoints_bounds := by decide
    quorum_bounds := two_quorum_bounds }
  contract := {
    role := role
    address := address
    deploymentBlock := 1
    proxy := { kind := .none, implementation := none, admin := none }
    fingerprint := { runtimeCodeHash := some homeBlockHash, allowedImplementationHashes := [], sourceRef := none } }

def homeDeployment : Deployment := sampleDeployment 'a' 1 .erc20TokenHome tokenHomeAddress

def firstRemote : Deployment := sampleDeployment 'b' 2 .erc20TokenRemote tokenRemoteAddress

def secondRemote : Deployment := sampleDeployment 'c' 3 .erc20TokenRemote "0x8888888888888888888888888888888888888888"

/-- Two remotes are approved. -/
def twoRemotes : ReviewedManifest where
  name := ⟨"deployment", by decide⟩
  digest := sampleDigest
  baseline := .approved
  assetMode := .canonicalErc20
  homeDecimals := 18
  home := homeDeployment
  remotes := [⟨firstRemote, 18⟩, ⟨secondRemote, 18⟩]
  remotes_bounds := by decide
  blockchainIds := by decide +kernel

def twoPolicy : ReviewedPolicy where
  digest := sampleDigest
  value := {
    minIndependentTrustDomains := 2
    maxAgeSeconds := 60
    expiresAfterSeconds := 600
    maxRetries := 1
    maxLogRangeBlocks := 10
    quorum_bounds := two_quorum_bounds }

def pinOf (d : Deployment) : PinText := ⟨d.chain.blockchainId, "7", homeBlockHash⟩

/-- An input about the chosen remotes, of which there are two. -/
def rosterInput (chosen : List Deployment) : ProofInput :=
  { boundInput with
    provenance := ⟨some sampleDigest, some sampleDigest, some pinnedCommitSha, some "adapter", some 1, "rule"⟩
    remotes := chosen.map fun d =>
      { remoteBlockchainId := d.chain.blockchainId
        remoteAddress := d.contract.address
        transferredBalance := some 100
        remoteTotalSupply := some 100
        scale := ⟨1, false, 18, 18, true⟩
        homePin := some ⟨homeDeployment.chain.blockchainId, 7, homeBlockHash⟩
        remotePin := some ⟨d.chain.blockchainId, 7, homeBlockHash⟩
        fingerprintRecognised := true
        tokenBehaviourCanonical := true
        routeSingleHop := true
        initialReserveImbalance := 0 }
    homeEscrow := ⟨some 200, some ⟨homeDeployment.chain.blockchainId, 7, homeBlockHash⟩, 0⟩ }

def rosterFact : RawFactRefRecord where
  evmChainId := "1"
  blockHash := homeBlockHash
  txHash := homeBlockHash
  logIndex := 0
  digest := ""

/-- All three chains are pinned, voted for and fingerprinted. -/
def rosterCore (chosen : List Deployment) : EvidenceCore where
  producer := ⟨"ictt-sentinel", evidenceSchemaVersion, "artifact-addressed", sampleDigest⟩
  sourceLock := ⟨pinnedCommitSha, sampleDigest, "adapter", 1, "epoch"⟩
  baseline := ⟨sampleDigest, sampleDigest⟩
  deploymentId := "deployment"
  fingerprints := twoRemotes.deployments.map fun d =>
    ⟨d.contract.role.text, d.chain.blockchainId, homeBlockHash, d.contract.address, none, none, none, none, true⟩
  chains := twoRemotes.deployments.map fun d =>
    ⟨d.chain.blockchainId, toString d.chain.evmChainId, "7", homeBlockHash, "0", "head", "settled-quorum"⟩
  quorum := ⟨agreeingVotes (twoRemotes.deployments.map pinOf), 2, 2, "note"⟩
  rawFacts := [rosterFact]
  historicalBlocks := some []
  stateCalls := (
    [⟨"homeEscrow.tokenAddress", pinOf homeDeployment, tokenHomeAddress, "0x10fe9ae8", escrowTokenAddress⟩,
      ⟨"homeEscrow.escrowBalance", pinOf homeDeployment, escrowTokenAddress, "0x70a08231" ++ paddedAddress tokenHomeAddress,
        "200"⟩] ++
    chosen.zipIdx.flatMap fun (d, i) =>
      [⟨remotePath i "transferredBalance", pinOf homeDeployment, tokenHomeAddress, "0x1f2d4c4b", "100"⟩,
        ⟨remotePath i "remoteTotalSupply", pinOf d, d.contract.address, "0x18160ddd", "100"⟩] : List SampleRead).map
    (·.call fun _ => "")
  census := ⟨"complete-from-deployment-block",
    chosen.map fun d => d.chain.blockchainId ++ "/" ++ d.contract.address, [], []⟩
  messages :=
    [{ sourceBlockchainId := homeDeployment.chain.blockchainId
       destinationBlockchainId := firstRemote.chain.blockchainId
       teleporterMessengerAddress := tokenHomeAddress
       registryProtocolVersion := 1
       messageId := "message"
       state := "DELIVERED"
       timeline := [⟨"source-accounted", ""⟩]
       sendAttempts := 1
       executionAttempts := 0
       envelopeIds := ["message"]
       economicEffectCount := 0 }]
  rules := .null
  verdict := .null
  completeness := ⟨"1970-01-01T00:00:00.000Z", "1970-01-01T00:01:00.000Z", true, [], []⟩
  assurance := ⟨"mode", [], [], []⟩
  previousBundleHash := none
  replayInput := .null
  replayEvaluation := .null

/-- `Number` of the one timestamp. -/
def sampleNumber (s : String) : Option Rat := if s = "0" then some 0 else none

/-- The chosen remotes pass, with a hash that is always empty and with the ids of the endpoints for their pseudonyms. -/
structure RosterPasses (chosen : List Deployment) : Prop where
  evidenced : Silent (evidenceSteps (sampleHost fun _ => "") (rosterCore chosen) (rosterInput chosen) none)
  bound : ∀ step ∈ boundSteps (sampleHost fun _ => "").dateParse sampleNumber (fun id => id) sampleDigest
    (rosterCore chosen) twoRemotes twoPolicy none (rosterInput chosen) none, step = .ok []

theorem roster_contracts (chosen : List Deployment) : ∀ f ∈ (rosterCore chosen).fingerprints,
    isRoleHolder f.address = true ∧ isHash f.runtimeCodeHash = true ∧
      ∃ c ∈ (rosterCore chosen).chains, c.blockchainId = f.blockchainId := by
  have haddress : ∀ d ∈ twoRemotes.deployments, isRoleHolder d.contract.address = true := by decide +kernel
  have hhash : isHash homeBlockHash = true := by decide +kernel
  intro f hf
  obtain ⟨d, hd, rfl⟩ := List.mem_map.1 hf
  exact ⟨haddress d hd, hhash, _, List.mem_map_of_mem hd, rfl⟩

theorem isHex_sampleDigest : isHex 64 sampleDigest = true := by decide +kernel

theorem roster_identity {chosen : List Deployment} (h : ∀ d ∈ chosen, d ∈ twoRemotes.deployments) :
    IdentityEvidence (rosterCore chosen) (rosterInput chosen) where
  producer := rfl
  artifactChecksum := isHex_sampleDigest
  sourceLockHash := isHex_sampleDigest
  deploymentId := rfl
  manifestHash := rfl
  policyHash := rfl
  commitSha := rfl
  adapterId := rfl
  adapterVersion := rfl
  chains := show 2 ≤ 3 by decide
  fingerprints := show 0 < 3 by decide
  rawFacts := Nat.zero_lt_one
  stateCalls := Nat.succ_pos _
  messages := Nat.zero_lt_one
  requiredGroups := Int.le_refl 2
  threshold := rfl
  contracts := roster_contracts chosen
  remotes := by
    intro r hr
    obtain ⟨d, hd, rfl⟩ := List.mem_map.1 hr
    exact ⟨_, List.mem_map_of_mem (h d hd), rfl, rfl, rfl⟩

theorem roster_closing (chosen : List Deployment) :
    Silent (closingSteps (sampleHost fun _ => "") (rosterCore chosen) (rosterInput chosen)) := by
  have hregistered : (rosterCore chosen).census.registeredRemotes =
      (rosterInput chosen).remotes.map fun r => r.remoteBlockchainId ++ "/" ++ r.remoteAddress := by
    show _ = (chosen.map _).map _
    rw [List.map_map]
    rfl
  have hrest : Silent (closingSteps (sampleHost fun _ => "") (rosterCore []) (rosterInput [])).tail := by decide +kernel
  exact silent_census hregistered ⟨rfl, rfl, rfl⟩ hrest

theorem both_pass : RosterPasses [firstRemote, secondRemote] where
  evidenced := silent_evidence_of (roster_identity (by simp [ReviewedManifest.deployments, twoRemotes]))
    (roster_closing _) (by decide +kernel)
  bound := by decide +kernel

theorem repeated_pass : RosterPasses [firstRemote, firstRemote] where
  evidenced := silent_evidence_of (roster_identity (by simp [ReviewedManifest.deployments, twoRemotes]))
    (roster_closing _) (by decide +kernel)
  bound := by decide +kernel

theorem rosterInput_encodable (chosen : List Deployment) : ProofEncodable sampleNfc (rosterInput chosen) where
  deploymentId := rfl
  family := rfl
  provenance := ⟨fun _ _ => rfl, fun _ _ => rfl, fun _ _ => rfl, fun _ _ => rfl, fun n hn => by
    cases hn
    exact isCount_one, rfl⟩
  untrackedRemotes := boundInput_encodable.untrackedRemotes
  independentWitnessGroups := boundInput_encodable.independentWitnessGroups
  requiredWitnessGroups := boundInput_encodable.requiredWitnessGroups
  remotes := fun r hr => by
    obtain ⟨d, -, rfl⟩ := List.mem_map.1 hr
    have hamount : ∀ n ∈ some (100 : Int), IsUint256 n := fun n hn => by
      cases hn
      exact ⟨by decide, by decide⟩
    have hpin : ∀ (d : Deployment), ∀ p ∈ some (⟨d.chain.blockchainId, 7, homeBlockHash⟩ : PinnedBlock),
        PinEncodable sampleNfc p := fun d p hp => by
      cases hp
      exact ⟨rfl, show IsUint256 7 from ⟨by decide, by decide⟩, rfl⟩
    have hscale : ScaleEncodable ⟨1, false, 18, 18, true⟩ :=
      ⟨⟨by decide, by decide⟩, ⟨by decide, by decide⟩, ⟨by decide, by decide⟩⟩
    have himbalance : IsUint256 0 := ⟨by decide, by decide⟩
    exact ⟨rfl, rfl, hamount, hamount, hscale, hpin homeDeployment, hpin d, himbalance⟩
  pending := boundInput_encodable.pending
  effects := boundInput_encodable.effects
  escrowBalance := fun n hn => by
    cases hn
    exact ⟨by decide, by decide⟩
  homePin := fun p hp => by
    cases hp
    exact ⟨rfl, ⟨by decide, by decide⟩, rfl⟩
  acceptedCollateralHomeUnits := boundInput_encodable.acceptedCollateralHomeUnits
  pendingAgeLimitSeconds := boundInput_encodable.pendingAgeLimitSeconds

/-- Endpoints that are compared by their ids may as well be compared by their pseudonyms. -/
theorem boundSteps_digested {host : Host} {dateParse : String → Option Int} {number : String → Option Rat}
    {pseudonym : String → String} {sourceLockHash : String} {core : EvidenceCore} {fact : RawFactRefRecord}
    {m : ReviewedManifest} {policy : ReviewedPolicy} {pins : Option (List PinText)} {input : ProofInput}
    {native : Option NativeInput} (document : JsValue) (replayed : Replayed)
    (h : ∀ step ∈ boundSteps dateParse number (fun id => id) sourceLockHash core m policy pins input native, step = .ok []) :
    ∀ step ∈ boundSteps dateParse number pseudonym sourceLockHash
      ((core.digested host pseudonym fact).withReplay document replayed) m policy pins input native, step = .ok [] := by
  intro step hstep
  rcases List.mem_append.1 hstep with hstep | hpins
  · rcases List.mem_append.1 hstep with hstep | hroster
    · rcases List.mem_append.1 hstep with hdocument | hdeployment
      · exact h step (List.mem_append_left _ (List.mem_append_left _ (List.mem_append_left _ hdocument)))
      · obtain ⟨d, hd, hstep⟩ := List.mem_flatMap.1 hdeployment
        have hown : ∀ step ∈ positionSteps number core policy.value (dateParse core.completeness.observedAt) d ++
            voteSteps (fun id => id) core d, step = .ok [] := fun step hstep =>
          h step (List.mem_append_left _ (List.mem_append_left _ (List.mem_append_right _ (List.mem_flatMap.2 ⟨d, hd, hstep⟩))))
        rcases List.mem_append.1 hstep with hposition | hvoting
        · exact hown step (List.mem_append_left _ hposition)
        · obtain ⟨vote, hvote, rfl⟩ := List.mem_map.1 hvoting
          obtain ⟨hrenamed, hchain⟩ := List.mem_filter.1 hvote
          obtain ⟨v, hv, rfl⟩ := List.mem_map.1 hrenamed
          have hnamed := hown _ (List.mem_append_right _ (List.mem_map_of_mem (List.mem_filter.2 ⟨hv, hchain⟩)))
          rw [require_eq_ok, Except.ok.injEq, List.any_eq_true] at hnamed ⊢
          obtain ⟨ep, hep, hsame⟩ := hnamed
          refine ⟨ep, hep, ?_⟩
          simp only [Bool.and_eq_true, decide_eq_true_iff] at hsame ⊢
          exact ⟨⟨congrArg pseudonym hsame.1.1, hsame.1.2⟩, hsame.2⟩
    · exact h step (List.mem_append_left _ (List.mem_append_right _ hroster))
  · exact h step (List.mem_append_right _ hpins)

/-- A pseudonym is made of hexadecimal digits where the hash is. -/
theorem isEndpointId_witnessId {sha256 : String → String} (hhex : ∀ s, isHex 64 (sha256 s) = true) (deploymentId endpointId : String) :
    isEndpointId (witnessId sha256 deploymentId endpointId) = true := by
  obtain ⟨digest, hdigest⟩ : ∃ digest, digest = domainSeparatedSha256 sha256 "ictt-sentinel/endpoint/v1"
      (deploymentId ++ "|" ++ endpointId) := ⟨_, rfl⟩
  have hdigits : isHex 64 digest = true := hdigest ▸ hhex _
  unfold isHex at hdigits
  rw [Bool.and_eq_true, decide_eq_true_iff, List.all_eq_true] at hdigits
  obtain ⟨hlength, hall⟩ := hdigits
  have hlist : (witnessId sha256 deploymentId endpointId).toList = 'e' :: 'p' :: '-' :: digest.toList.take 16 := by
    unfold witnessId endpointPseudonym
    rw [← hdigest]
    simp only [String.toList_append, String.toList_ofList]
    rfl
  unfold isEndpointId
  rw [hlist]
  show (!(digest.toList.take 16).isEmpty && (digest.toList.take 16).all isHexDigit) = true
  rw [Bool.and_eq_true, Bool.not_eq_true', List.isEmpty_eq_false_iff, List.all_eq_true]
  refine ⟨fun hnil => ?_, fun c hc => hall c (List.mem_of_mem_take hc)⟩
  have htaken := congrArg List.length hnil
  rw [List.length_take, hlength] at htaken
  cases htaken

/-- Remotes that pass are those of a bundle that is verified and bound, whatever the hash is. -/
theorem exists_roster {chosen : List Deployment} (hpasses : RosterPasses chosen) {sha256 : String → String}
    (hhex : ∀ s, isHex 64 (sha256 s) = true) :
    ∃ candidate r, verifyBundle (sampleHost sha256) candidate none = .ok r ∧ r.verified = true ∧
      bindBundle (sampleHost sha256) sampleNumber sampleDigest (bundleOf candidate) twoRemotes twoPolicy none = .ok [] ∧
        decodeReplayInput sampleNfc (bundleOf candidate).core.replayInput = .ok (rosterInput chosen, none) := by
  have htwo : IsCount 2 := ⟨by decide, by decide⟩
  have hcounted : (rosterCore chosen).Counted := by
    refine ⟨isCount_one, htwo, htwo, fun f hf => ?_, fun message hmessage => ?_⟩
    · obtain rfl := List.mem_singleton.1 hf
      exact isCount_zero
    · obtain rfl := List.mem_singleton.1 hmessage
      exact ⟨isCount_one, isCount_one, isCount_zero, isCount_zero⟩
  obtain ⟨candidate, r, document, replayed, hcore, hr, hverified, hinput⟩ := exists_digested
    sha256 (witnessId sha256 "deployment") hpasses.evidenced rfl rfl rfl
    (fun v _ => isEndpointId_witnessId hhex _ _) (rosterInput_encodable chosen) (Nat.two_pow_pos 53) hcounted rfl rfl rfl
  refine ⟨candidate, r, hr, hverified, ?_, hinput⟩
  have hdecoded : decodeReplayInput (sampleHost sha256).nfc (bundleOf candidate).core.replayInput =
      .ok (rosterInput chosen, none) := hinput
  unfold bindBundle
  rw [hdecoded, ok_bind, gather_eq_ok, hcore]
  exact boundSteps_digested document replayed hpasses.bound

/-- The two approved remotes, each once. -/
theorem bound_roster_iff_both : ((rosterInput [firstRemote, secondRemote]).remotes.map entryOf).Perm twoRemotes.roster := by
  have hhex : isHex 64 sampleDigest = true := by decide +kernel
  obtain ⟨candidate, r, hr, hverified, hbound, hinput⟩ := exists_roster both_pass fun _ => hhex
  obtain ⟨input, native, hdecoded, hiff⟩ := bound_roster_iff hr hverified hbound
  have hsame := hinput.symm.trans hdecoded
  cases hsame
  exact hiff.2 (by decide +kernel)

/-- A bundle that leaves out an approved remote is verified and bound. -/
theorem repeated_remote_is_bound : ¬ ∃ sha256 : String → String, (∀ s, isHex 64 (sha256 s) = true) ∧
    ∀ candidate r m policy input, verifyBundle (sampleHost sha256) candidate none = .ok r → r.verified = true →
      bindBundle (sampleHost sha256) sampleNumber sampleDigest (bundleOf candidate) m policy none = .ok [] →
        decodeReplayInput sampleNfc (bundleOf candidate).core.replayInput = .ok (input, none) →
          (input.remotes.map entryOf).Perm m.roster := by
  rintro ⟨sha256, hhex, h⟩
  obtain ⟨candidate, r, hr, hverified, hbound, hinput⟩ := exists_roster repeated_pass hhex
  have hperm := h candidate r twoRemotes twoPolicy _ hr hverified hbound hinput
  have hsecond := hperm.mem_iff.2 (show (⟨words 'c', "0x8888888888888888888888888888888888888888", 18, 18⟩ : RosterEntry) ∈
    twoRemotes.roster by decide +kernel)
  exact absurd hsecond (by decide +kernel)

end Roster

end IcttSentinel.Cli
