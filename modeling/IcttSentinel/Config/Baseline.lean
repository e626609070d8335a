/-
The approval of a baseline, packages/config/src/baseline.ts, over whole documents: what the rules of the
loader read, the asset, the baseline with its record, and the members that no rule reads.
-/
import IcttSentinel.Config.Canonical
import IcttSentinel.Config.Manifest

namespace IcttSentinel.Config

open IcttSentinel.Lib

/-! ## Baselines -/

inductive FieldPolicyMode where
  | locked
  | approvedChange
  | observeOnly
  deriving DecidableEq, Repr

/-- `BASELINE_FIELDS`. -/
inductive BaselineField where
  | homeBlockchainId
  | homeEvmChainId
  | homeGenesisHash
  | homeTokenHomeAddress
  | homeTokenAddress
  | homeProxyImplementation
  | homeRuntimeCodeHash
  | homeRegistryAddress
  | homeMessengerAddress
  | homeMinimumProtocolVersion
  | remoteBlockchainId
  | remoteTokenRemoteAddress
  | remoteExpectedDecimals
  | remoteProxyImplementation
  | remoteRuntimeCodeHash
  | censusCompleteness
  deriving DecidableEq, Repr

/-- `zFieldPolicies`: a mode for every field. -/
abbrev FieldPolicies := BaselineField → FieldPolicyMode

/-- `Approval`: what the operator states. -/
structure Approval where
  approvedBy : String
  approvedAt : String
  note : Option String
  deriving DecidableEq, Repr

/-- The approval of an approved baseline, with the digest of what was reviewed. -/
structure ApprovalRecord where
  approvedBy : String
  approvedAt : String
  reviewedDigest : String
  note : Option String
  deriving DecidableEq, Repr

structure Discovery where
  discoveredAt : String
  tool : String
  atBlock : Nat
  deriving DecidableEq, Repr

/-- `zCandidateBaseline`. -/
structure CandidateBaseline where
  discovery : Discovery
  fieldPolicies : FieldPolicies

/-- `zApprovedBaseline`. -/
structure ApprovedBaseline where
  approval : ApprovalRecord
  fieldPolicies : FieldPolicies

inductive Baseline where
  | candidate (baseline : CandidateBaseline)
  | approved (baseline : ApprovedBaseline)

def Baseline.state : Baseline → BaselineState
  | .candidate _ => .candidate
  | .approved _ => .approved

def Baseline.record : Baseline → Option ApprovalRecord
  | .candidate _ => none
  | .approved baseline => some baseline.approval

/-- `approveCandidate`: the reviewed document leaves its digest, and nothing else. -/
def approveCandidate (sha256 : String → String) (candidate : CandidateBaseline) (reviewedDocument : ConfigValue)
    (approval : Approval) : Except String ApprovedBaseline := do
  let reviewedDigest ← canonicalDigest sha256 reviewedDocument
  return {
    approval := {
      approvedBy := approval.approvedBy
      approvedAt := approval.approvedAt
      reviewedDigest
      note := approval.note }
    fieldPolicies := candidate.fieldPolicies }

/-! ## Documents -/

/-- `zTokenMode`. -/
inductive TokenMode where
  | canonicalErc20
  | native
  deriving DecidableEq, Repr

structure Asset where
  mode : TokenMode
  homeDecimals : Nat
  deriving DecidableEq, Repr

/-- A document as the schema leaves it; `rest` are the members that neither a rule nor a capability
reads: the contracts, the Teleporter addresses, the labels. -/
structure Document where
  manifest : Manifest
  asset : Asset
  baseline : Baseline
  rest : Json
  state : manifest.baseline = baseline.state

namespace Document

/-- The document loads: `checkManifestInvariants` finds nothing. -/
def Loads (d : Document) : Prop := checkManifestInvariants d.manifest = []

/-- All of the document outside `spec.baseline`. -/
def content (d : Document) : Manifest × Asset × Json :=
  ({ d.manifest with baseline := .candidate }, d.asset, d.rest)

/-- The document with another baseline. -/
def withBaseline (d : Document) (baseline : Baseline) : Document where
  manifest := { d.manifest with baseline := baseline.state }
  asset := d.asset
  baseline := baseline
  rest := d.rest
  state := rfl

theorem content_withBaseline (d : Document) (baseline : Baseline) : (d.withBaseline baseline).content = d.content := rfl

/-- No rule of the loader reads the baseline. -/
theorem loads_withBaseline (d : Document) (baseline : Baseline) : (d.withBaseline baseline).Loads ↔ d.Loads := Iff.rfl

theorem baseline_approved {d : Document} {record : ApprovalRecord} (h : d.baseline.record = some record) :
    d.manifest.baseline = .approved := by
  rw [d.state]
  cases hb : d.baseline with
  | candidate => rw [hb] at h; cases h
  | approved => rfl

end Document

/-! ## What opens replay -/

/-- Every chain lists an endpoint of full depth, and the census is complete. -/
structure Replayable (m : Manifest) : Prop where
  archive : ∀ side ∈ m.sides, ∃ e ∈ side.chain.endpoints, e.archiveDepth = .full
  census : m.censusCompleteness = .completeFromDeploymentBlock

instance (m : Manifest) : Decidable (Replayable m) :=
  decidable_of_iff ((∀ side ∈ m.sides, ∃ e ∈ side.chain.endpoints, e.archiveDepth = .full) ∧
    m.censusCompleteness = .completeFromDeploymentBlock) ⟨fun h => ⟨h.1, h.2⟩, fun h => ⟨h.archive, h.census⟩⟩

theorem mem_labelled {m : Manifest} {label : String} {chain : ChainIdentity} (h : (label, chain) ∈ m.labelled) :
    ∃ side ∈ m.sides, side.chain = chain := by
  rcases List.mem_cons.1 h with h | h
  · exact ⟨m.home, List.mem_cons_self, (Prod.mk.inj h).2.symm⟩
  · obtain ⟨r, hr, heq⟩ := List.mem_map.1 h
    exact ⟨r, List.mem_cons_of_mem _ hr, (Prod.mk.inj heq).2⟩

/-- On a chain that the loader accepts, only the depth of its endpoints can stand against replay. -/
theorem replayBlockers_eq_nil {path label : String} {chain : ChainIdentity} (h : chainIssues path chain = []) :
    replayBlockers label chain = [] ↔ ∃ e ∈ chain.endpoints, e.archiveDepth = .full := by
  unfold chainIssues at h
  simp only [List.append_eq_nil_iff, ite_eq_right_iff, List.cons_ne_nil, imp_false] at h
  obtain ⟨⟨⟨hanchor, -⟩, hdomains⟩, hfinality⟩ := h
  unfold replayBlockers
  rw [if_neg hanchor, if_neg hdomains, if_neg hfinality]
  simp

/-- Exact replay of an accepted manifest asks for the state of its baseline, and not for its record. -/
theorem exactReplay_iff {m : Manifest} (h : checkManifestInvariants m = []) :
    (exactReplayCapability m).enabled = true ↔ m.baseline = .approved ∧ Replayable m := by
  constructor
  · intro henabled
    obtain ⟨hbaseline, harchive⟩ := exactReplay_enabled henabled
    refine ⟨hbaseline, harchive, ?_⟩
    unfold exactReplayCapability at henabled
    simp only [List.isEmpty_iff, List.append_eq_nil_iff, ite_eq_right_iff, List.cons_ne_nil, imp_false] at henabled
    exact not_not.1 henabled.2
  · rintro ⟨hbaseline, hreplayable⟩
    have hblockers : ∀ labelled ∈ m.labelled, replayBlockers labelled.1 labelled.2 = [] := by
      rintro ⟨label, chain⟩ hmem
      obtain ⟨side, hside, rfl⟩ := mem_labelled hmem
      obtain ⟨path, hpath⟩ := mem_chains hside
      have hissues := h
      unfold checkManifestInvariants at hissues
      simp only [List.append_eq_nil_iff, List.flatMap_eq_nil_iff] at hissues
      exact (replayBlockers_eq_nil (hissues.1.1.1 _ hpath)).2 (hreplayable.archive side hside)
    unfold exactReplayCapability
    simp only [hbaseline, hreplayable.census, List.flatMap_eq_nil_iff.2 hblockers]
    rfl

/-- Every plain document can be reviewed for a promotion. -/
theorem approveCandidate_plain (sha256 : String → String) (candidate : CandidateBaseline) {reviewedDocument : ConfigValue}
    (h : PlainDocument reviewedDocument) (approval : Approval) :
    ∃ approved, approveCandidate sha256 candidate reviewedDocument approval = .ok approved ∧
      approved.approval.reviewedDigest = "sha256:" ++ sha256 (canonicalText reviewedDocument) := by
  unfold approveCandidate canonicalDigest
  rw [h.text]
  exact ⟨_, rfl, rfl⟩

/-- A promoted candidate opens replay whatever document was reviewed for it. -/
theorem approveCandidate_opens (sha256 : String → String) {d : Document} (h : d.Loads) (candidate : CandidateBaseline)
    {reviewedDocument : ConfigValue} (hplain : PlainDocument reviewedDocument) (approval : Approval) :
    ∃ approved, approveCandidate sha256 candidate reviewedDocument approval = .ok approved ∧
      ((exactReplayCapability (d.withBaseline (.approved approved)).manifest).enabled = true ↔ Replayable d.manifest) := by
  obtain ⟨approved, happroved, -⟩ := approveCandidate_plain sha256 candidate hplain approval
  have hloads : (d.withBaseline (.approved approved)).Loads := (d.loads_withBaseline _).2 h
  refine ⟨approved, happroved, ?_⟩
  rw [exactReplay_iff hloads]
  exact ⟨fun hready => ⟨hready.2.archive, hready.2.census⟩, fun hready => ⟨rfl, hready.archive, hready.census⟩⟩

/-! ## One record, two documents -/

/-- Two documents that load and carry one approval record, with different contents. -/
structure Transplant (d₁ d₂ : Document) : Prop where
  loads₁ : d₁.Loads
  loads₂ : d₂.Loads
  record : ∃ record, d₁.baseline.record = some record ∧ d₂.baseline.record = some record
  differ : d₁.content ≠ d₂.content

/-- The record of one promotion can be carried into any other document. -/
theorem promoted_transplant (sha256 : String → String) {d₁ d₂ : Document} (h₁ : d₁.Loads) (h₂ : d₂.Loads)
    (hdiffer : d₁.content ≠ d₂.content) (candidate : CandidateBaseline) {reviewedDocument : ConfigValue}
    (hplain : PlainDocument reviewedDocument) (approval : Approval) :
    ∃ approved, approveCandidate sha256 candidate reviewedDocument approval = .ok approved ∧
      Transplant (d₁.withBaseline (.approved approved)) (d₂.withBaseline (.approved approved)) := by
  obtain ⟨approved, happroved, -⟩ := approveCandidate_plain sha256 candidate hplain approval
  refine ⟨approved, happroved, (d₁.loads_withBaseline _).2 h₁, (d₂.loads_withBaseline _).2 h₂, ⟨_, rfl, rfl⟩, ?_⟩
  rwa [Document.content_withBaseline, Document.content_withBaseline]

/-- The record opens replay for one of the two contents at most. -/
def AtMostOneOpen (d₁ d₂ : Document) : Prop :=
  ¬ ((exactReplayCapability d₁.manifest).enabled = true ∧ (exactReplayCapability d₂.manifest).enabled = true)

/-- A transplanted record is kept from opening replay only by a content that could not be replayed anyway. -/
theorem transplant_closed_iff {d₁ d₂ : Document} (h : Transplant d₁ d₂) :
    AtMostOneOpen d₁ d₂ ↔ ¬ Replayable d₁.manifest ∨ ¬ Replayable d₂.manifest := by
  obtain ⟨record, hrecord₁, hrecord₂⟩ := h.record
  unfold AtMostOneOpen
  rw [exactReplay_iff h.loads₁, exactReplay_iff h.loads₂, ← not_and_or, not_iff_not]
  constructor
  · rintro ⟨⟨-, h₁⟩, -, h₂⟩
    exact ⟨h₁, h₂⟩
  · rintro ⟨h₁, h₂⟩
    exact ⟨⟨Document.baseline_approved hrecord₁, h₁⟩, Document.baseline_approved hrecord₂, h₂⟩

/-! ## An edited manifest -/

def reviewedEndpoint (id trustDomain : Slug) (secretRef : String) : Endpoint where
  id := id
  trustDomain := trustDomain
  providerGroup := trustDomain
  role := .primary
  secretRef := secretRef
  archiveDepth := .full

def reviewedChain (blockchainId : String) (evmChainId : Nat) (e₁ e₂ : Endpoint) : ChainIdentity where
  blockchainId := blockchainId
  evmChainId := evmChainId
  networkId := 1
  subnetId := "0x" ++ "".pushn '9' 64
  genesisHash := some ("0x" ++ "".pushn '1' 64)
  trustedCheckpoint := none
  finality := { mode := .acceptedQuorum, acceptedStateQueries := .acceptedOnly, maxLagSeconds := 60 }
  endpoints := [e₁, e₂]
  independentTrustDomains := 2
  endpoints_bounds := ⟨Nat.le_add_left 1 1, Nat.le_add_left 2 6⟩
  quorum_bounds := two_quorum_bounds

/-- A deployment with one remote; the block its remote contract is said to be deployed in varies. -/
def reviewedManifest (remoteDeploymentBlock : Nat) (baseline : BaselineState) : Manifest where
  name := ⟨"bridge", isSlug_bridge⟩
  home := {
    name := ⟨"home", isSlug_home⟩
    chain := reviewedChain ("0x" ++ "".pushn '2' 64) 43114
      (reviewedEndpoint ⟨"node-a", isSlug_nodeA⟩ ⟨"cloud-a", isSlug_cloudA⟩ "ICTT_SENTINEL_RPC_A")
      (reviewedEndpoint ⟨"node-b", isSlug_nodeB⟩ ⟨"cloud-b", isSlug_cloudB⟩ "ICTT_SENTINEL_RPC_B")
    deploymentBlock := 100 }
  remotes := [{
    name := ⟨"remote", isSlug_remote⟩
    chain := reviewedChain ("0x" ++ "".pushn '3' 64) 43113
      (reviewedEndpoint ⟨"node-c", isSlug_nodeC⟩ ⟨"cloud-a", isSlug_cloudA⟩ "ICTT_SENTINEL_RPC_C")
      (reviewedEndpoint ⟨"node-d", by decide⟩ ⟨"cloud-b", isSlug_cloudB⟩ "ICTT_SENTINEL_RPC_D")
    deploymentBlock := remoteDeploymentBlock }]
  censusFromBlock := 100
  censusCompleteness := .completeFromDeploymentBlock
  baseline := baseline
  remotes_bounds := ⟨le_refl 1, Nat.le_add_left 1 31⟩

def reviewedDocument (remoteDeploymentBlock : Nat) : Document where
  manifest := reviewedManifest remoteDeploymentBlock .approved
  asset := { mode := .canonicalErc20, homeDecimals := 18 }
  baseline := .approved {
    approval := {
      approvedBy := "Operator Security Review"
      approvedAt := "2026-08-31T00:00:00Z"
      reviewedDigest := "sha256:" ++ "".pushn '0' 64
      note := none }
    fieldPolicies := fun _ => .locked }
  rest := .obj []
  state := rfl

theorem reviewedDocument_loads : (reviewedDocument 200).Loads ∧ (reviewedDocument 300).Loads := by
  constructor
  · show checkManifestInvariants _ = []
    decide +kernel
  · show checkManifestInvariants _ = []
    decide +kernel

theorem reviewedDocument_differ : (reviewedDocument 200).content ≠ (reviewedDocument 300).content := by
  intro h
  have hblocks : [200] = [300] := congrArg (fun content => content.1.remotes.map (·.deploymentBlock)) h
  exact absurd hblocks (by decide)

theorem reviewedDocument_transplant : Transplant (reviewedDocument 200) (reviewedDocument 300) where
  loads₁ := reviewedDocument_loads.1
  loads₂ := reviewedDocument_loads.2
  record := ⟨_, rfl, rfl⟩
  differ := reviewedDocument_differ

/-- Before and after the edit the manifest can be replayed, so nothing keeps the record closed. -/
theorem transplant_closed_iff_sample :
    AtMostOneOpen (reviewedDocument 200) (reviewedDocument 300) ↔
      ¬ Replayable (reviewedDocument 200).manifest ∨ ¬ Replayable (reviewedDocument 300).manifest :=
  transplant_closed_iff reviewedDocument_transplant

/-- The record that the promotion of one document leaves is carried into another, and both stay open: the remote's
deployment block is edited after the review. -/
theorem transplant_opens : ¬ ∀ (sha256 : String → String) (candidate : CandidateBaseline) (reviewed : ConfigValue)
    (approval : Approval) (approved : ApprovedBaseline) (d₁ d₂ : Document),
    approveCandidate sha256 candidate reviewed approval = .ok approved →
      Transplant (d₁.withBaseline (.approved approved)) (d₂.withBaseline (.approved approved)) →
        AtMostOneOpen (d₁.withBaseline (.approved approved)) (d₂.withBaseline (.approved approved)) := by
  intro hclaim
  let candidate : CandidateBaseline := ⟨⟨"2026-08-30T00:00:00Z", "ictt-sentinel", 100⟩, fun _ => .locked⟩
  let approval : Approval := ⟨"Operator Security Review", "2026-08-31T00:00:00Z", none⟩
  have hplain : PlainDocument (.obj [("metadata", .obj [("name", .str "bridge")])]) := by
    refine .obj (by decide) fun e he => ?_
    rw [List.mem_singleton.1 he]
    refine .obj (by decide) fun e he => ?_
    rw [List.mem_singleton.1 he]
    exact .str _
  obtain ⟨hloads₁, hloads₂⟩ := reviewedDocument_loads
  obtain ⟨approved, happroved, htransplant⟩ := promoted_transplant id hloads₁ hloads₂ reviewedDocument_differ candidate
    hplain approval
  obtain ⟨_, hagain₁, hopen₁⟩ := approveCandidate_opens id hloads₁ candidate hplain approval
  obtain ⟨_, hagain₂, hopen₂⟩ := approveCandidate_opens id hloads₂ candidate hplain approval
  cases happroved.symm.trans hagain₁
  cases happroved.symm.trans hagain₂
  exact hclaim id candidate _ approval approved _ _ happroved htransplant
    ⟨hopen₁.2 (by decide +kernel), hopen₂.2 (by decide +kernel)⟩

end IcttSentinel.Config
