/-
The manifest and the policy of packages/config, as the schemas leave them, with the rules that no
schema can express: `checkManifestInvariants` and `assertManifestMeetsPolicy` of load.ts, and
`exactReplayCapability` of baseline.ts.
-/
import Mathlib.Tactic

namespace IcttSentinel.Config

/-! ## Documents -/

def isSlugLetter (c : Char) : Bool := c.isLower || c.isDigit

/-- `zSlug`, `^[a-z0-9][a-z0-9-]{0,62}[a-z0-9]$`. -/
def isSlug (s : String) : Bool :=
  match s.toList with
  | [] => false
  | c :: cs => isSlugLetter c && cs.getLast?.any isSlugLetter && decide (cs.length ≤ 63) &&
      cs.all fun c => isSlugLetter c || c = '-'

abbrev Slug := { s : String // isSlug s = true }

/-! What the samples are made of. -/

theorem isSlug_bridge : isSlug "bridge" = true := by decide
theorem isSlug_home : isSlug "home" = true := by decide
theorem isSlug_remote : isSlug "remote" = true := by decide
theorem isSlug_nodeA : isSlug "node-a" = true := by decide
theorem isSlug_nodeB : isSlug "node-b" = true := by decide
theorem isSlug_nodeC : isSlug "node-c" = true := by decide
theorem isSlug_cloudA : isSlug "cloud-a" = true := by decide
theorem isSlug_cloudB : isSlug "cloud-b" = true := by decide
theorem two_quorum_bounds : 2 ≤ 2 ∧ 2 ≤ 8 := by decide

inductive EndpointRole where
  | primary
  | secondary
  | archive
  deriving DecidableEq, Repr

inductive ArchiveDepth where
  | full
  | pruned
  | unknown
  deriving DecidableEq, Repr

/-- `zEndpoint`: no URL, only the name of the variable that holds it. -/
structure Endpoint where
  id : Slug
  trustDomain : Slug
  providerGroup : Slug
  role : EndpointRole
  secretRef : String
  archiveDepth : ArchiveDepth
  deriving DecidableEq, Repr

inductive FinalityMode where
  | acceptedQuorum
  | settledQuorum
  deriving DecidableEq, Repr

def FinalityMode.text : FinalityMode → String
  | .acceptedQuorum => "accepted-quorum"
  | .settledQuorum => "settled-quorum"

inductive AcceptedStateQueries where
  | acceptedOnly
  | mayIncludeUnfinalized
  | unknown
  deriving DecidableEq, Repr

structure Finality where
  mode : FinalityMode
  acceptedStateQueries : AcceptedStateQueries
  maxLagSeconds : Nat
  deriving DecidableEq, Repr

structure TrustedCheckpoint where
  blockNumber : Nat
  blockHash : String
  deriving DecidableEq, Repr

/-- `zChainIdentity`, with the bounds of its endpoints and of its quorum. -/
structure ChainIdentity where
  blockchainId : String
  evmChainId : Nat
  networkId : Nat
  subnetId : String
  genesisHash : Option String
  trustedCheckpoint : Option TrustedCheckpoint
  finality : Finality
  endpoints : List Endpoint
  independentTrustDomains : Nat
  endpoints_bounds : 1 ≤ endpoints.length ∧ endpoints.length ≤ 8
  quorum_bounds : 2 ≤ independentTrustDomains ∧ independentTrustDomains ≤ 8

/-- `zHome` and `zRemote`: a named chain, and the block its contract was deployed in. -/
structure Side where
  name : Slug
  chain : ChainIdentity
  deploymentBlock : Nat

inductive CensusCompleteness where
  | completeFromDeploymentBlock
  | incomplete
  | unknown
  deriving DecidableEq, Repr

inductive BaselineState where
  | candidate
  | approved
  deriving DecidableEq, Repr

structure Manifest where
  name : Slug
  home : Side
  remotes : List Side
  censusFromBlock : Nat
  censusCompleteness : CensusCompleteness
  baseline : BaselineState
  remotes_bounds : 1 ≤ remotes.length ∧ remotes.length ≤ 32

structure Policy where
  minIndependentTrustDomains : Nat
  maxAgeSeconds : Nat
  expiresAfterSeconds : Nat
  maxRetries : Nat
  maxLogRangeBlocks : Nat
  quorum_bounds : 2 ≤ minIndependentTrustDomains ∧ minIndependentTrustDomains ≤ 8

/-- The sides of a manifest: its home and its remotes. -/
def Manifest.sides (m : Manifest) : List Side := m.home :: m.remotes

/-- The paths of the chains, in the order they are checked. -/
def Manifest.chains (m : Manifest) : List (String × ChainIdentity) :=
  ("spec.home.chain", m.home.chain) ::
    m.remotes.mapIdx fun i r => ("spec.remotes[" ++ toString i ++ "].chain", r.chain)

/-- The labels of the chains in a capability. -/
def Manifest.labelled (m : Manifest) : List (String × ChainIdentity) :=
  ("home", m.home.chain) :: m.remotes.map fun r => ("remote:" ++ r.name.val, r.chain)

/-- `domains.size`: distinct trust domains, never URLs. -/
def distinctTrustDomains (chain : ChainIdentity) : Nat := (chain.endpoints.map (·.trustDomain)).dedup.length

/-! ## Load-time rules -/

inductive ConfigErrorCode where
  | yamlSyntax
  | yamlUnresolvedTag
  | yamlAliasForbidden
  | yamlMergeKeyForbidden
  | yamlTooLarge
  | yamlTooDeep
  | yamlNotAMapping
  | inlineSecret
  | forbiddenField
  | unknownApiVersion
  | unsupportedApiVersion
  | schema
  | duplicateEndpoint
  | fakeQuorum
  deriving DecidableEq, Repr

structure ConfigIssue where
  code : ConfigErrorCode
  path : String
  message : String
  deriving DecidableEq, Repr

/-- The loop over the endpoints of a chain; `seen` are those before. -/
def endpointIssues (path : String) (seen : List Endpoint) : List Endpoint → List ConfigIssue
  | [] => []
  | ep :: rest =>
    let epPath := path ++ ".endpoints[" ++ toString seen.length ++ "]"
    (if ep.id ∈ seen.map (·.id) then
      [{ code := .duplicateEndpoint
         path := epPath
         message := "endpoint id \"" ++ ep.id.val ++ "\" is used more than once" }]
    else []) ++
    (if ep.secretRef ∈ seen.map (·.secretRef) then
      [{ code := .duplicateEndpoint
         path := epPath ++ ".secretRef"
         message := "secretRef \"" ++ ep.secretRef ++ "\" is used by more than one endpoint on this chain" }]
    else []) ++
    endpointIssues path (seen ++ [ep]) rest

/-- The rules of one chain. -/
def chainIssues (path : String) (chain : ChainIdentity) : List ConfigIssue :=
  (if chain.genesisHash.isNone && chain.trustedCheckpoint.isNone then
    [{ code := .schema
       path
       message := "requires either genesisHash or trustedCheckpoint to anchor chain identity" }]
  else []) ++
  endpointIssues path [] chain.endpoints ++
  (if distinctTrustDomains chain < chain.independentTrustDomains then
    [{ code := .fakeQuorum
       path := path ++ ".endpoints"
       message := "declares a quorum of " ++ toString chain.independentTrustDomains ++
         " independent trust domains but only " ++ toString (distinctTrustDomains chain) ++
         " distinct trustDomain value(s) are configured" }]
  else []) ++
  (if chain.finality.mode = .acceptedQuorum ∧ chain.finality.acceptedStateQueries ≠ .acceptedOnly then
    [{ code := .schema
       path := path ++ ".finality.acceptedStateQueries"
       message := "accepted-quorum finality requires endpoints that answer from accepted state only" }]
  else [])

/-- The loop over the blockchain ids; `seen` are the chains before, the latest first. -/
def blockchainIdIssues (seen : List (String × ChainIdentity)) : List (String × ChainIdentity) → List ConfigIssue
  | [] => []
  | (path, chain) :: rest =>
    (match seen.find? fun prior => prior.2.blockchainId = chain.blockchainId with
      | some prior =>
        [{ code := .schema
           path := path ++ ".blockchainId"
           message := "duplicates the blockchainId declared at " ++ prior.1 }]
      | none => []) ++
    blockchainIdIssues ((path, chain) :: seen) rest

/-- `checkManifestInvariants`. -/
def checkManifestInvariants (m : Manifest) : List ConfigIssue :=
  m.chains.flatMap (fun (path, chain) => chainIssues path chain) ++
  (if m.censusFromBlock > m.home.deploymentBlock then
    [{ code := .schema
       path := "spec.census.fromBlock"
       message := "must not start after the TokenHome deployment block, or registrations would be missed" }]
  else []) ++
  m.chains.flatMap (fun (path, chain) =>
    if chain.blockchainId = chain.subnetId then
      [{ code := .schema
         path := path ++ ".subnetId"
         message := "must not equal blockchainId; they identify different things" }]
    else []) ++
  blockchainIdIssues [] m.chains

/-- `assertManifestMeetsPolicy`: the issues it throws. -/
def manifestPolicyIssues (m : Manifest) (policy : Policy) : List ConfigIssue :=
  (m.chains.filter fun (_, chain) => distinctTrustDomains chain < policy.minIndependentTrustDomains).map
    fun (path, chain) =>
      { code := .fakeQuorum
        path := path ++ ".endpoints"
        message := "policy requires " ++ toString policy.minIndependentTrustDomains ++
          " independent trust domains but only " ++ toString (distinctTrustDomains chain) ++ " are configured" }

/-- The manifest and the policy load, and meet. -/
structure Accepted (m : Manifest) (policy : Policy) : Prop where
  invariants : checkManifestInvariants m = []
  meets : manifestPolicyIssues m policy = []

instance (m : Manifest) (policy : Policy) : Decidable (Accepted m policy) :=
  decidable_of_iff (checkManifestInvariants m = [] ∧ manifestPolicyIssues m policy = [])
    ⟨fun h => ⟨h.1, h.2⟩, fun h => ⟨h.invariants, h.meets⟩⟩

/-! ## Exact replay -/

structure Capability where
  enabled : Bool
  blockedBy : List String

/-- What stands against exact replay on one chain. -/
def replayBlockers (label : String) (chain : ChainIdentity) : List String :=
  (if chain.genesisHash.isNone && chain.trustedCheckpoint.isNone then
    [label ++ ": chain identity is not anchored (no genesisHash or trustedCheckpoint)"] else []) ++
  (if chain.finality.mode = .acceptedQuorum ∧ chain.finality.acceptedStateQueries ≠ .acceptedOnly then
    [label ++ ": endpoints are not asserted to answer from accepted state only"] else []) ++
  (if distinctTrustDomains chain < chain.independentTrustDomains then
    [label ++ ": fewer independent trust domains than the declared quorum"] else []) ++
  (if !chain.endpoints.any (·.archiveDepth = .full) then
    [label ++ ": no endpoint declares full archive depth, so historical replay may gap"] else [])

def exactReplayCapability (m : Manifest) : Capability :=
  let blockedBy :=
    (if m.baseline = .candidate then
      ["baseline is a candidate discovery and has not been approved by an operator"] else []) ++
    m.labelled.flatMap (fun (label, chain) => replayBlockers label chain) ++
    (if m.censusCompleteness ≠ .completeFromDeploymentBlock then
      ["census completeness is not established from the TokenHome deployment block"] else [])
  { enabled := blockedBy.isEmpty, blockedBy }

/-! ## What is accepted -/

/-- A slug has no separator of a joined key. -/
theorem plus_notMem_slug (s : Slug) : '+' ∉ s.val.toList := by
  have hslug := s.2
  unfold isSlug at hslug
  cases hs : s.val.toList with
  | nil => exact List.not_mem_nil
  | cons c cs =>
    simp only [hs, Bool.and_eq_true, List.all_eq_true] at hslug
    obtain ⟨⟨⟨hc, -⟩, -⟩, hcs⟩ := hslug
    rw [List.mem_cons, not_or]
    constructor
    · rintro rfl
      exact absurd hc (by decide)
    · exact fun hmem => absurd (hcs _ hmem) (by decide)

theorem endpointIssues_eq_nil {path : String} {seen endpoints : List Endpoint}
    (hids : (seen.map (·.id)).Nodup) (hrefs : (seen.map (·.secretRef)).Nodup)
    (h : endpointIssues path seen endpoints = []) :
    ((seen ++ endpoints).map (·.id)).Nodup ∧ ((seen ++ endpoints).map (·.secretRef)).Nodup := by
  induction endpoints generalizing seen with
  | nil => simpa using ⟨hids, hrefs⟩
  | cons ep rest ih =>
    unfold endpointIssues at h
    simp only [List.append_eq_nil_iff, ite_eq_right_iff, List.cons_ne_nil, imp_false] at h
    obtain ⟨⟨hid, href⟩, hrest⟩ := h
    rw [List.append_cons]
    apply ih _ _ hrest
    · rw [List.map_append, List.map_singleton, List.nodup_append']
      exact ⟨hids, List.nodup_singleton _, by simpa using hid⟩
    · rw [List.map_append, List.map_singleton, List.nodup_append']
      exact ⟨hrefs, List.nodup_singleton _, by simpa using href⟩

/-- The loop finds nothing from its start only if no two endpoints share an id or a secret reference. -/
theorem distinct_of_endpointIssues {path : String} {endpoints : List Endpoint} (h : endpointIssues path [] endpoints = []) :
    (endpoints.map (·.id)).Nodup ∧ (endpoints.map (·.secretRef)).Nodup := by
  have hnone : (([] : List Endpoint).map (·.id)).Nodup ∧ (([] : List Endpoint).map (·.secretRef)).Nodup :=
    ⟨List.nodup_nil, List.nodup_nil⟩
  exact endpointIssues_eq_nil hnone.1 hnone.2 h

theorem mem_chains {m : Manifest} {side : Side} (h : side ∈ m.sides) :
    ∃ path, (path, side.chain) ∈ m.chains := by
  rcases List.mem_cons.1 h with rfl | h
  · exact ⟨_, List.mem_cons_self⟩
  · obtain ⟨i, hi, rfl⟩ := List.mem_iff_getElem.1 h
    exact ⟨_, List.mem_cons_of_mem _ (List.mem_mapIdx.2 ⟨i, hi, rfl⟩)⟩

/-- No two endpoints of a chain share an id or a secret reference. -/
theorem endpoints_distinct {m : Manifest} (h : checkManifestInvariants m = []) {side : Side} (hside : side ∈ m.sides) :
    (side.chain.endpoints.map (·.id)).Nodup ∧ (side.chain.endpoints.map (·.secretRef)).Nodup := by
  obtain ⟨path, hmem⟩ := mem_chains hside
  have hissues := h
  unfold checkManifestInvariants at hissues
  simp only [List.append_eq_nil_iff, List.flatMap_eq_nil_iff] at hissues
  have hchain := hissues.1.1.1 _ hmem
  unfold chainIssues at hchain
  simp only [List.append_eq_nil_iff] at hchain
  exact distinct_of_endpointIssues hchain.1.1.2

theorem Accepted.endpoints {m : Manifest} {policy : Policy} (h : Accepted m policy) {side : Side} (hside : side ∈ m.sides) :
    (side.chain.endpoints.map (·.id)).Nodup ∧ (side.chain.endpoints.map (·.secretRef)).Nodup :=
  endpoints_distinct h.invariants hside

/-- Where exact replay is enabled, the baseline is approved and every chain declares full archive depth. -/
theorem exactReplay_enabled {m : Manifest} (h : (exactReplayCapability m).enabled = true) :
    m.baseline = .approved ∧ ∀ side ∈ m.sides, ∃ e ∈ side.chain.endpoints, e.archiveDepth = .full := by
  unfold exactReplayCapability at h
  simp only [List.isEmpty_iff, List.append_eq_nil_iff, List.flatMap_eq_nil_iff] at h
  obtain ⟨⟨hbaseline, hchains⟩, -⟩ := h
  constructor
  · cases hstate : m.baseline with
    | candidate => simp [hstate] at hbaseline
    | approved => rfl
  · intro side hside
    obtain ⟨label, hmem⟩ : ∃ label, (label, side.chain) ∈ m.labelled := by
      rcases List.mem_cons.1 hside with rfl | hside
      · exact ⟨_, List.mem_cons_self⟩
      · exact ⟨_, List.mem_cons_of_mem _ (List.mem_map.2 ⟨side, hside, rfl⟩)⟩
    have hblockers := hchains _ hmem
    unfold replayBlockers at hblockers
    simp only [List.append_eq_nil_iff] at hblockers
    have hfull := hblockers.2
    simpa using hfull

end IcttSentinel.Config
