/-
From an accepted configuration to an agreement: how many witnesses the endpoints of a chain make, what
they collect when all endpoints observe the same, and when that is agreed on. Loading counts trust domains
and asks for full archive depth; agreeing counts what neither a domain nor a provider connects, and asks
for the archive role as well.
-/
import IcttSentinel.Agent.Witnesses

namespace IcttSentinel.Agent

open IcttSentinel.Config IcttSentinel.Lib IcttSentinel.Replay IcttSentinel.RpcQuorum IcttSentinel.Storage

/-! ## Witnesses -/

section Witnesses

variable {endpoints : List Endpoint} {hostnameOf : Endpoint → Option String}

/-- No host is known to serve two endpoints of different trust domains. -/
def Uncorrelated (endpoints : List Endpoint) (hostnameOf : Endpoint → Option String) : Prop :=
  ∀ a ∈ endpoints, ∀ b ∈ endpoints, a.trustDomain ≠ b.trustDomain → (hostnameOf a).isSome = true →
    hostnameOf a ≠ hostnameOf b

/-- Then nothing but the claims connects two endpoints, since no two share a secret reference either. -/
theorem Uncorrelated.sharesUpstream_iff (h : Uncorrelated endpoints hostnameOf) (hrefs : (endpoints.map (·.secretRef)).Nodup)
    {a b : Endpoint} (ha : a ∈ endpoints) (hb : b ∈ endpoints) : SharesUpstream hostnameOf a b ↔ Linked endpointClaim a b := by
  constructor
  · rintro (hdomain | hprovider | href | ⟨host, hhost, hhost'⟩)
    · exact Or.inl (congrArg Subtype.val hdomain)
    · exact Or.inr (congrArg Subtype.val hprovider)
    · rw [List.inj_on_of_nodup_map hrefs ha hb href]
      exact Linked.refl endpointClaim b
    · by_contra hunlinked
      have hdomain : a.trustDomain ≠ b.trustDomain := fun heq => hunlinked (Or.inl (congrArg Subtype.val heq))
      exact h a ha b hb hdomain (by rw [hhost]; rfl) (hhost.trans hhost'.symm)
  · exact sharesUpstream_of_linked

/-- The groups are then the failure domains that the endpoints claim. -/
theorem witnessGroups_claimed (hids : (endpoints.map (·.id)).Nodup) (hrefs : (endpoints.map (·.secretRef)).Nodup)
    (h : Uncorrelated endpoints hostnameOf) :
    Components (Linked endpointClaim) endpoints (witnessGroups endpoints hostnameOf) :=
  (witnessGroups_components hids).congr fun _ ha _ hb => h.sharesUpstream_iff hrefs ha hb

end Witnesses

/-! ## Collecting -/

section Collect

variable {sha256 : String → String} {options : LogSourceOptions} {wiring : ChainWiring} {chainKey : String}
  {o : RangeObservation} {observedAt : Int}

/-- One endpoint, asked alone. -/
def askEndpoint (options : LogSourceOptions) (clock : Nat) (e : Endpoint) (op : ReadOperation) : Except SourceError Json :=
  (options.read clock e op).mapError .other

/-- Every endpoint of the chain, asked alone and at any time, gives the one observation. -/
def AllObserve (options : LogSourceOptions) (wiring : ChainWiring) (chainKey : String) (o : RangeObservation)
    (observedAt : Int) : Prop :=
  ∀ clock, ∀ e ∈ wiring.endpoints, observe (askEndpoint options clock e) chainKey wiring.maxRangeBlocks o.providerGroup
    o.range observedAt o.viaArchive = .ok (.ok o)

/-- A witness observes what its first endpoint does. -/
theorem readOne_of_askEndpoint {clock : Nat} {e : Endpoint} {rest : List Endpoint} {op : ReadOperation}
    {lastError : SourceError} {value : Json} (h : askEndpoint options clock e op = .ok value) :
    readOne (options.read clock) op lastError (e :: rest) = .ok value := by
  unfold askEndpoint at h
  unfold readOne
  cases hread : options.read clock e op with
  | error message =>
    rw [hread] at h
    cases h
  | ok value' =>
    rw [hread] at h
    cases h
    rfl

/-- Each witness of the chain fetches the observation under its own label. -/
theorem fetchRange_witness (hwiring : wiringAt options chainKey = some wiring) (hsame : AllObserve options wiring chainKey o observedAt)
    {row : String × List Endpoint} (hrow : row ∈ witnessesAt options chainKey) (hne : row.2 ≠ [])
    (hsub : ∀ e ∈ row.2, e ∈ wiring.endpoints) (clock : Nat) :
    fetchRange options clock chainKey row.1 o.range =
      .ok (relabel o row.1 (options.now clock) (row.2.any fun e => decide (e.archiveDepth = .full))) := by
  obtain ⟨key, group⟩ := row
  have hendpoints : endpointsOf options chainKey key = group := endpointsOf_witness hwiring hrow
  cases group with
  | nil => exact absurd rfl hne
  | cons e rest =>
    have hone := observe_relabel (hsame clock e (hsub e List.mem_cons_self)) key (options.now clock)
      ((e :: rest).any fun e => decide (e.archiveDepth = .full))
    have hasked : ∀ op v, askEndpoint options clock e op = .ok v → readGroup options clock chainKey key op = .ok v := by
      intro op v hv
      unfold readGroup
      rw [hendpoints]
      exact readOne_of_askEndpoint hv
    unfold fetchRange
    rw [hwiring, hendpoints]
    dsimp only [Option.map_some, Option.getD_some]
    rw [observe_of_imp hasked hone]

/-- Asking some witnesses of the chain collects one answer of each, all with the digest of the observation. -/
theorem askGroups_witnesses {config : ReplayConfig} (hconfig : config.chainKey = chainKey)
    (hwiring : wiringAt options chainKey = some wiring) (hsame : AllObserve options wiring chainKey o observedAt)
    {r : RangeResult} (hcomplete : classifyObservation sha256 o = .ok r) {rows : List (String × List Endpoint)}
    (hrows : ∀ row ∈ rows, row ∈ witnessesAt options chainKey) (hne : ∀ row ∈ rows, row.2 ≠ [])
    (hsub : ∀ row ∈ rows, ∀ e ∈ row.2, e ∈ wiring.endpoints) (clock : Nat) (results : List RangeResult) :
    ∃ answers clock', askGroups sha256 (createLogSource options) config o.range (rows.map (·.1)) clock results =
        .ok (.results (results ++ answers), clock') ∧
      answers.map (·.providerGroup) = rows.map (·.1) ∧ (∀ r ∈ answers, r.digest = rangeDigest sha256 o) ∧
      answers.map (·.viaArchive) = rows.map fun row => row.2.any fun e => decide (e.archiveDepth = .full) := by
  induction rows generalizing clock results with
  | nil => exact ⟨[], clock, by rw [List.append_nil]; rfl, rfl, fun r hr => absurd hr List.not_mem_nil, rfl⟩
  | cons row rows ih =>
    -- the group answers with the common observation under its own name and time
    let answer : RangeObservation :=
      relabel o row.1 (options.now clock) (row.2.any fun e => decide (e.archiveDepth = .full))
    have hfetch : (createLogSource options).fetchRange clock config.chainKey row.1 o.range = .ok (.ok answer) := by
      rw [hconfig]
      exact congrArg Except.ok (fetchRange_witness hwiring hsame (hrows row List.mem_cons_self)
        (hne row List.mem_cons_self) (hsub row List.mem_cons_self) clock)
    have hclassified : classifyObservation sha256 answer = .ok (resultOf sha256 answer) :=
      classifyObservation_relabel hcomplete
    obtain ⟨answers, clock', hrest, hgroups, hdigests, harchive⟩ := ih (fun row h => hrows row (List.mem_cons_of_mem _ h))
      (fun row h => hne row (List.mem_cons_of_mem _ h)) (fun row h => hsub row (List.mem_cons_of_mem _ h)) (clock + 1)
      (results ++ [resultOf sha256 answer])
    refine ⟨resultOf sha256 answer :: answers, clock', ?_, ?_, ?_, ?_⟩
    · rw [List.map_cons]
      unfold askGroups
      rw [hfetch]
      dsimp only
      rw [hclassified]
      dsimp only
      rw [hrest, List.append_assoc, List.singleton_append]
    · rw [List.map_cons, List.map_cons, hgroups]
      rfl
    · intro r hr
      rcases List.mem_cons.1 hr with rfl | hr
      · exact rangeDigest_relabel
      · exact hdigests r hr
    · rw [List.map_cons, List.map_cons, harchive]
      rfl

end Collect

/-! ## What the configuration allows -/

/-- So many endpoints that no chain of shared trust domains and providers connects. -/
def ApartEndpoints (n : Nat) (endpoints : List Endpoint) : Prop :=
  ∃ apart : List Endpoint, apart.length = n ∧ (∀ e ∈ apart, e ∈ endpoints) ∧
    apart.Pairwise fun a b => ¬ Connected (Linked endpointClaim) endpoints a b

section Configured

variable {sha256 : String → String} {m : Manifest} {policy : Policy} {plan : WatchPlan} {options : LogSourceOptions}
  {side wired : Side}

/-- The log source keeps the last side of a name. -/
theorem wiringAt_side (hchains : options.chains = m.sides.map (wiringOf m policy))
    (hwired : (m.sides.filter (·.name = side.name)).getLast? = some wired) :
    wiringAt options (chainKeyOf m.name.val side.name.val) = some (wiringOf m policy wired) := by
  have hkeys : ((fun w : ChainWiring => decide (w.chainKey = chainKeyOf m.name.val side.name.val)) ∘ wiringOf m policy) =
      fun s : Side => decide (s.name = side.name) := by
    funext s
    rw [Function.comp_apply, decide_eq_decide]
    constructor
    · intro hkey
      have hname : s.name.val = side.name.val := String.append_right_inj _ |>.1 hkey
      exact Subtype.ext hname
    · intro hname
      unfold wiringOf
      rw [hname]
  unfold wiringAt
  rw [hchains, List.filter_map, hkeys, List.getLast?_map, hwired]
  rfl

/-- Where all endpoints of a chain observe the same, its witnesses agree exactly when enough of its endpoints
are apart, and one of full depth has the archive role. -/
theorem agreed_iff_configured (haccepted : Accepted m policy) (hexact : (exactReplayCapability m).enabled = true)
    (hplan : buildWatchPlan m policy = .ok plan) (hchains : options.chains = plan.chains) (hside : side ∈ m.sides)
    (hwired : (m.sides.filter (·.name = side.name)).getLast? = some wired)
    (huncorrelated : Uncorrelated wired.chain.endpoints options.hostnameOf) {o : RangeObservation} {observedAt : Int}
    (hsame : AllObserve options (wiringOf m policy wired) (chainKeyOf m.name.val side.name.val) o observedAt)
    {r : RangeResult} (hcomplete : classifyObservation sha256 o = .ok r) (clock : Nat) :
    chainPlanOf m policy side ∈ plan.deployment.chains ∧
      ∃ results clock', askGroups sha256 (createLogSource options) (chainPlanOf m policy side).config o.range
        ((createLogSource options).providerGroups clock (chainKeyOf m.name.val side.name.val)) clock [] =
        .ok (.results results, clock') ∧
      ((∃ digest witnesses, agree results (chainPlanOf m policy side).config.agreement = .agreed digest witnesses) ↔
        ApartEndpoints (max policy.minIndependentTrustDomains side.chain.independentTrustDomains) wired.chain.endpoints ∧
          ∃ e ∈ side.chain.endpoints, e.archiveDepth = .full ∧ e.role = .archive) := by
  have hmem : wired ∈ m.sides := List.mem_of_mem_filter (List.mem_of_getLast? hwired)
  obtain ⟨hids, hrefs⟩ := haccepted.endpoints hmem
  have hwiring : wiringAt options (chainKeyOf m.name.val side.name.val) = some (wiringOf m policy wired) :=
    wiringAt_side (hchains.trans (buildWatchPlan_ok hplan).1) hwired
  have hcomponents := witnessGroups_claimed hids hrefs huncorrelated
  have hrows : witnessesAt options (chainKeyOf m.name.val side.name.val) =
      (witnessGroups wired.chain.endpoints options.hostnameOf).map fun group => (witnessKey group, group) := by
    unfold witnessesAt
    rw [hwiring]
    exact rows_byWitness hids
  -- each witness answers for a group of its own, so counting answers counts components
  have hkeys : ((witnessesAt options (chainKeyOf m.name.val side.name.val)).map (·.1)).Nodup := by
    unfold witnessesAt
    rw [hwiring]
    exact (byWitness _ _).nodup
  have hgroup : ∀ row ∈ witnessesAt options (chainKeyOf m.name.val side.name.val),
      row.2 ∈ witnessGroups wired.chain.endpoints options.hostnameOf := by
    intro row hrow
    rw [hrows] at hrow
    obtain ⟨group, hgroup, rfl⟩ := List.mem_map.1 hrow
    exact hgroup
  have hconfig : (chainPlanOf m policy side).config.chainKey = chainKeyOf m.name.val side.name.val := rfl
  obtain ⟨results, clock', hasked, hgroups, hdigests, harchive⟩ :=
    askGroups_witnesses hconfig hwiring hsame hcomplete (fun row h => h)
      (fun row hrow => hcomponents.nonempty row.2 (hgroup row hrow))
      (fun row hrow e he => hcomponents.mem (hgroup row hrow) he) clock []
  refine ⟨(buildWatchPlan_ok hplan).2 ▸ List.mem_map_of_mem hside, results, clock', hasked, ?_⟩
  -- a chain has an endpoint of full depth, and so a witness that counts as an archive
  obtain ⟨full, hfull, hdepth⟩ := (exactReplay_enabled hexact).2 wired hmem
  obtain ⟨group, hfullgroup, hin⟩ := hcomponents.exists_mem hfull
  have hvia : ∃ r ∈ results, r.viaArchive = true := by
    have hmap : true ∈ results.map (·.viaArchive) := by
      rw [harchive, hrows, List.map_map]
      exact List.mem_map.2 ⟨group, hfullgroup, List.any_eq_true.2 ⟨full, hin, decide_eq_true hdepth⟩⟩
    exact List.mem_map.1 hmap
  have hne : results ≠ [] := by
    obtain ⟨r, hr, -⟩ := hvia
    exact List.ne_nil_of_mem hr
  have hcount : (independentGroups results).length = (witnessGroups wired.chain.endpoints options.hostnameOf).length := by
    unfold independentGroups
    rw [hgroups, eraseDups_of_nodup hkeys, List.length_map, hrows, List.length_map]
  have hdeclared : (agreementOf policy side).archiveFallbackDeclared = true ↔
      ∃ e ∈ side.chain.endpoints, e.archiveDepth = .full ∧ e.role = .archive := by
    unfold agreementOf
    simp only [List.any_eq_true, Bool.and_eq_true, decide_eq_true_iff]
  rw [agree_of_one_digest _ hne hdigests, hcount, hcomponents.le_length_iff (Linked.symm endpointClaim) (Linked.refl endpointClaim)]
  constructor
  · rintro ⟨hfallback, hapart⟩
    exact ⟨hapart, hdeclared.1 (hfallback hvia)⟩
  · rintro ⟨hapart, hfallback⟩
    exact ⟨fun _ => hdeclared.2 hfallback, hapart⟩

/-! ### Two manifests -/

def sampleBytes (digit : Char) : String := "0x" ++ String.ofList (List.replicate 64 digit)

def sampleEndpoint (id providerGroup : Slug) (role : EndpointRole) (secretRef : String) (archiveDepth : Config.ArchiveDepth) :
    Endpoint where
  id := id
  trustDomain := id
  providerGroup := providerGroup
  role := role
  secretRef := secretRef
  archiveDepth := archiveDepth

/-- Two endpoints of two trust domains, the second of full depth. -/
def sampleChain (blockchainId : String) (provider : Slug) (role : EndpointRole) : ChainIdentity where
  blockchainId := blockchainId
  evmChainId := 43114
  networkId := 1
  subnetId := sampleBytes '9'
  genesisHash := some (sampleBytes '1')
  trustedCheckpoint := none
  finality := { mode := .acceptedQuorum, acceptedStateQueries := .acceptedOnly, maxLagSeconds := 60 }
  endpoints := [sampleEndpoint ⟨"node-a", isSlug_nodeA⟩ ⟨"cloud-a", isSlug_cloudA⟩ .primary "ICTT_SENTINEL_RPC_A" .pruned,
    sampleEndpoint ⟨"node-b", isSlug_nodeB⟩ provider role "ICTT_SENTINEL_RPC_B" .full]
  independentTrustDomains := 2
  endpoints_bounds := ⟨Nat.le_add_left 1 1, Nat.le_add_left 2 6⟩
  quorum_bounds := two_quorum_bounds

def sampleManifest (provider : Slug) (role : EndpointRole) : Manifest where
  name := ⟨"bridge", isSlug_bridge⟩
  home := { name := ⟨"home", isSlug_home⟩, chain := sampleChain (sampleBytes '2') provider role, deploymentBlock := 0 }
  remotes := [{ name := ⟨"remote", isSlug_remote⟩, chain := sampleChain (sampleBytes '3') provider role, deploymentBlock := 0 }]
  censusFromBlock := 0
  censusCompleteness := .completeFromDeploymentBlock
  baseline := .approved
  remotes_bounds := ⟨le_refl 1, Nat.le_add_left 1 31⟩

def samplePolicy : Policy where
  minIndependentTrustDomains := 2
  maxAgeSeconds := 60
  expiresAfterSeconds := 600
  maxRetries := 1
  maxLogRangeBlocks := 10
  quorum_bounds := two_quorum_bounds

/-- Every endpoint knows the one block of the range, and no log. -/
def sampleRead (op : ReadOperation) : Except String Json :=
  match op with
  | .logs _ _ _ _ => .ok (.arr [])
  | _ => .ok (.obj [("hash", .str (sampleBytes 'a')), ("number", .str "0x0"), ("parentHash", .str (sampleBytes 'b')),
      ("timestamp", .str "0x0")])

def sampleSource (m : Manifest) : LogSourceOptions where
  chains := m.sides.map (wiringOf m samplePolicy)
  read _ _ := sampleRead
  hostnameOf _ := none
  now _ := 0

def sampleObservation : RangeObservation where
  providerGroup := ""
  range := { fromBlock := 0, toBlock := 0 }
  startBlockHash := sampleBytes 'a'
  endBlockHash := sampleBytes 'a'
  logCount := 0
  logs := []
  blocks := [{
    chainKey := "bridge/home"
    blockNumber := 0
    blockHash := sampleBytes 'a'
    parentHash := sampleBytes 'b'
    blockTimestamp := 0
    observedClass := .accepted
    observedAt := 0 }]
  complete := true
  viaArchive := false

theorem sample_allObserve (provider : Slug) (role : EndpointRole) :
    AllObserve (sampleSource (sampleManifest provider role))
      (wiringOf (sampleManifest provider role) samplePolicy (sampleManifest provider role).home) "bridge/home"
      sampleObservation 0 := by
  have hone : observe (fun op => (sampleRead op).mapError .other) "bridge/home" 10 "" { fromBlock := 0, toBlock := 0 } 0 false =
      .ok (.ok sampleObservation) := by decide +kernel
  exact fun _ _ _ => hone

theorem sample_uncorrelated (m : Manifest) (endpoints : List Endpoint) : Uncorrelated endpoints (sampleSource m).hostnameOf := by
  intro a _ b _ _ hhost
  cases hhost

/-- Two trust domains at two providers, the one of full depth in the archive role: this home agrees. -/
theorem agreed_iff_configured_sample :
    let m := sampleManifest ⟨"cloud-b", by decide⟩ .archive
    let port := createLogSource (sampleSource m)
    let config := (chainPlanOf m samplePolicy m.home).config
    chainPlanOf m samplePolicy m.home ∈ m.sides.map (chainPlanOf m samplePolicy) ∧
      ∃ results clock', askGroups id port config sampleObservation.range (port.providerGroups 0 config.chainKey) 0 [] =
        .ok (.results results, clock') ∧
      ((∃ digest witnesses, agree results config.agreement = .agreed digest witnesses) ↔
        ApartEndpoints 2 m.home.chain.endpoints ∧
          ∃ e ∈ m.home.chain.endpoints, e.archiveDepth = .full ∧ e.role = .archive) := by
  have hplan : buildWatchPlan (sampleManifest ⟨"cloud-b", by decide⟩ .archive) samplePolicy = .ok _ := rfl
  have haccepted : Accepted (sampleManifest ⟨"cloud-b", by decide⟩ .archive) samplePolicy := by decide +kernel
  have hexact : (exactReplayCapability (sampleManifest ⟨"cloud-b", by decide⟩ .archive)).enabled = true := by decide +kernel
  exact agreed_iff_configured haccepted hexact hplan rfl List.mem_cons_self rfl (sample_uncorrelated _ _)
    (sample_allObserve _ _) (r := resultOf id sampleObservation) rfl 0

/-- The agreement of the home of a sample manifest over the one block. -/
def sampleAgreement (provider : Slug) (role : EndpointRole) : Option Replay.Agreement :=
  let m := sampleManifest provider role
  match askGroups id (createLogSource (sampleSource m)) (chainPlanOf m samplePolicy m.home).config sampleObservation.range
    ((createLogSource (sampleSource m)).providerGroups 0 (chainKeyOf m.name.val m.home.name.val)) 0 [] with
  | .ok (.results results, _) => some (agree results (chainPlanOf m samplePolicy m.home).config.agreement)
  | _ => none

def isAgreed : Replay.Agreement → Bool
  | .agreed _ _ => true
  | .blocked _ _ => false

/-- One provider behind both trust domains, and there is one witness only. -/
theorem shared_provider_never_agrees : ¬ ∀ (sha256 : String → String) (m : Manifest) (policy : Policy) (plan : WatchPlan)
    (options : LogSourceOptions) (side wired : Side) (o : RangeObservation) (observedAt : Int) (r : RangeResult),
    Accepted m policy → (exactReplayCapability m).enabled = true → buildWatchPlan m policy = .ok plan →
    options.chains = plan.chains → side ∈ m.sides → (m.sides.filter (·.name = side.name)).getLast? = some wired →
    Uncorrelated wired.chain.endpoints options.hostnameOf →
    AllObserve options (wiringOf m policy wired) (chainKeyOf m.name.val side.name.val) o observedAt →
    classifyObservation sha256 o = .ok r →
    ∃ results clock' digest witnesses, askGroups sha256 (createLogSource options) (chainPlanOf m policy side).config o.range
        ((createLogSource options).providerGroups 0 (chainKeyOf m.name.val side.name.val)) 0 [] =
        .ok (.results results, clock') ∧
      agree results (chainPlanOf m policy side).config.agreement = .agreed digest witnesses := by
  intro hclaim
  have haccepted : Accepted (sampleManifest ⟨"cloud-a", by decide⟩ .archive) samplePolicy := by decide +kernel
  have hexact : (exactReplayCapability (sampleManifest ⟨"cloud-a", by decide⟩ .archive)).enabled = true := by decide +kernel
  obtain ⟨results, clock', digest, witnesses, hasked, hagreed⟩ := hclaim id _ samplePolicy _
    (sampleSource (sampleManifest ⟨"cloud-a", by decide⟩ .archive)) _ _ sampleObservation 0 (resultOf id sampleObservation)
    haccepted hexact rfl rfl List.mem_cons_self rfl (sample_uncorrelated _ _)
    (sample_allObserve _ _) rfl
  have hblocked : (sampleAgreement ⟨"cloud-a", by decide⟩ .archive).any isAgreed = false := by
    decide +kernel
  unfold sampleAgreement at hblocked
  dsimp only at hblocked
  rw [hasked] at hblocked
  dsimp only at hblocked
  rw [hagreed] at hblocked
  cases hblocked

end Configured

end IcttSentinel.Agent
