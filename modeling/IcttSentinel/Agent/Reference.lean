/-
The reference rows of packages/storage-postgres/src/reference.ts, and whether the plan that watches a
manifest keeps its chains apart. A chain is keyed by the name of its side; the plan, the rows and the log
source key it alike, and the log source holds one wiring under a key.
-/
import IcttSentinel.Agent.Configured
import IcttSentinel.Config.Baseline

namespace IcttSentinel.Agent

open IcttSentinel.Config IcttSentinel.Lib IcttSentinel.Replay IcttSentinel.RpcQuorum IcttSentinel.Storage

/-! ## Reference rows -/

structure DeploymentReference where
  deploymentId : String
  manifestHash : String
  assetMode : TokenMode

structure ChainReference where
  chainKey : String
  blockchainId : String
  evmChainId : Nat
  finalityMode : FinalityMode

structure ReferenceRows where
  deployment : DeploymentReference
  chains : List ChainReference

def chainReferenceOf (m : Manifest) (side : Side) : ChainReference where
  chainKey := chainKeyOf m.name.val side.name.val
  blockchainId := side.chain.blockchainId.toLower
  evmChainId := side.chain.evmChainId
  finalityMode := side.chain.finality.mode

/-- `referenceRowsFor`: the column stores the bare hexadecimal digest. -/
def referenceRowsFor (d : Document) (manifestDigest : String) : Except String ReferenceRows :=
  if matchesHex "sha256:" 64 manifestDigest then .ok {
    deployment := {
      deploymentId := d.manifest.name.val
      manifestHash := (manifestDigest.drop 7).toString
      assetMode := d.asset.mode }
    chains := d.manifest.sides.map (chainReferenceOf d.manifest) }
  else .error "manifest digest must be sha256:<64 hex>"

theorem referenceRowsFor_ok {d : Document} {manifestDigest : String} {rows : ReferenceRows}
    (h : referenceRowsFor d manifestDigest = .ok rows) :
    rows.chains = d.manifest.sides.map (chainReferenceOf d.manifest) := by
  unfold referenceRowsFor at h
  split at h
  · rw [← Except.ok.inj h]
  · cases h

/-! ## Chains kept apart -/

/-- Two sources that behave alike under a key. -/
structure SameSource (p q : LogSourcePort) (chainKey : String) : Prop where
  head : p.agreedAcceptedHead chainKey = q.agreedAcceptedHead chainKey
  groups : ∀ clock, p.providerGroups clock chainKey = q.providerGroups clock chainKey
  limit : ∀ group, p.maxRangeBlocks chainKey group = q.maxRangeBlocks chainKey group
  ranges : ∀ clock group range, p.fetchRange clock chainKey group range = q.fetchRange clock chainKey group range

/-- Under the key of a side, the source created from the plan is the source of that side alone: it reads the
endpoints listed for the side, and what other endpoints would answer changes nothing. -/
structure ReadsOwn (m : Manifest) (policy : Policy) (options : LogSourceOptions) (side : Side) : Prop where
  alone : SameSource (createLogSource options) (createLogSource { options with chains := [wiringOf m policy side] })
    (chainKeyOf m.name.val side.name.val)
  finality : (wiringAt options (chainKeyOf m.name.val side.name.val)).map (·.finality) = some side.chain.finality.mode
  listed : ∀ group, ∀ e ∈ endpointsOf options (chainKeyOf m.name.val side.name.val) group, e ∈ side.chain.endpoints
  reads : ∀ read : Nat → Endpoint → ReadOperation → Except String Json,
    (∀ clock, ∀ e ∈ side.chain.endpoints, ∀ op, read clock e op = options.read clock e op) →
    SameSource (createLogSource { options with read }) (createLogSource options) (chainKeyOf m.name.val side.name.val)

/-- The plan of a document has one key for each chain, and the reference rows and the log source read it so. -/
structure KeptApart (d : Document) (policy : Policy) (plan : WatchPlan) : Prop where
  distinct : (plan.chains.map (·.chainKey)).Nodup
  lanes : plan.deployment.chains.map (·.chainKey) = plan.chains.map (·.chainKey)
  registered : ∀ digest rows, referenceRowsFor d digest = .ok rows →
    rows.chains.map (·.chainKey) = plan.chains.map (·.chainKey)
  own : ∀ options : LogSourceOptions, options.chains = plan.chains →
    ∀ side ∈ d.manifest.sides, ReadsOwn d.manifest policy options side

/-! ## What a key is read through -/

/-- Only the endpoints of the group are asked. -/
theorem readOne_congr {read read' : Endpoint → ReadOperation → Except String Json} {op : ReadOperation}
    {group : List Endpoint} (h : ∀ e ∈ group, read e op = read' e op) (lastError : SourceError) :
    readOne read op lastError group = readOne read' op lastError group := by
  induction group generalizing lastError with
  | nil => rfl
  | cons e rest ih =>
    have hrest := ih fun x hx => h x (List.mem_cons_of_mem e hx)
    unfold readOne
    rw [h e List.mem_cons_self]
    cases read' e op with
    | ok => rfl
    | error message => exact hrest (.other message)

section Source

variable {options options' : LogSourceOptions} {chainKey : String} {wiring : ChainWiring}

/-- What the source does under a key is decided by the wiring there, the hosts, the clock and the answers of
the wired endpoints. -/
theorem sameSource_of_wiring (hwiring : wiringAt options chainKey = some wiring)
    (hwiring' : wiringAt options' chainKey = some wiring) (hhosts : options.hostnameOf = options'.hostnameOf)
    (hnow : options.now = options'.now)
    (hread : ∀ clock group, ∀ e ∈ endpointsOf options chainKey group, ∀ op,
      options.read clock e op = options'.read clock e op) :
    SameSource (createLogSource options) (createLogSource options') chainKey := by
  have hwitnesses : witnessesAt options chainKey = witnessesAt options' chainKey := by
    unfold witnessesAt
    rw [hwiring, hwiring', hhosts]
  have hendpoints : ∀ group, endpointsOf options chainKey group = endpointsOf options' chainKey group := by
    intro group
    unfold endpointsOf
    rw [hwiring, hwiring', hhosts]
  have hgroup : ∀ clock group op,
      readGroup options clock chainKey group op = readGroup options' clock chainKey group op := by
    intro clock group op
    unfold readGroup
    rw [← hendpoints]
    exact readOne_congr (fun e he => hread clock group e he op) _
  have hheads : ∀ group, headOf options chainKey group = headOf options' chainKey group := by
    intro group
    unfold headOf
    rw [hwiring, hwiring', hnow]
    simp only [hgroup]
  refine ⟨?_, fun _ => ?_, fun _ => ?_, fun clock group range => ?_⟩
  · show (agreedAcceptedHead options chainKey).mapError _ = (agreedAcceptedHead options' chainKey).mapError _
    unfold agreedAcceptedHead
    rw [hwitnesses, funext hheads]
  · show (witnessesAt options chainKey).map _ = _
    rw [hwitnesses]
    rfl
  · show ((wiringAt options chainKey).map _).getD 1 = ((wiringAt options' chainKey).map _).getD 1
    rw [hwiring, hwiring']
  · show Except.ok (fetchRange options clock chainKey group range) = .ok (fetchRange options' clock chainKey group range)
    unfold fetchRange
    rw [hwiring, hwiring', hendpoints, hnow, funext (hgroup clock group)]

end Source

section Sides

variable {m : Manifest} {policy : Policy} {options : LogSourceOptions} {side : Side}

/-- Sides with names of their own have keys of their own, and only then. -/
theorem keys_nodup_iff {α : Type} {key : α → String} {f : Side → α}
    (hkey : ∀ side, key (f side) = chainKeyOf m.name.val side.name.val) :
    ((m.sides.map f).map key).Nodup ↔ (m.sides.map (·.name)).Nodup := by
  have hkeys : (m.sides.map f).map key = (m.sides.map (·.name)).map fun name : Slug => chainKeyOf m.name.val name.val := by
    rw [List.map_map, List.map_map]
    exact List.map_congr_left fun side _ => hkey side
  rw [hkeys]
  constructor
  · exact List.Nodup.of_map _
  · intro hnames
    refine hnames.map fun a b hab => ?_
    have hname : a.val = b.val := String.append_right_inj _ |>.1 hab
    exact Subtype.ext hname

/-- Under the key of its name a side is wired itself. -/
theorem wiringAt_own (hnames : (m.sides.map (·.name)).Nodup) (hchains : options.chains = m.sides.map (wiringOf m policy))
    (hside : side ∈ m.sides) : wiringAt options (chainKeyOf m.name.val side.name.val) = some (wiringOf m policy side) := by
  refine wiringAt_side hchains ?_
  obtain ⟨wired, hwired⟩ : ∃ wired, (m.sides.filter (·.name = side.name)).getLast? = some wired := by
    rw [← Option.isSome_iff_exists, List.getLast?_isSome]
    exact List.ne_nil_of_mem (List.mem_filter.2 ⟨hside, decide_eq_true rfl⟩)
  obtain ⟨hmem, hname⟩ := List.mem_filter.1 (List.mem_of_getLast? hwired)
  rw [hwired, List.inj_on_of_nodup_map hnames hmem hside (of_decide_eq_true hname)]

theorem endpointsOf_listed (hloads : checkManifestInvariants m = []) (hside : side ∈ m.sides)
    (hwiring : wiringAt options (chainKeyOf m.name.val side.name.val) = some (wiringOf m policy side)) {group : String}
    {e : Endpoint} (he : e ∈ endpointsOf options (chainKeyOf m.name.val side.name.val) group) :
    e ∈ side.chain.endpoints := by
  have hids := (endpoints_distinct hloads hside).1
  have hrow : e ∈ (((byWitness side.chain.endpoints options.hostnameOf).lookup group).map (·.2)).getD [] := by
    unfold endpointsOf at he
    rw [hwiring] at he
    exact he
  cases hlookup : (byWitness side.chain.endpoints options.hostnameOf).lookup group with
  | none =>
    rw [hlookup] at hrow
    exact absurd hrow List.not_mem_nil
  | some row =>
    rw [hlookup] at hrow
    have hmem := (Keyed.lookup_eq_some.1 hlookup).1
    rw [rows_byWitness hids] at hmem
    obtain ⟨c, hc, rfl⟩ := List.mem_map.1 hmem
    exact (witnessGroups_components hids).mem hc hrow

theorem ReadsOwn.of_wiring (hloads : checkManifestInvariants m = []) (hside : side ∈ m.sides)
    (hwiring : wiringAt options (chainKeyOf m.name.val side.name.val) = some (wiringOf m policy side)) :
    ReadsOwn m policy options side where
  alone := by
    have halone : wiringAt { options with chains := [wiringOf m policy side] } (chainKeyOf m.name.val side.name.val) =
        some (wiringOf m policy side) := by
      have hkeyed : ∀ w ∈ [wiringOf m policy side], decide (w.chainKey = chainKeyOf m.name.val side.name.val) = true := by
        intro w hw
        rw [List.mem_singleton.1 hw]
        exact decide_eq_true rfl
      show (List.filter _ [wiringOf m policy side]).getLast? = _
      rw [List.filter_eq_self.2 hkeyed]
      rfl
    exact sameSource_of_wiring hwiring halone rfl rfl fun _ _ _ _ _ => rfl
  finality := by
    rw [hwiring]
    rfl
  listed _ _ he := endpointsOf_listed hloads hside hwiring he
  reads read hread := by
    refine sameSource_of_wiring hwiring hwiring rfl rfl fun clock group e he op => ?_
    exact hread clock e (endpointsOf_listed hloads hside hwiring he) op

end Sides

/-! ## The law of the plan -/

/-- A document that loads has its chains kept apart exactly when no two of its sides share a name. -/
theorem keptApart_iff {d : Document} {policy : Policy} {plan : WatchPlan} (hloads : d.Loads)
    (hplan : buildWatchPlan d.manifest policy = .ok plan) :
    KeptApart d policy plan ↔ (d.manifest.sides.map (·.name)).Nodup := by
  obtain ⟨hwirings, hlanes⟩ := buildWatchPlan_ok hplan
  have hkeys : ∀ {α : Type} (key : α → String) (of : Side → α),
      (∀ side, key (of side) = chainKeyOf d.manifest.name.val side.name.val) →
      (d.manifest.sides.map of).map key = plan.chains.map (·.chainKey) := by
    intro α key of hkey
    rw [hwirings, List.map_map, List.map_map]
    exact List.map_congr_left fun side _ => hkey side
  constructor
  · intro h
    have hdistinct := h.distinct
    rw [hwirings] at hdistinct
    exact (keys_nodup_iff (f := wiringOf d.manifest policy) fun _ => rfl).1 hdistinct
  · intro hnames
    refine ⟨?_, ?_, ?_, ?_⟩
    · rw [hwirings]
      exact (keys_nodup_iff (f := wiringOf d.manifest policy) fun _ => rfl).2 hnames
    · rw [hlanes]
      exact hkeys _ _ fun _ => rfl
    · intro digest rows hrows
      rw [referenceRowsFor_ok hrows]
      exact hkeys _ _ fun _ => rfl
    · intro options hchains side hside
      exact ReadsOwn.of_wiring hloads hside (wiringAt_own hnames (hchains.trans hwirings) hside)

/-! ## Two remotes of one name -/

/-- Another remote, on a chain and with endpoints of its own. -/
def otherRemote (name : Slug) : Side where
  name := name
  chain := {
    reviewedChain ("0x" ++ "".pushn '4' 64) 43112
      (reviewedEndpoint ⟨"node-e", by decide⟩ ⟨"cloud-a", isSlug_cloudA⟩ "ICTT_SENTINEL_RPC_E")
      (reviewedEndpoint ⟨"node-f", by decide⟩ ⟨"cloud-b", isSlug_cloudB⟩ "ICTT_SENTINEL_RPC_F") with
    finality := { mode := .settledQuorum, acceptedStateQueries := .unknown, maxLagSeconds := 60 } }
  deploymentBlock := 300

/-- The reviewed manifest with that remote added. -/
def namesakeDocument (name : Slug) : Document where
  manifest := {
    reviewedManifest 200 .approved with
    remotes := (reviewedManifest 200 .approved).remotes ++ [otherRemote name]
    remotes_bounds := ⟨show 1 ≤ 2 by decide, show 2 ≤ 32 by decide⟩ }
  asset := { mode := .canonicalErc20, homeDecimals := 18 }
  baseline := (reviewedDocument 200).baseline
  rest := .obj []
  state := rfl

def reviewPolicy : Policy where
  minIndependentTrustDomains := 2
  maxAgeSeconds := 60
  expiresAfterSeconds := 600
  maxRetries := 1
  maxLogRangeBlocks := 10
  quorum_bounds := two_quorum_bounds

/-- A third name: three keys, and each is read through the endpoints of its own side. -/
theorem keptApart_iff_sample :
    let d := namesakeDocument ⟨"other", by decide⟩
    ∃ plan, buildWatchPlan d.manifest reviewPolicy = .ok plan ∧
      (KeptApart d reviewPolicy plan ↔ (d.manifest.sides.map (·.name)).Nodup) := by
  intro d
  have hloads : d.Loads := by
    show checkManifestInvariants _ = []
    decide +kernel
  exact ⟨_, rfl, keptApart_iff hloads rfl⟩

/-- The name of the first remote again: both load, and the history of the first is read from the endpoints of
the second, under its finality. -/
theorem keptApart_fails :
    let d := namesakeDocument ⟨"remote", by decide⟩
    let source : LogSourceOptions :=
      { chains := d.manifest.sides.map (wiringOf d.manifest reviewPolicy)
        read := fun _ _ _ => .error "offline"
        hostnameOf := fun _ => none
        now := fun _ => 0 }
    d.Loads ∧ (∃ plan, buildWatchPlan d.manifest reviewPolicy = .ok plan ∧ plan.chains = source.chains ∧
        ¬ KeptApart d reviewPolicy plan) ∧
      ((createLogSource source).providerGroups 0 "bridge/remote").map (fun group =>
        (endpointsOf source "bridge/remote" group).map (·.id.val)) = [["node-e"], ["node-f"]] ∧
      (wiringAt source "bridge/remote").map (·.finality) = some .settledQuorum := by
  intro d source
  have hloads : d.Loads := by
    show checkManifestInvariants _ = []
    decide +kernel
  refine ⟨hloads, ⟨_, rfl, rfl, ?_⟩, by decide +kernel, by decide +kernel⟩
  rw [keptApart_iff hloads rfl]
  decide

end IcttSentinel.Agent
