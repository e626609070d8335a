/-
The witnesses of a chain are its failure domains: the groups that the log source reads from are the
classes of endpoints that a shared trust domain, provider, secret reference or host connects, each under a
key of its own, and so what agreeing counts are the failure domains that answered.
-/
import IcttSentinel.Agent.Observation
import IcttSentinel.Lib.Distinct
import IcttSentinel.Lib.Joined
import IcttSentinel.Replay.Agreement

namespace IcttSentinel.Agent

open IcttSentinel.Config IcttSentinel.Lib IcttSentinel.Replay IcttSentinel.RpcQuorum IcttSentinel.Storage

variable {endpoints : List Endpoint} {hostnameOf : Endpoint → Option String}

/-! ## Classes of endpoints -/

/-- What one failure may take away together. -/
def SharesUpstream (hostnameOf : Endpoint → Option String) (a b : Endpoint) : Prop :=
  a.trustDomain = b.trustDomain ∨ a.providerGroup = b.providerGroup ∨ a.secretRef = b.secretRef ∨
    ∃ host, hostnameOf a = some host ∧ hostnameOf b = some host

theorem SharesUpstream.refl (a : Endpoint) : SharesUpstream hostnameOf a a := Or.inl rfl

theorem SharesUpstream.symm (a b : Endpoint) (h : SharesUpstream hostnameOf a b) : SharesUpstream hostnameOf b a := by
  rcases h with h | h | h | ⟨host, ha, hb⟩
  · exact Or.inl h.symm
  · exact Or.inr (Or.inl h.symm)
  · exact Or.inr (Or.inr (Or.inl h.symm))
  · exact Or.inr (Or.inr (Or.inr ⟨host, hb, ha⟩))

/-- The endpoints a failure of `e` may reach, one to the next. -/
def failureDomain (endpoints : List Endpoint) (hostnameOf : Endpoint → Option String) (e : Endpoint) : Set Endpoint :=
  {x | Connected (SharesUpstream hostnameOf) endpoints e x}

theorem sharesUpstream_of_linked {a b : Endpoint} (h : (endpointClaim a).Linked (endpointClaim b)) :
    SharesUpstream hostnameOf a b :=
  h.imp Subtype.ext fun hprovider => Or.inl (Subtype.ext hprovider)

/-- A conclusive signal is a shared secret reference or host. -/
theorem sharesUpstream_of_conclusive {a b : Endpoint}
    (h : (correlationInput hostnameOf a).conclusive (correlationInput hostnameOf b) = true) : SharesUpstream hostnameOf a b := by
  unfold EndpointCorrelationInput.conclusive correlationInput at h
  rw [Bool.and_eq_true, Bool.or_eq_true, Bool.and_eq_true, decide_eq_true_iff, decide_eq_true_iff, decide_eq_true_iff] at h
  obtain ⟨-, href | ⟨hsome, hhost⟩⟩ := h
  · exact Or.inr (Or.inr (Or.inl href))
  · obtain ⟨host, ha⟩ := Option.isSome_iff_exists.1 hsome
    exact Or.inr (Or.inr (Or.inr ⟨host, ha, hhost.symm.trans ha⟩))

/-- Whatever two endpoints share, either the claims name it or the signal between them is conclusive. -/
theorem SharesUpstream.claimed_or_conclusive {a b : Endpoint} (h : SharesUpstream hostnameOf a b) :
    (endpointClaim a).Linked (endpointClaim b) ∨
      (correlationInput hostnameOf a).conclusive (correlationInput hostnameOf b) = true := by
  by_cases hdomain : a.trustDomain = b.trustDomain
  · exact Or.inl (Or.inl (congrArg Subtype.val hdomain))
  · have hdomain' : a.trustDomain.val ≠ b.trustDomain.val := fun hval => hdomain (Subtype.ext hval)
    unfold EndpointCorrelationInput.conclusive correlationInput
    rw [Bool.and_eq_true, Bool.or_eq_true, Bool.and_eq_true, decide_eq_true_iff, decide_eq_true_iff, decide_eq_true_iff]
    rcases h with h | h | h | ⟨host, ha, hb⟩
    · exact absurd h hdomain
    · exact Or.inl (Or.inr (congrArg Subtype.val h))
    · exact Or.inr ⟨hdomain', Or.inl h⟩
    · exact Or.inr ⟨hdomain', Or.inr ⟨by rw [ha]; rfl, ha.trans hb.symm⟩⟩

/-- The groups of the log source are these classes, for any endpoints with ids of their own. -/
theorem witnessGroups_components (hids : (endpoints.map (·.id)).Nodup) :
    Components (SharesUpstream hostnameOf) endpoints (witnessGroups endpoints hostnameOf) := by
  let merges := correlateEndpoints (endpoints.map (correlationInput hostnameOf))
  have hids' : (endpoints.map fun e => e.id.val).Nodup := by
    have hval := hids.map Subtype.val_injective
    rwa [List.map_map] at hval
  have hcollapsed : Components (Linked (collapsedClaim endpointClaim (·.id.val) endpoints merges)) endpoints
      (independenceGroups (collapsedClaim endpointClaim (·.id.val) endpoints merges) endpoints) :=
    independenceGroups_components endpoints
  have hmerges : ∀ m ∈ merges, ∃ x ∈ endpoints, ∃ y ∈ endpoints, SharesUpstream hostnameOf x y ∧ m = (x.id.val, y.id.val) := by
    intro m hm
    obtain ⟨_, hleft, _, hright, hconclusive, hmerge⟩ := mem_correlateEndpoints hm
    obtain ⟨x, hx, rfl⟩ := List.mem_map.1 hleft
    obtain ⟨y, hy, rfl⟩ := List.mem_map.1 hright
    exact ⟨x, hx, y, hy, sharesUpstream_of_conclusive hconclusive, hmerge⟩
  have hshared : Components (SharesUpstream hostnameOf) endpoints
      (independenceGroups (collapsedClaim endpointClaim (·.id.val) endpoints merges) endpoints) := by
    apply hcollapsed.of_connected
    · intro a ha b hb hab
      exact collapsedClaim_connected SharesUpstream.symm (.of_nodup hids') (fun x _ y _ => sharesUpstream_of_linked) hmerges ha hb hab
    · intro a ha b hb hab
      apply collapsedClaim_linked (.of_nodup hids') merges ha hb
      rcases hab.claimed_or_conclusive with hclaimed | hconclusive
      · exact Or.inl hclaimed
      · exact Or.inr (mem_correlateEndpoints_of_conclusive (List.mem_map_of_mem ha) (List.mem_map_of_mem hb) hconclusive)
  exact hshared.reorder SharesUpstream.symm (fun c => sortOn_perm _ c) (sortOn_perm _ _)

/-! ## Their keys -/

theorem mem_witnessKey {group : List Endpoint} {s : String} :
    s ∈ sortStrings ((group.map (·.providerGroup.val)).dedup) ↔ ∃ e ∈ group, e.providerGroup.val = s := by
  rw [mem_sortStrings, List.mem_dedup, List.mem_map]

/-- Groups with the same key share a provider: a slug has no `+`, so a key gives back the names it joins. -/
theorem exists_shared_of_witnessKey {group group' : List Endpoint} (hne : group ≠ []) (hne' : group' ≠ [])
    (h : witnessKey group = witnessKey group') : ∃ a ∈ group, ∃ b ∈ group', a.providerGroup = b.providerGroup := by
  have hplus : ∀ g : List Endpoint, ∀ s ∈ sortStrings ((g.map (·.providerGroup.val)).dedup), '+' ∉ s.toList := by
    intro g s hs
    obtain ⟨e, -, rfl⟩ := mem_witnessKey.1 hs
    exact plus_notMem_slug e.providerGroup
  have hsome : ∀ g : List Endpoint, ∀ e ∈ g, e.providerGroup.val ∈ sortStrings ((g.map (·.providerGroup.val)).dedup) :=
    fun g e he => mem_witnessKey.2 ⟨e, he, rfl⟩
  obtain ⟨a, ha⟩ := List.exists_mem_of_ne_nil group hne
  obtain ⟨b, hb⟩ := List.exists_mem_of_ne_nil group' hne'
  have hkeys : sortStrings ((group.map (·.providerGroup.val)).dedup) = sortStrings ((group'.map (·.providerGroup.val)).dedup) :=
    intercalate_inj (hplus group) (hplus group') (List.ne_nil_of_mem (hsome group a ha))
      (List.ne_nil_of_mem (hsome group' b hb)) h
  have hshared := hsome group a ha
  rw [hkeys] at hshared
  obtain ⟨b, hb, hab⟩ := mem_witnessKey.1 hshared
  exact ⟨a, ha, b, hb, Subtype.ext hab.symm⟩

/-- Every group is a witness of its own: the map of the witnesses overwrites none. -/
theorem rows_byWitness (hids : (endpoints.map (·.id)).Nodup) :
    (byWitness endpoints hostnameOf).rows =
      (witnessGroups endpoints hostnameOf).map fun group => (witnessKey group, group) := by
  have hcomponents : Components (SharesUpstream hostnameOf) endpoints (witnessGroups endpoints hostnameOf) :=
    witnessGroups_components hids
  unfold byWitness
  rw [Keyed.rows_upsertAll_of_nodup]
  · rfl
  · rw [Keyed.rows_empty, List.nil_append, List.map_map, List.Nodup, List.pairwise_map]
    refine hcomponents.apart.imp_of_mem fun {c d} hc hd hapart hkeys => ?_
    obtain ⟨a, ha, b, hb, hab⟩ := exists_shared_of_witnessKey (hcomponents.nonempty c hc) (hcomponents.nonempty d hd) hkeys
    exact hapart a ha b hb (Or.inr (Or.inl hab))

/-! ## Asking them -/

section Asking

variable {sha256 : String → String} {options : LogSourceOptions} {wiring : ChainWiring} {chainKey : String}

/-- The witnesses of a wired chain, and the endpoints behind one. -/
theorem mem_witnessesAt (hwiring : wiringAt options chainKey = some wiring) {row : String × List Endpoint} :
    row ∈ witnessesAt options chainKey ↔ row ∈ (byWitness wiring.endpoints options.hostnameOf).rows := by
  unfold witnessesAt
  rw [hwiring]
  rfl

theorem endpointsOf_witness (hwiring : wiringAt options chainKey = some wiring) {row : String × List Endpoint}
    (hrow : row ∈ witnessesAt options chainKey) : endpointsOf options chainKey row.1 = row.2 := by
  have hlookup := Keyed.lookup_eq_some.2 ⟨(mem_witnessesAt hwiring).1 hrow, rfl⟩
  unfold endpointsOf
  rw [hwiring]
  show ((Keyed.lookup _ _).map _).getD [] = _
  rw [hlookup]
  rfl

/-- The groups of the chain are the keys of its witnesses, and behind each of them is one group of endpoints. -/
theorem exists_witnessGroup (hwiring : wiringAt options chainKey = some wiring) (hids : (wiring.endpoints.map (·.id)).Nodup)
    {clock : Nat} {group : String} : group ∈ (createLogSource options).providerGroups clock chainKey ↔
      ∃ c ∈ witnessGroups wiring.endpoints options.hostnameOf, witnessKey c = group ∧ endpointsOf options chainKey group = c := by
  have hrows : (byWitness wiring.endpoints options.hostnameOf).rows =
      (witnessGroups wiring.endpoints options.hostnameOf).map fun group => (witnessKey group, group) := rows_byWitness hids
  show group ∈ (witnessesAt options chainKey).map (·.1) ↔ _
  rw [List.mem_map]
  constructor
  · rintro ⟨row, hrow, rfl⟩
    have hrow' := (mem_witnessesAt hwiring).1 hrow
    rw [hrows] at hrow'
    obtain ⟨c, hc, rfl⟩ := List.mem_map.1 hrow'
    exact ⟨c, hc, rfl, endpointsOf_witness hwiring hrow⟩
  · rintro ⟨c, hc, rfl, -⟩
    refine ⟨(witnessKey c, c), (mem_witnessesAt hwiring).2 ?_, rfl⟩
    rw [hrows]
    exact List.mem_map_of_mem hc

/-- An observation carries the name of the group that was asked for it. -/
theorem fetchRange_providerGroup {clock : Nat} {group : String} {range : BlockRange} {o : RangeObservation}
    (h : (createLogSource options).fetchRange clock chainKey group range = .ok (.ok o)) : o.providerGroup = group := by
  have hfetch : fetchRange options clock chainKey group range = .ok o := Except.ok.inj h
  unfold fetchRange at hfetch
  dsimp only at hfetch
  split at hfetch
  · rename_i outcome hobserved
    rw [hfetch] at hobserved
    have hown := Except.ok.inj (hobserved.symm.trans (observe_relabel hobserved group (options.now clock) _))
    injection hown with hown
    exact congrArg RangeObservation.providerGroup hown
  · cases hfetch
  · cases hfetch

/-- Two groups with an endpoint in common are one. -/
theorem group_unique (hwiring : wiringAt options chainKey = some wiring) (hids : (wiring.endpoints.map (·.id)).Nodup)
    {clock : Nat} {group group' : String} (h : group ∈ (createLogSource options).providerGroups clock chainKey)
    (h' : group' ∈ (createLogSource options).providerGroups clock chainKey) {e : Endpoint}
    (he : e ∈ endpointsOf options chainKey group) (he' : e ∈ endpointsOf options chainKey group') : group = group' := by
  have hcomponents : Components (SharesUpstream options.hostnameOf) wiring.endpoints
      (witnessGroups wiring.endpoints options.hostnameOf) := witnessGroups_components hids
  obtain ⟨c, hc, hkey, hbehind⟩ := (exists_witnessGroup hwiring hids).1 h
  obtain ⟨c', hc', hkey', hbehind'⟩ := (exists_witnessGroup hwiring hids).1 h'
  rw [hbehind] at he
  rw [hbehind'] at he'
  have hsame : c = c' := by
    by_contra hne
    have hsymm : Std.Symm fun c d : List Endpoint => ∀ a ∈ c, ∀ b ∈ d, ¬ SharesUpstream options.hostnameOf a b :=
      ⟨fun c d hcd x hx y hy hxy => hcd y hy x hx (SharesUpstream.symm x y hxy)⟩
    exact hcomponents.apart.forall hc hc' hne e he e he' (SharesUpstream.refl e)
  rw [← hkey, ← hkey', hsame]

/-- Behind a group are the endpoints of one failure domain, and there is one. -/
theorem endpointsOf_group (hwiring : wiringAt options chainKey = some wiring) (hids : (wiring.endpoints.map (·.id)).Nodup)
    {clock : Nat} {group : String} (h : group ∈ (createLogSource options).providerGroups clock chainKey) :
    ∃ e ∈ wiring.endpoints, e ∈ endpointsOf options chainKey group ∧
      {x | x ∈ endpointsOf options chainKey group} = failureDomain wiring.endpoints options.hostnameOf e := by
  have hcomponents : Components (SharesUpstream options.hostnameOf) wiring.endpoints
      (witnessGroups wiring.endpoints options.hostnameOf) := witnessGroups_components hids
  obtain ⟨c, hc, -, hbehind⟩ := (exists_witnessGroup hwiring hids).1 h
  obtain ⟨e, he⟩ := List.exists_mem_of_ne_nil c (hcomponents.nonempty c hc)
  rw [hbehind]
  exact ⟨e, hcomponents.mem hc he, he, hcomponents.members_eq SharesUpstream.symm hc he⟩

/-- Each failure domain is behind a group. -/
theorem exists_group (hwiring : wiringAt options chainKey = some wiring) (hids : (wiring.endpoints.map (·.id)).Nodup)
    (clock : Nat) {e : Endpoint} (he : e ∈ wiring.endpoints) :
    ∃ group ∈ (createLogSource options).providerGroups clock chainKey,
      {x | x ∈ endpointsOf options chainKey group} = failureDomain wiring.endpoints options.hostnameOf e := by
  have hcomponents : Components (SharesUpstream options.hostnameOf) wiring.endpoints
      (witnessGroups wiring.endpoints options.hostnameOf) := witnessGroups_components hids
  obtain ⟨c, hc, hec⟩ := hcomponents.exists_mem he
  have hrow : (witnessKey c, c) ∈ witnessesAt options chainKey := by
    rw [mem_witnessesAt hwiring, rows_byWitness hids]
    exact List.mem_map_of_mem hc
  have hkey : witnessKey c ∈ (createLogSource options).providerGroups clock chainKey :=
    List.mem_map.2 ⟨_, hrow, rfl⟩
  refine ⟨witnessKey c, hkey, ?_⟩
  rw [endpointsOf_witness hwiring hrow]
  exact hcomponents.members_eq SharesUpstream.symm hc hec

theorem groups_bijOn (hwiring : wiringAt options chainKey = some wiring) (hids : (wiring.endpoints.map (·.id)).Nodup)
    (clock : Nat) : Set.BijOn (fun group => {e | e ∈ endpointsOf options chainKey group})
      {group | group ∈ (createLogSource options).providerGroups clock chainKey}
      (failureDomain wiring.endpoints options.hostnameOf '' {e | e ∈ wiring.endpoints}) := by
  refine ⟨?_, ?_, ?_⟩
  · intro group h
    obtain ⟨e, he, -, hdomain⟩ := endpointsOf_group hwiring hids h
    exact ⟨e, he, hdomain.symm⟩
  · intro group h group' h' heq
    obtain ⟨e, -, he, -⟩ := endpointsOf_group hwiring hids h
    exact group_unique hwiring hids h h' he ((Set.ext_iff.1 heq e).1 he)
  · rintro _ ⟨e, he, rfl⟩
    exact exists_group hwiring hids clock he

/-- What agreeing counts are the failure domains behind the groups of the results. -/
theorem length_independentGroups (hwiring : wiringAt options chainKey = some wiring)
    (hids : (wiring.endpoints.map (·.id)).Nodup) {clock : Nat} {results : List RangeResult}
    (hasked : ∀ r ∈ results, r.providerGroup ∈ (createLogSource options).providerGroups clock chainKey) :
    (independentGroups results).length =
      {domain ∈ failureDomain wiring.endpoints options.hostnameOf '' {e | e ∈ wiring.endpoints} |
        ∃ r ∈ results, ∃ e ∈ domain, e ∈ endpointsOf options chainKey r.providerGroup}.ncard := by
  have hbij := groups_bijOn hwiring hids clock
  have hasked' : ∀ group ∈ independentGroups results, group ∈ (createLogSource options).providerGroups clock chainKey := by
    intro group h
    obtain ⟨r, hr, rfl⟩ := mem_independentGroups.1 h
    exact hasked r hr
  have hnodup : (independentGroups results).Nodup := nodup_eraseDups _
  have himage : {domain ∈ failureDomain wiring.endpoints options.hostnameOf '' {e | e ∈ wiring.endpoints} |
      ∃ r ∈ results, ∃ e ∈ domain, e ∈ endpointsOf options chainKey r.providerGroup} =
      (fun group => {e | e ∈ endpointsOf options chainKey group}) '' ((independentGroups results).toFinset : Set String) := by
    rw [List.coe_toFinset]
    ext domain
    constructor
    · rintro ⟨hmem, r, hr, e, hdomain, hbehind⟩
      obtain ⟨group, hgroup, rfl⟩ := hbij.surjOn hmem
      refine ⟨r.providerGroup, mem_independentGroups.2 ⟨r, hr, rfl⟩, ?_⟩
      rw [group_unique hwiring hids (hasked r hr) hgroup hbehind hdomain]
    · rintro ⟨group, h, rfl⟩
      obtain ⟨r, hr, rfl⟩ := mem_independentGroups.1 h
      obtain ⟨e, -, he, -⟩ := endpointsOf_group hwiring hids (hasked r hr)
      exact ⟨hbij.mapsTo (hasked r hr), r, hr, e, he, he⟩
  have hinj : Set.InjOn (fun group => {e | e ∈ endpointsOf options chainKey group})
      ((independentGroups results).toFinset : Set String) :=
    hbij.injOn.mono fun group h => hasked' group (List.mem_toFinset.1 h)
  rw [himage, hinj.ncard_image, Set.ncard_coe_finset, List.toFinset_card_of_nodup hnodup]

/-- The groups of a chain whose endpoints the loader accepts and its failure domains correspond one to one, and
agreeing counts the failure domains that answered. -/
theorem providerGroups_failureDomains (hwiring : wiringAt options chainKey = some wiring) {path : String}
    (hloads : endpointIssues path [] wiring.endpoints = []) (clock : Nat) :
    let groups := (createLogSource options).providerGroups clock chainKey
    let domains := failureDomain wiring.endpoints options.hostnameOf '' {e | e ∈ wiring.endpoints}
    groups.Nodup ∧
      Set.BijOn (fun group => {e | e ∈ endpointsOf options chainKey group}) {group | group ∈ groups} domains ∧
      (∀ e ∈ wiring.endpoints, ∃! group, group ∈ groups ∧ e ∈ endpointsOf options chainKey group) ∧
      ∀ results : List RangeResult,
        (∀ r ∈ results, ∃ group ∈ groups, ∃ clock range o,
          (createLogSource options).fetchRange clock chainKey group range = .ok (.ok o) ∧
            classifyObservation sha256 o = .ok r) →
        (independentGroups results).length =
          {domain ∈ domains | ∃ r ∈ results, ∃ e ∈ domain, e ∈ endpointsOf options chainKey r.providerGroup}.ncard := by
  have hids : (wiring.endpoints.map (·.id)).Nodup := (distinct_of_endpointIssues hloads).1
  refine ⟨?_, groups_bijOn hwiring hids clock, ?_, ?_⟩
  · show ((witnessesAt options chainKey).map (·.1)).Nodup
    unfold witnessesAt
    rw [hwiring]
    exact (byWitness _ _).nodup
  · intro e he
    obtain ⟨group, hgroup, hdomain⟩ := exists_group hwiring hids clock he
    have hin : e ∈ endpointsOf options chainKey group := (Set.ext_iff.1 hdomain e).2 (Connected.refl e)
    exact ⟨group, ⟨hgroup, hin⟩, fun group' ⟨h', he'⟩ => group_unique hwiring hids h' hgroup he' hin⟩
  · intro results hresults
    apply length_independentGroups hwiring hids
    intro r hr
    obtain ⟨group, hgroup, _, range, o, hfetch, hclassified⟩ := hresults r hr
    -- a result carries the group it was asked of
    have hname : r.providerGroup = group := by
      rw [(classifyObservation_ok hclassified).1]
      exact fetchRange_providerGroup hfetch
    rwa [hname]

def upstream (id providerGroup : Slug) : Endpoint where
  id := id
  trustDomain := id
  providerGroup := providerGroup
  role := .primary
  secretRef := id.val
  archiveDepth := .pruned

/-- Three endpoints of three trust domains and three providers, the first two at one host. -/
def threeEndpoints : List Endpoint :=
  [upstream ⟨"node-a", isSlug_nodeA⟩ ⟨"cloud-a", isSlug_cloudA⟩, upstream ⟨"node-b", isSlug_nodeB⟩ ⟨"cloud-b", isSlug_cloudB⟩,
    upstream ⟨"node-c", isSlug_nodeC⟩ ⟨"cloud-c", by decide⟩]

def threeSource : LogSourceOptions where
  chains := [{
    chainKey := "bridge/home"
    endpoints := threeEndpoints
    finality := .acceptedQuorum
    maxRangeBlocks := 10 }]
  read _ _ _ := .error "unreachable"
  hostnameOf e := some (if e.providerGroup.val = "cloud-c" then "c.example" else "ab.example")
  now _ := 0

/-- They are two witnesses. -/
theorem providerGroups_failureDomains_three :
    (createLogSource threeSource).providerGroups 0 "bridge/home" = ["cloud-a+cloud-b", "cloud-c"] ∧
      ∀ e ∈ threeEndpoints, ∃! group, group ∈ (createLogSource threeSource).providerGroups 0 "bridge/home" ∧
        e ∈ endpointsOf threeSource "bridge/home" group :=
  ⟨by decide +kernel, (@providerGroups_failureDomains id threeSource (threeSource.chains.head (by decide)) _ rfl
    "spec.home.chain" (by decide +kernel) 0).2.2.1⟩

end Asking

end IcttSentinel.Agent
