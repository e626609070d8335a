/-
What an agreed quorum means, and what it depends on. The counted witnesses fall into the connected
components of the declared relation, one witness is taken from each, and nothing of the outcome, the
height, the hash or the agreeing endpoints depends on the order of the observations.
-/
import IcttSentinel.RpcQuorum.Quorum

namespace IcttSentinel.RpcQuorum

open IcttSentinel.Lib

/-! ## Heads -/

section Heads

theorem foldl_max_eq {l : List WitnessObservation} {m : Int} :
    l.foldl (fun m o => if o.headBlockNumber > m then o.headBlockNumber else m) m =
      (l.map (·.headBlockNumber)).foldl max m := by
  induction l generalizing m with
  | nil => rfl
  | cons o l ih =>
    rw [List.foldl_cons, ih, List.map_cons, List.foldl_cons]
    congr 1
    split <;> omega

theorem leadingHead_perm {l l' : List WitnessObservation} (h : l.Perm l') : leadingHead l = leadingHead l' := by
  unfold leadingHead
  rw [foldl_max_eq, foldl_max_eq]
  exact (h.map _).foldl_op_eq

theorem foldl_min_eq {l : List WitnessObservation} {m : Int} :
    l.foldl (fun m o => if o.headBlockNumber < m then o.headBlockNumber else m) m =
      (l.map (·.headBlockNumber)).foldl min m := by
  induction l generalizing m with
  | nil => rfl
  | cons o l ih =>
    rw [List.foldl_cons, ih, List.map_cons, List.foldl_cons]
    congr 1
    split <;> omega

theorem foldl_min_iff {l : List Int} {m n : Int} : n ≤ l.foldl min m ↔ n ≤ m ∧ ∀ x ∈ l, n ≤ x := by
  induction l generalizing m with
  | nil => simp
  | cons x l ih =>
    rw [List.foldl_cons, ih, le_min_iff, List.forall_mem_cons]
    exact and_assoc

/-- The lowest head is the greatest height that every witness has reached. -/
theorem le_lowestHead {first : WitnessObservation} {rest : List WitnessObservation} {n : Int} :
    n ≤ lowestHead first rest ↔ ∀ o ∈ first :: rest, n ≤ o.headBlockNumber := by
  unfold lowestHead
  rw [foldl_min_eq, foldl_min_iff, List.forall_mem_map, List.forall_mem_cons]

theorem lowestHead_perm {first first' : WitnessObservation} {rest rest' : List WitnessObservation}
    (h : (first :: rest).Perm (first' :: rest')) : lowestHead first rest = lowestHead first' rest' := by
  apply eq_of_forall_le_iff
  intro n
  rw [le_lowestHead, le_lowestHead]
  constructor
  · exact fun hn o ho => hn o (h.mem_iff.2 ho)
  · exact fun hn o ho => hn o (h.mem_iff.1 ho)

end Heads

/-! ## One witness for each failure domain -/

section Witnesses

variable {κ : Type} [LinearOrder κ] {collationKey : String → κ} {observations observations' : List WitnessObservation}

/-- The key the endpoints of a failure domain are ordered by. -/
abbrev idKey (collationKey : String → κ) (o : WitnessObservation) : κ := collationKey o.endpointId

/-- The first endpoint of a failure domain. -/
def representative (collationKey : String → κ) (group : List WitnessObservation) : Option WitnessObservation :=
  (sortOn (idKey collationKey) group).head?

/-- The failure domains of the observations, in the order `independentWitnesses` forms them. -/
def domainsOf (collationKey : String → κ) (observations : List WitnessObservation) : List (List WitnessObservation) :=
  independenceGroups claimOf
    (sortOn (fun o => collationKey (o.trustDomain ++ "\x00" ++ o.providerGroup ++ "\x00" ++ o.endpointId)) observations)

theorem domainsOf_components : Components (Linked claimOf) observations (domainsOf collationKey observations) :=
  (independenceGroups_components _).of_perm (sortOn_perm _ _)

theorem independentWitnesses_perm :
    (independentWitnesses collationKey observations).Perm
      ((domainsOf collationKey observations).filterMap (representative collationKey)) :=
  sortOn_perm _ _

theorem exists_representative {group : List WitnessObservation} (h : group ≠ []) :
    ∃ o ∈ group, representative collationKey group = some o := by
  unfold representative
  cases hhead : (sortOn (idKey collationKey) group).head? with
  | none =>
    rw [List.head?_eq_none_iff] at hhead
    have hlength := length_sortOn (idKey collationKey) group
    rw [hhead] at hlength
    exact absurd (List.eq_nil_of_length_eq_zero hlength.symm) h
  | some o => exact ⟨o, (le_of_head?_sortOn hhead).1, rfl⟩

/-- As many witnesses are selected as there are failure domains. -/
theorem length_independentWitnesses :
    (independentWitnesses collationKey observations).length = (domainsOf collationKey observations).length := by
  rw [independentWitnesses_perm.length_eq]
  refine List.filterMap_length_eq_length.2 fun group hgroup => ?_
  obtain ⟨o, -, ho⟩ : ∃ o ∈ group, representative collationKey group = some o :=
    exists_representative (domainsOf_components.nonempty group hgroup)
  rw [ho]
  rfl

theorem mem_independentWitnesses {o : WitnessObservation} (h : o ∈ independentWitnesses collationKey observations) :
    o ∈ observations := by
  obtain ⟨group, hgroup, hhead⟩ := List.mem_filterMap.1 (independentWitnesses_perm.mem_iff.1 h)
  exact domainsOf_components.mem hgroup (le_of_head?_sortOn hhead).1

/-- No chain of links among the observations joins two of the selected witnesses. -/
theorem independentWitnesses_unconnected :
    (independentWitnesses collationKey observations).Pairwise fun a b =>
      ¬ Connected (Linked claimOf) observations a b := by
  have hsymm : ∀ {a b : WitnessObservation}, ¬ Connected (Linked claimOf) observations a b →
      ¬ Connected (Linked claimOf) observations b a :=
    fun h hba => h (hba.symm (Linked.symm claimOf))
  rw [independentWitnesses_perm.pairwise_iff hsymm, List.pairwise_filterMap]
  refine (domainsOf_components.unconnected (Linked.symm claimOf) (Linked.refl claimOf)).imp fun hapart => ?_
  intro a ha b hb
  exact hapart a (le_of_head?_sortOn ha).1 b (le_of_head?_sortOn hb).1

/-- The ids of the selected witnesses do not depend on the order of the observations, up to ids that
`localeCompare` does not tell apart. -/
theorem independentWitnesses_keys (h : observations.Perm observations') :
    (independentWitnesses collationKey observations).map (idKey collationKey) =
      (independentWitnesses collationKey observations').map (idKey collationKey) := by
  -- the least key of a failure domain depends on its members only
  have hleast : ∀ c d : List WitnessObservation, Components.members c = Components.members d →
      (representative collationKey c).map (idKey collationKey) = (representative collationKey d).map (idKey collationKey) := by
    intro c d hcd
    have hmem : ∀ x, x ∈ c ↔ x ∈ d := fun x => Set.ext_iff.1 hcd x
    cases hc : representative collationKey c with
    | none =>
      cases hd : representative collationKey d with
      | none => rfl
      | some b =>
        have hbc := (hmem b).2 (le_of_head?_sortOn hd).1
        obtain ⟨o, -, ho⟩ : ∃ o ∈ c, representative collationKey c = some o :=
          exists_representative (List.ne_nil_of_mem hbc)
        cases hc.symm.trans ho
    | some a =>
      obtain ⟨ha, hleast⟩ := le_of_head?_sortOn hc
      obtain ⟨b, hb, hd⟩ : ∃ o ∈ d, representative collationKey d = some o :=
        exists_representative (List.ne_nil_of_mem ((hmem a).1 ha))
      obtain ⟨-, hleast'⟩ := le_of_head?_sortOn hd
      rw [hd]
      exact congrArg some (le_antisymm (hleast b ((hmem b).2 hb)) (hleast' a ((hmem a).1 ha)))
  have hkeys : ∀ l : List WitnessObservation,
      ((domainsOf collationKey l).filterMap (representative collationKey)).map (idKey collationKey) =
        ((domainsOf collationKey l).map fun c => (representative collationKey c).map (idKey collationKey)).filterMap id := by
    intro l
    rw [List.map_filterMap, List.filterMap_map]
    rfl
  have hcomponents : ∀ l, Components (Linked claimOf) l (domainsOf collationKey l) := fun _ => domainsOf_components
  have hdomains := Components.map_perm (Linked.symm claimOf) (Linked.refl claimOf) (hcomponents observations)
    (hcomponents observations') (fun x => h.mem_iff) hleast
  apply map_sortOn_eq
  show (((domainsOf collationKey observations).filterMap (representative collationKey)).map (idKey collationKey)).Perm
    (((domainsOf collationKey observations').filterMap (representative collationKey)).map (idKey collationKey))
  rw [hkeys, hkeys]
  exact hdomains.filterMap id

end Witnesses

/-! ## The counted witnesses -/

section Counted

variable {κ : Type} [LinearOrder κ] {toLowerCase : String → String} {collationKey : String → κ}
  {expected : ExpectedIdentity} {policy : QuorumPolicy} {nowMs height : Int}
  {observations observations' withHash withHash' : List WitnessObservation} {rejected : List RejectedWitness}
  {degraded : List String}

/-- The hash of a witness as it is compared. -/
abbrev hashKey (toLowerCase : String → String) (o : WitnessObservation) : String :=
  (o.hashAtHeight.map toLowerCase).getD ""

/-- The parts of a result that say what was agreed and by whom. -/
structure Agreement where
  outcome : QuorumOutcome
  height : Option Int
  blockHash : Option String
  agreeingEndpointIds : List String
  deriving DecidableEq, Repr

def QuorumResult.agreement (r : QuorumResult) : Agreement where
  outcome := r.outcome
  height := r.height
  blockHash := r.blockHash
  agreeingEndpointIds := r.agreeingEndpointIds

/-- The agreement of witnesses that all report one hash. -/
def agreementOn (collationKey : String → κ) (policy : QuorumPolicy) (height : Int) (hash : String)
    (withHash : List WitnessObservation) : Agreement where
  outcome :=
    if ((independentWitnesses collationKey withHash).length : Int) < policy.minIndependentTrustDomains then
      .insufficientWitnesses
    else .agreed
  height := some height
  blockHash := some hash
  agreeingEndpointIds := (independentWitnesses collationKey withHash).map (·.endpointId)

theorem judge_one {hash : String} (hne : withHash ≠ []) (hone : ∀ o ∈ withHash, hashKey toLowerCase o = hash) :
    (judge toLowerCase collationKey policy height withHash rejected degraded).agreement =
      agreementOn collationKey policy height hash withHash := by
  have hrows : (byHash toLowerCase withHash).rows = [(hash, withHash)] := rows_groupBy_of_const hne hone
  unfold judge
  simp only [hrows]
  rfl

theorem judge_many {a b : WitnessObservation} (ha : a ∈ withHash) (hb : b ∈ withHash)
    (hne : hashKey toLowerCase a ≠ hashKey toLowerCase b) :
    (judge toLowerCase collationKey policy height withHash rejected degraded).agreement =
      { outcome := .disagreement, height := some height, blockHash := none, agreeingEndpointIds := [] } := by
  obtain ⟨x, y, rest, hrows⟩ : ∃ x y rest, (byHash toLowerCase withHash).rows = x :: y :: rest :=
    rows_groupBy_of_ne ha hb hne
  unfold judge
  simp only [hrows]
  rfl

/-- Either there is no hash, or there is one, or there are two. -/
theorem hashes_cases (toLowerCase : String → String) (withHash : List WitnessObservation) :
    withHash = [] ∨ (∃ hash, withHash ≠ [] ∧ ∀ o ∈ withHash, hashKey toLowerCase o = hash) ∨
      ∃ a ∈ withHash, ∃ b ∈ withHash, hashKey toLowerCase a ≠ hashKey toLowerCase b := by
  cases withHash with
  | nil => exact Or.inl rfl
  | cons o rest =>
    right
    by_cases hone : ∀ x ∈ o :: rest, hashKey toLowerCase x = hashKey toLowerCase o
    · exact Or.inl ⟨_, List.cons_ne_nil _ _, hone⟩
    · push Not at hone
      obtain ⟨x, hx, hne⟩ := hone
      exact Or.inr ⟨x, hx, o, List.mem_cons_self, hne⟩

/-- The witnesses that count: admissible, not lagging, with a hash at the height. -/
def countedOf (toLowerCase : String → String) (expected : ExpectedIdentity) (policy : QuorumPolicy) (nowMs : Int)
    (observations : List WitnessObservation) : List WitnessObservation :=
  (notLaggingOf policy (admissibleOf toLowerCase expected policy nowMs observations)).filter (·.hashAtHeight.isSome)

/-- A fresh observation of the expected chain: what admission before the comparison of heads asks for. -/
structure Admitted (toLowerCase : String → String) (expected : ExpectedIdentity) (policy : QuorumPolicy) (nowMs : Int)
    (o : WitnessObservation) : Prop where
  blockchainId : o.blockchainId.map toLowerCase = some (toLowerCase expected.blockchainId)
  genesisHash : expected.genesisHash.isSome = true → o.genesisHash.map toLowerCase = expected.genesisHash.map toLowerCase
  evmChainId : o.evmChainId = some expected.evmChainId
  networkId : o.networkId = some expected.networkId
  fresh : nowMs - o.observedAtMs ≤ policy.maxObservationAgeMs

theorem identityRejection_eq_none {o : WitnessObservation} :
    identityRejection toLowerCase expected policy nowMs o = none ↔ Admitted toLowerCase expected policy nowMs o := by
  unfold identityRejection
  split
  · rename_i blockchainId evmChainId networkId hblockchain hevm hnetwork
    constructor
    · intro h
      split_ifs at h with h₁ h₂ h₃ h₄ h₅
      rw [Bool.and_eq_true, decide_eq_true_eq, not_and, not_not] at h₂
      rw [not_not] at h₁ h₃ h₄
      refine ⟨?_, h₂, ?_, ?_, not_lt.1 h₅⟩
      · rw [hblockchain, Option.map_some, h₁]
      · rw [hevm, h₃]
      · rw [hnetwork, h₄]
    · intro h
      have h₁ : toLowerCase blockchainId = toLowerCase expected.blockchainId := by
        have h := h.blockchainId
        rw [hblockchain] at h
        exact Option.some_inj.1 h
      have h₃ : evmChainId = expected.evmChainId := Option.some_inj.1 (hevm.symm.trans h.evmChainId)
      have h₄ : networkId = expected.networkId := Option.some_inj.1 (hnetwork.symm.trans h.networkId)
      rw [if_neg (not_not.2 h₁), if_neg ?_, if_neg (not_not.2 h₃), if_neg (not_not.2 h₄), if_neg (not_lt.2 h.fresh)]
      rw [Bool.and_eq_true, decide_eq_true_eq, not_and, not_not]
      exact h.genesisHash
  · rename_i hmissing
    constructor
    · intro h
      cases h
    · intro h
      obtain ⟨blockchainId, hblockchain, -⟩ := Option.map_eq_some_iff.1 h.blockchainId
      exact absurd h.networkId (hmissing _ _ _ hblockchain h.evmChainId)

theorem mem_admissibleOf {o : WitnessObservation} :
    o ∈ admissibleOf toLowerCase expected policy nowMs observations ↔
      o ∈ observations ∧ Admitted toLowerCase expected policy nowMs o := by
  unfold admissibleOf
  rw [List.mem_filter, Option.isNone_iff_eq_none, identityRejection_eq_none]

/-- Who counts: an admitted observation, no further behind the leading head than allowed, with a hash. -/
theorem mem_countedOf {o : WitnessObservation} :
    o ∈ countedOf toLowerCase expected policy nowMs observations ↔
      o ∈ observations ∧ Admitted toLowerCase expected policy nowMs o ∧
        leadingHead (admissibleOf toLowerCase expected policy nowMs observations) - o.headBlockNumber ≤
          policy.maxHeadLagBlocks ∧
        o.hashAtHeight.isSome = true := by
  unfold countedOf notLaggingOf lags
  rw [List.mem_filter, List.mem_filter, mem_admissibleOf, Bool.not_eq_true', decide_eq_false_iff_not, not_lt]
  simp only [and_assoc]

theorem admissibleOf_perm (h : observations.Perm observations') :
    (admissibleOf toLowerCase expected policy nowMs observations).Perm
      (admissibleOf toLowerCase expected policy nowMs observations') :=
  h.filter _

theorem notLaggingOf_perm (h : observations.Perm observations') :
    (notLaggingOf policy (admissibleOf toLowerCase expected policy nowMs observations)).Perm
      (notLaggingOf policy (admissibleOf toLowerCase expected policy nowMs observations')) := by
  have hadmissible : (admissibleOf toLowerCase expected policy nowMs observations).Perm
      (admissibleOf toLowerCase expected policy nowMs observations') := admissibleOf_perm h
  unfold notLaggingOf
  rw [leadingHead_perm hadmissible]
  exact hadmissible.filter _

theorem countedOf_perm (h : observations.Perm observations') :
    (countedOf toLowerCase expected policy nowMs observations).Perm
      (countedOf toLowerCase expected policy nowMs observations') :=
  (notLaggingOf_perm h).filter _

/-! ## The outcome -/

theorem evaluateQuorum_nil
    (h : notLaggingOf policy (admissibleOf toLowerCase expected policy nowMs observations) = []) :
    (evaluateQuorum toLowerCase collationKey observations expected policy nowMs).agreement =
      { outcome := .insufficientWitnesses, height := none, blockHash := none, agreeingEndpointIds := [] } := by
  unfold evaluateQuorum
  simp only [h]
  split <;> rfl

theorem evaluateQuorum_cons {first : WitnessObservation} {rest : List WitnessObservation}
    (h : notLaggingOf policy (admissibleOf toLowerCase expected policy nowMs observations) = first :: rest) :
    ∃ rejected degraded, evaluateQuorum toLowerCase collationKey observations expected policy nowMs =
      judge toLowerCase collationKey policy (lowestHead first rest)
        (countedOf toLowerCase expected policy nowMs observations) rejected degraded := by
  have hne : (admissibleOf toLowerCase expected policy nowMs observations).isEmpty = false := by
    rw [← Bool.not_eq_true, List.isEmpty_iff]
    intro hnil
    rw [hnil] at h
    cases h
  unfold evaluateQuorum countedOf
  simp only [h, hne, Bool.false_eq_true, if_false]
  exact ⟨_, _, rfl⟩

/-- Agreed witnesses report one hash and fall into enough failure domains. -/
theorem judge_agreed (h : (judge toLowerCase collationKey policy height withHash rejected degraded).outcome = .agreed) :
    ∃ hash, withHash ≠ [] ∧ (∀ o ∈ withHash, hashKey toLowerCase o = hash) ∧
      policy.minIndependentTrustDomains ≤ (independentWitnesses collationKey withHash).length ∧
      (judge toLowerCase collationKey policy height withHash rejected degraded).agreement =
        agreementOn collationKey policy height hash withHash := by
  rcases hashes_cases toLowerCase withHash with rfl | ⟨hash, hne, hone⟩ | ⟨a, ha, b, hb, hab⟩
  · cases h
  · have hagreement : (judge toLowerCase collationKey policy height withHash rejected degraded).agreement =
        agreementOn collationKey policy height hash withHash := judge_one hne hone
    refine ⟨hash, hne, hone, ?_, hagreement⟩
    by_contra hshort
    have houtcome := congrArg Agreement.outcome hagreement
    unfold agreementOn at houtcome
    rw [if_pos (not_le.1 hshort)] at houtcome
    cases houtcome.symm.trans h
  · have hmany : (judge toLowerCase collationKey policy height withHash rejected degraded).agreement = _ :=
      judge_many ha hb hab
    cases (congrArg Agreement.outcome hmany).symm.trans h

/-- What is agreed does not depend on the order of the witnesses. -/
theorem judge_perm {rejected' : List RejectedWitness} {degraded' : List String} (h : withHash.Perm withHash') :
    let before := judge toLowerCase collationKey policy height withHash rejected degraded
    let after := judge toLowerCase collationKey policy height withHash' rejected' degraded'
    before.outcome = after.outcome ∧ before.height = after.height ∧ before.blockHash = after.blockHash ∧
      before.agreeingEndpointIds.map collationKey = after.agreeingEndpointIds.map collationKey := by
  intro before after
  rcases hashes_cases toLowerCase withHash with rfl | ⟨hash, hne, hone⟩ | ⟨a, ha, b, hb, hab⟩
  · have hnil : withHash' = [] := h.nil_eq.symm
    subst hnil
    exact ⟨rfl, rfl, rfl, rfl⟩
  · have hne' : withHash' ≠ [] := fun hnil => hne (hnil ▸ h).eq_nil
    have hbefore : before.agreement = agreementOn collationKey policy height hash withHash := judge_one hne hone
    have hafter : after.agreement = agreementOn collationKey policy height hash withHash' :=
      judge_one hne' fun o ho => hone o (h.mem_iff.2 ho)
    -- the witnesses of the two orders have the same keys, and so as many of them
    have hkeys : (independentWitnesses collationKey withHash).map (idKey collationKey) =
        (independentWitnesses collationKey withHash').map (idKey collationKey) := independentWitnesses_keys h
    have hlength : (independentWitnesses collationKey withHash).length =
        (independentWitnesses collationKey withHash').length := by
      have := congrArg List.length hkeys
      rwa [List.length_map, List.length_map] at this
    refine ⟨?_, ?_, ?_, ?_⟩
    · have houtcome : (agreementOn collationKey policy height hash withHash).outcome =
          (agreementOn collationKey policy height hash withHash').outcome := by
        unfold agreementOn
        rw [hlength]
      exact (congrArg Agreement.outcome hbefore).trans (houtcome.trans (congrArg Agreement.outcome hafter).symm)
    · exact (congrArg Agreement.height hbefore).trans (congrArg Agreement.height hafter).symm
    · exact (congrArg Agreement.blockHash hbefore).trans (congrArg Agreement.blockHash hafter).symm
    · have hids := congrArg Agreement.agreeingEndpointIds hbefore
      have hids' := congrArg Agreement.agreeingEndpointIds hafter
      show before.agreement.agreeingEndpointIds.map collationKey = after.agreement.agreeingEndpointIds.map collationKey
      rw [hids, hids']
      show ((independentWitnesses collationKey withHash).map (·.endpointId)).map collationKey =
        ((independentWitnesses collationKey withHash').map (·.endpointId)).map collationKey
      rw [List.map_map, List.map_map]
      exact hkeys
  · have hbefore : before.agreement = _ := judge_many ha hb hab
    have hafter : after.agreement = _ := judge_many (h.mem_iff.1 ha) (h.mem_iff.1 hb) hab
    have hsame := hbefore.trans hafter.symm
    refine ⟨congrArg Agreement.outcome hsame, congrArg Agreement.height hsame, congrArg Agreement.blockHash hsame, ?_⟩
    exact congrArg (fun a : Agreement => a.agreeingEndpointIds.map collationKey) hsame

/-- The agreed height is the lowest head of the witnesses that do not lag, and those with a hash at it are
counted. -/
theorem evaluateQuorum_agreed
    (h : (evaluateQuorum toLowerCase collationKey observations expected policy nowMs).outcome = .agreed) :
    ∃ height hash,
      (∀ n, n ≤ height ↔ ∀ o ∈ notLaggingOf policy (admissibleOf toLowerCase expected policy nowMs observations),
        n ≤ o.headBlockNumber) ∧
      countedOf toLowerCase expected policy nowMs observations ≠ [] ∧
      (∀ o ∈ countedOf toLowerCase expected policy nowMs observations, hashKey toLowerCase o = hash) ∧
      policy.minIndependentTrustDomains ≤
        (independentWitnesses collationKey (countedOf toLowerCase expected policy nowMs observations)).length ∧
      (evaluateQuorum toLowerCase collationKey observations expected policy nowMs).agreement =
        agreementOn collationKey policy height hash (countedOf toLowerCase expected policy nowMs observations) := by
  cases hlagging : notLaggingOf policy (admissibleOf toLowerCase expected policy nowMs observations) with
  | nil =>
    have hnone : (evaluateQuorum toLowerCase collationKey observations expected policy nowMs).agreement = _ :=
      evaluateQuorum_nil hlagging
    cases (congrArg Agreement.outcome hnone).symm.trans h
  | cons first rest =>
    obtain ⟨rejected, degraded, hjudge⟩ : ∃ rejected degraded,
      evaluateQuorum toLowerCase collationKey observations expected policy nowMs =
        judge toLowerCase collationKey policy (lowestHead first rest)
          (countedOf toLowerCase expected policy nowMs observations) rejected degraded := evaluateQuorum_cons hlagging
    rw [hjudge] at h ⊢
    obtain ⟨hash, hne, hone, hmin, hagreement⟩ := judge_agreed h
    exact ⟨lowestHead first rest, hash, fun n => le_lowestHead, hne, hone, hmin, hagreement⟩

/-- Witnesses are too few when none is counted, or when the counted ones fall into too few failure domains. -/
theorem evaluateQuorum_insufficient
    (h : (evaluateQuorum toLowerCase collationKey observations expected policy nowMs).outcome = .insufficientWitnesses) :
    countedOf toLowerCase expected policy nowMs observations = [] ∨
      ((independentWitnesses collationKey (countedOf toLowerCase expected policy nowMs observations)).length : Int) <
        policy.minIndependentTrustDomains := by
  cases hlagging : notLaggingOf policy (admissibleOf toLowerCase expected policy nowMs observations) with
  | nil =>
    left
    unfold countedOf
    rw [hlagging, List.filter_nil]
  | cons first rest =>
    obtain ⟨rejected, degraded, hjudge⟩ : ∃ rejected degraded,
      evaluateQuorum toLowerCase collationKey observations expected policy nowMs =
        judge toLowerCase collationKey policy (lowestHead first rest)
          (countedOf toLowerCase expected policy nowMs observations) rejected degraded := evaluateQuorum_cons hlagging
    rw [hjudge] at h
    rcases hashes_cases toLowerCase (countedOf toLowerCase expected policy nowMs observations) with
      hnil | ⟨hash, hne, hone⟩ | ⟨a, ha, b, hb, hab⟩
    · exact Or.inl hnil
    · right
      by_contra henough
      have houtcome : (agreementOn collationKey policy (lowestHead first rest) hash
          (countedOf toLowerCase expected policy nowMs observations)).outcome = .insufficientWitnesses :=
        (congrArg Agreement.outcome (judge_one hne hone)).symm.trans h
      unfold agreementOn at houtcome
      rw [if_neg henough] at houtcome
      cases houtcome
    · have hmany : (judge toLowerCase collationKey policy (lowestHead first rest)
          (countedOf toLowerCase expected policy nowMs observations) rejected degraded).agreement = _ :=
        judge_many ha hb hab
      cases (congrArg Agreement.outcome hmany).symm.trans h

/-- The outcome, the height, the hash and the agreeing endpoints do not depend on the order of the
observations. -/
theorem evaluateQuorum_perm (h : observations.Perm observations') :
    let before := evaluateQuorum toLowerCase collationKey observations expected policy nowMs
    let after := evaluateQuorum toLowerCase collationKey observations' expected policy nowMs
    before.outcome = after.outcome ∧ before.height = after.height ∧ before.blockHash = after.blockHash ∧
      before.agreeingEndpointIds.map collationKey = after.agreeingEndpointIds.map collationKey := by
  intro before after
  have hperm : (notLaggingOf policy (admissibleOf toLowerCase expected policy nowMs observations)).Perm
      (notLaggingOf policy (admissibleOf toLowerCase expected policy nowMs observations')) := notLaggingOf_perm h
  cases hlagging : notLaggingOf policy (admissibleOf toLowerCase expected policy nowMs observations) with
  | nil =>
    rw [hlagging] at hperm
    have hbefore : before.agreement = _ := evaluateQuorum_nil hlagging
    have hafter : after.agreement = _ := evaluateQuorum_nil hperm.nil_eq.symm
    have hsame := hbefore.trans hafter.symm
    refine ⟨congrArg Agreement.outcome hsame, congrArg Agreement.height hsame, congrArg Agreement.blockHash hsame, ?_⟩
    exact congrArg (fun a : Agreement => a.agreeingEndpointIds.map collationKey) hsame
  | cons first rest =>
    cases hlagging' : notLaggingOf policy (admissibleOf toLowerCase expected policy nowMs observations') with
    | nil =>
      rw [hlagging, hlagging'] at hperm
      cases hperm.eq_nil
    | cons first' rest' =>
      rw [hlagging, hlagging'] at hperm
      obtain ⟨_, _, hjudge⟩ : ∃ rejected degraded, before =
          judge toLowerCase collationKey policy (lowestHead first rest)
            (countedOf toLowerCase expected policy nowMs observations) rejected degraded :=
        evaluateQuorum_cons hlagging
      obtain ⟨_, _, hjudge'⟩ : ∃ rejected degraded, after =
          judge toLowerCase collationKey policy (lowestHead first' rest')
            (countedOf toLowerCase expected policy nowMs observations') rejected degraded :=
        evaluateQuorum_cons hlagging'
      rw [hjudge, hjudge', lowestHead_perm hperm]
      exact judge_perm (countedOf_perm h)

/-! ## Who is turned away -/

theorem judge_rejected : (judge toLowerCase collationKey policy height withHash rejected degraded).rejected = rejected := by
  unfold judge
  rcases hrows : (byHash toLowerCase withHash).rows with _ | ⟨row, _ | ⟨row', rows⟩⟩ <;> simp only [hrows] <;> rfl

def laggingRejection (leading : Int) (o : WitnessObservation) : RejectedWitness :=
  rejectedAs o (.headLagging, "head is " ++ toString (leading - o.headBlockNumber) ++ " blocks behind the leading witness")

def hashlessRejection (o : WitnessObservation) : RejectedWitness :=
  rejectedAs o (.noHashAtHeight, "the endpoint did not return a block hash at the common height")

/-- The rejections, one filter after the other. -/
theorem evaluateQuorum_rejected :
    (evaluateQuorum toLowerCase collationKey observations expected policy nowMs).rejected =
      (observations.filterMap fun o => (identityRejection toLowerCase expected policy nowMs o).map (rejectedAs o)) ++
        ((admissibleOf toLowerCase expected policy nowMs observations).filter
          (lags policy (leadingHead (admissibleOf toLowerCase expected policy nowMs observations)))).map
            (laggingRejection (leadingHead (admissibleOf toLowerCase expected policy nowMs observations))) ++
        ((notLaggingOf policy (admissibleOf toLowerCase expected policy nowMs observations)).filter
          (·.hashAtHeight.isNone)).map hashlessRejection := by
  cases hadmissible : admissibleOf toLowerCase expected policy nowMs observations with
  | nil =>
    unfold evaluateQuorum
    rw [hadmissible]
    exact (List.append_nil _).symm.trans (List.append_nil _).symm
  | cons o admissible =>
    cases hlagging : notLaggingOf policy (o :: admissible) with
    | nil =>
      unfold evaluateQuorum
      simp only [hadmissible, hlagging]
      exact (List.append_nil _).symm
    | cons first rest =>
      unfold evaluateQuorum
      simp only [hadmissible, hlagging]
      exact judge_rejected

/-- An observation is counted, or it is among the rejected ones. -/
theorem counted_or_rejected {o : WitnessObservation} (ho : o ∈ observations) :
    o ∈ countedOf toLowerCase expected policy nowMs observations ∨
      ∃ r ∈ (evaluateQuorum toLowerCase collationKey observations expected policy nowMs).rejected,
        r.endpointId = o.endpointId ∧ r.trustDomain = o.trustDomain := by
  rw [evaluateQuorum_rejected]
  cases hrejection : identityRejection toLowerCase expected policy nowMs o with
  | some rejection =>
    right
    refine ⟨rejectedAs o rejection, ?_, rfl, rfl⟩
    apply List.mem_append_left
    apply List.mem_append_left
    rw [List.mem_filterMap]
    exact ⟨o, ho, by rw [hrejection, Option.map_some]⟩
  | none =>
    -- past the identity checks it can still lag, or report no hash
    have hadmissible : o ∈ admissibleOf toLowerCase expected policy nowMs observations :=
      mem_admissibleOf.2 ⟨ho, identityRejection_eq_none.1 hrejection⟩
    cases hlags : lags policy (leadingHead (admissibleOf toLowerCase expected policy nowMs observations)) o with
    | true =>
      right
      let leading := leadingHead (admissibleOf toLowerCase expected policy nowMs observations)
      refine ⟨laggingRejection leading o, ?_, rfl, rfl⟩
      apply List.mem_append_left
      apply List.mem_append_right
      exact List.mem_map_of_mem (List.mem_filter.2 ⟨hadmissible, hlags⟩)
    | false =>
      have hkept : o ∈ notLaggingOf policy (admissibleOf toLowerCase expected policy nowMs observations) :=
        List.mem_filter.2 ⟨hadmissible, by rw [hlags]; rfl⟩
      cases hhash : o.hashAtHeight with
      | none =>
        right
        refine ⟨hashlessRejection o, ?_, rfl, rfl⟩
        apply List.mem_append_right
        exact List.mem_map_of_mem (List.mem_filter.2 ⟨hkept, by rw [hhash]; rfl⟩)
      | some hash => exact Or.inl (List.mem_filter.2 ⟨hkept, by rw [hhash]; rfl⟩)

end Counted

/-! ## Agreed quorums -/

section Agreed

variable {κ : Type} [LinearOrder κ] (toLowerCase : String → String) (collationKey : String → κ)
  (expected : ExpectedIdentity) (policy : QuorumPolicy) (nowMs : Int)

/-- Two observations share a trust domain or a provider group, or a merge declares them one witness. -/
def DeclaredLink (merges : List (String × String)) (a b : WitnessObservation) : Prop :=
  (claimOf a).Linked (claimOf b) ∨ (a.endpointId, b.endpointId) ∈ merges ∨ (b.endpointId, a.endpointId) ∈ merges

/-- An observation whose trust domain has the merges folded into it. -/
def collapseObservation (merges : List (String × String)) (declared : List WitnessObservation) (o : WitnessObservation) :
    WitnessObservation :=
  { o with toIndependenceClaim := collapsedClaim claimOf (·.endpointId) declared merges o }

/-- A chain of declared links is a chain of links once the merges are folded. -/
theorem connected_collapse {merges : List (String × String)} {declared counted : List WitnessObservation}
    (hids : (declared.map (·.endpointId)).Nodup) {a b : WitnessObservation}
    (h : Connected (DeclaredLink merges) (declared.filter (collapseObservation merges declared · ∈ counted)) a b) :
    Connected (Linked claimOf) counted (collapseObservation merges declared a) (collapseObservation merges declared b) := by
  induction h with
  | refl => exact .refl _
  | @tail x y _ hlast ih =>
    obtain ⟨hx, hy, hlink⟩ := hlast
    rw [List.mem_filter, decide_eq_true_eq] at hx hy
    exact ih.trans (.of_linked hx.2 hy.2 (collapsedClaim_linked (.of_nodup hids) merges hx.1 hy.1 hlink))

/-- What it means that witnesses agree: the selected ones are independent and enough, and every counted one
is a fresh observation of the expected chain, close to the leading head, that reports the agreed hash. -/
structure AgreedQuorum (observations : List WitnessObservation) (result : QuorumResult)
    (witnesses : List WitnessObservation) (height : Int) (hash : String) : Prop where
  agreedHeight : result.height = some height
  agreedHash : result.blockHash = some hash
  selected : result.agreeingEndpointIds = witnesses.map (·.endpointId)
  enough : policy.minIndependentTrustDomains ≤ witnesses.length
  counted : ∀ w ∈ witnesses, w ∈ countedOf toLowerCase expected policy nowMs observations
  independent : witnesses.Pairwise fun v w =>
    ¬ Connected (Linked claimOf) (countedOf toLowerCase expected policy nowMs observations) v w
  /-- Where merges were declared and folded into the trust domains, no merge joins two of them either. -/
  unmerged : ∀ merges declared, (declared.map (·.endpointId)).Nodup →
    observations = declared.map (collapseObservation merges declared) →
      witnesses.Pairwise fun v w => ∀ a b, collapseObservation merges declared a = v → collapseObservation merges declared b = w →
        ¬ Connected (DeclaredLink merges) (declared.filter (collapseObservation merges declared · ∈
          countedOf toLowerCase expected policy nowMs observations)) a b
  admitted : ∀ w ∈ countedOf toLowerCase expected policy nowMs observations, Admitted toLowerCase expected policy nowMs w
  near : ∀ w ∈ countedOf toLowerCase expected policy nowMs observations,
    leadingHead (admissibleOf toLowerCase expected policy nowMs observations) - w.headBlockNumber ≤ policy.maxHeadLagBlocks
  reached : ∀ w ∈ countedOf toLowerCase expected policy nowMs observations, height ≤ w.headBlockNumber
  sameHash : ∀ w ∈ countedOf toLowerCase expected policy nowMs observations,
    ∃ reported, w.hashAtHeight = some reported ∧ toLowerCase reported = hash
  /-- Whoever is not counted was turned away. -/
  others : ∀ o ∈ observations, o ∈ countedOf toLowerCase expected policy nowMs observations ∨
    ∃ r ∈ result.rejected, r.endpointId = o.endpointId ∧ r.trustDomain = o.trustDomain

variable {toLowerCase collationKey expected policy nowMs}

theorem agreedQuorum {observations : List WitnessObservation}
    (h : (evaluateQuorum toLowerCase collationKey observations expected policy nowMs).outcome = .agreed) :
    ∃ height hash, AgreedQuorum toLowerCase expected policy nowMs observations
      (evaluateQuorum toLowerCase collationKey observations expected policy nowMs)
      (independentWitnesses collationKey (countedOf toLowerCase expected policy nowMs observations)) height hash := by
  obtain ⟨height, hash, hheight, -, hhash, henough, hagreement⟩ := evaluateQuorum_agreed h
  refine ⟨height, hash, ?_⟩
  constructor
  case agreedHeight => exact congrArg Agreement.height hagreement
  case agreedHash => exact congrArg Agreement.blockHash hagreement
  case selected => exact congrArg Agreement.agreeingEndpointIds hagreement
  case enough => exact henough
  case counted => exact fun w hw => mem_independentWitnesses hw
  case independent => exact independentWitnesses_unconnected
  case unmerged =>
    intro merges declared hids _
    -- collapsing declared merges only follows connections that are there already
    refine independentWitnesses_unconnected.imp fun hapart => ?_
    rintro a b rfl rfl hconnected
    exact hapart (connected_collapse hids hconnected)
  case admitted => exact fun w hw => (mem_countedOf.1 hw).2.1
  case near => exact fun w hw => (mem_countedOf.1 hw).2.2.1
  case reached =>
    intro w hw
    exact (hheight height).1 le_rfl w (List.mem_of_mem_filter hw)
  case sameHash =>
    intro w hw
    obtain ⟨reported, hreported⟩ := Option.isSome_iff_exists.1 (mem_countedOf.1 hw).2.2.2
    refine ⟨reported, hreported, ?_⟩
    have hkey := hhash w hw
    unfold hashKey at hkey
    rw [hreported] at hkey
    exact hkey
  case others => exact fun o ho => counted_or_rejected ho

variable (toLowerCase collationKey expected policy nowMs) in
/-- An agreed quorum is what it says it is, and nothing of it depends on the order of the observations. The
endpoint ids are told apart as far as `localeCompare` does. -/
theorem evaluateQuorum_sound_symmetric (observations : List WitnessObservation) :
    ((evaluateQuorum toLowerCase collationKey observations expected policy nowMs).outcome = .agreed →
      ∃ witnesses height hash, AgreedQuorum toLowerCase expected policy nowMs observations
        (evaluateQuorum toLowerCase collationKey observations expected policy nowMs) witnesses height hash) ∧
    ∀ observations' : List WitnessObservation, observations.Perm observations' →
      let before := evaluateQuorum toLowerCase collationKey observations expected policy nowMs
      let after := evaluateQuorum toLowerCase collationKey observations' expected policy nowMs
      before.outcome = after.outcome ∧ before.height = after.height ∧ before.blockHash = after.blockHash ∧
        (countedOf toLowerCase expected policy nowMs observations).Perm
          (countedOf toLowerCase expected policy nowMs observations') ∧
        before.agreeingEndpointIds.map collationKey = after.agreeingEndpointIds.map collationKey ∧
        (Function.Injective collationKey → before.agreeingEndpointIds = after.agreeingEndpointIds) := by
  refine ⟨fun hagreed => ⟨_, agreedQuorum hagreed⟩, ?_⟩
  intro observations' hperm before after
  obtain ⟨houtcome, hheight, hhash, hids⟩ : before.outcome = after.outcome ∧ before.height = after.height ∧
      before.blockHash = after.blockHash ∧
      before.agreeingEndpointIds.map collationKey = after.agreeingEndpointIds.map collationKey :=
    evaluateQuorum_perm hperm
  refine ⟨houtcome, hheight, hhash, countedOf_perm hperm, hids, fun hinjective => ?_⟩
  exact List.map_injective_iff.2 hinjective hids

end Agreed

/-! ### A run -/

section Samples

def sampleWitness (endpointId trustDomain providerGroup : String) (head : Int) : WitnessObservation where
  endpointId
  trustDomain
  providerGroup
  blockchainId := some "chain"
  genesisHash := none
  evmChainId := some 43114
  networkId := some 1
  headBlockNumber := head
  hashAtHeight := some "hash"
  observedAtMs := 0
  archiveDepth := .full

def sampleIdentity : ExpectedIdentity where
  blockchainId := "chain"
  genesisHash := none
  evmChainId := 43114
  networkId := 1

def samplePolicy : QuorumPolicy where
  minIndependentTrustDomains := 2
  maxHeadLagBlocks := 5
  maxObservationAgeMs := 1000

def sampleQuorum (observations : List WitnessObservation) : QuorumResult :=
  evaluateQuorum id codeUnits observations sampleIdentity samplePolicy 0

/-- Two witnesses of two domains agree, in either order. -/
theorem evaluateQuorum_sound_symmetric_sample :
    (∃ witnesses height hash, AgreedQuorum id sampleIdentity samplePolicy 0
      [sampleWitness "e1" "a" "x" 900, sampleWitness "e2" "b" "y" 901]
      (sampleQuorum [sampleWitness "e1" "a" "x" 900, sampleWitness "e2" "b" "y" 901]) witnesses height hash) ∧
    (sampleQuorum [sampleWitness "e1" "a" "x" 900, sampleWitness "e2" "b" "y" 901]).agreeingEndpointIds =
      (sampleQuorum [sampleWitness "e2" "b" "y" 901, sampleWitness "e1" "a" "x" 900]).agreeingEndpointIds := by
  obtain ⟨hsound, hsymmetric⟩ := evaluateQuorum_sound_symmetric id codeUnits sampleIdentity samplePolicy 0
    [sampleWitness "e1" "a" "x" 900, sampleWitness "e2" "b" "y" 901]
  refine ⟨hsound (by decide +kernel), ?_⟩
  exact (hsymmetric [sampleWitness "e2" "b" "y" 901, sampleWitness "e1" "a" "x" 900] (List.Perm.swap _ _ _)).2.2.2.2.2
    codeUnits_injective

end Samples

end IcttSentinel.RpcQuorum
