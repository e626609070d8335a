/-
Failure domains, packages/rpc-quorum/src/independence.ts: endpoints that share a trust domain or a
provider group are one domain, transitively, and conclusive correlations are folded into the trust
domains first.
-/
import IcttSentinel.Lib.Components
import IcttSentinel.Lib.Keyed
import IcttSentinel.Lib.Sorting

namespace IcttSentinel.RpcQuorum

open IcttSentinel.Lib

/-- What an operator claims about where an endpoint sits. -/
structure IndependenceClaim where
  trustDomain : String
  providerGroup : String
  deriving DecidableEq, Repr

/-- Two claims name one failure domain directly. -/
def IndependenceClaim.Linked (a b : IndependenceClaim) : Prop :=
  a.trustDomain = b.trustDomain ∨ a.providerGroup = b.providerGroup

instance : DecidableRel IndependenceClaim.Linked := fun _ _ => inferInstanceAs (Decidable (_ ∨ _))

theorem IndependenceClaim.Linked.refl (a : IndependenceClaim) : a.Linked a := Or.inl rfl

theorem IndependenceClaim.Linked.symm {a b : IndependenceClaim} (h : a.Linked b) : b.Linked a :=
  h.imp Eq.symm Eq.symm

section Groups

variable {T : Type} (claim : T → IndependenceClaim)

/-- A component under construction: the items, and the domains and providers named by them. -/
structure Component (T : Type) where
  domains : List String
  providers : List String
  items : List T

def Component.touches (c : Component T) (item : T) : Bool :=
  c.domains.contains (claim item).trustDomain || c.providers.contains (claim item).providerGroup

/-- One round of `independenceGroups`: the item and the components it joins become the last one. -/
def joinItem (components : List (Component T)) (item : T) : List (Component T) :=
  let joined := components.filter (·.touches claim item)
  let merged : Component T :=
    { domains := (claim item).trustDomain :: joined.flatMap (·.domains)
      providers := (claim item).providerGroup :: joined.flatMap (·.providers)
      items := item :: joined.flatMap (·.items) }
  components.filter (!·.touches claim item) ++ [merged]

def independenceGroups (items : List T) : List (List T) := (items.foldl (joinItem claim) []).map (·.items)

/-- Two items are linked by their claims. -/
def Linked (a b : T) : Prop := (claim a).Linked (claim b)

theorem Linked.symm (a b : T) (h : Linked claim a b) : Linked claim b a := IndependenceClaim.Linked.symm h

theorem Linked.refl (a : T) : Linked claim a a := IndependenceClaim.Linked.refl _

/-- A component names the domains and the providers of its items. -/
structure Component.Named (c : Component T) : Prop where
  domains : ∀ x, x ∈ c.domains ↔ ∃ b ∈ c.items, (claim b).trustDomain = x
  providers : ∀ x, x ∈ c.providers ↔ ∃ b ∈ c.items, (claim b).providerGroup = x

variable {claim}

theorem Component.Named.touches_iff {c : Component T} (h : c.Named claim) {item : T} :
    c.touches claim item = true ↔ ∃ b ∈ c.items, Linked claim b item := by
  unfold Component.touches
  rw [Bool.or_eq_true, List.contains_iff_mem, List.contains_iff_mem, h.domains, h.providers]
  constructor
  · rintro (⟨b, hb, hd⟩ | ⟨b, hb, hp⟩)
    · exact ⟨b, hb, Or.inl hd⟩
    · exact ⟨b, hb, Or.inr hp⟩
  · rintro ⟨b, hb, hd | hp⟩
    · exact Or.inl ⟨b, hb, hd⟩
    · exact Or.inr ⟨b, hb, hp⟩

variable (claim) in
/-- What the components of a processed prefix satisfy. -/
structure Grouped (processed : List T) (components : List (Component T)) : Prop where
  named : ∀ c ∈ components, c.Named claim
  components : Components (Linked claim) processed (components.map (·.items))

/-- The names of an item and of the components it joins are those of the merged items. -/
theorem mem_merged {components : List (Component T)} {names : Component T → List String} {nameOf : T → String}
    (h : ∀ c ∈ components, ∀ x, x ∈ names c ↔ ∃ b ∈ c.items, nameOf b = x) (item : T) (x : String) :
    x ∈ nameOf item :: components.flatMap names ↔ ∃ b ∈ item :: components.flatMap (·.items), nameOf b = x := by
  rw [List.mem_cons, List.mem_flatMap]
  constructor
  · rintro (rfl | ⟨c, hc, hx⟩)
    · exact ⟨item, List.mem_cons_self, rfl⟩
    · obtain ⟨b, hb, hbx⟩ := (h c hc x).1 hx
      exact ⟨b, List.mem_cons_of_mem _ (List.mem_flatMap_of_mem hc hb), hbx⟩
  · rintro ⟨b, hb, rfl⟩
    rcases List.mem_cons.1 hb with rfl | hb
    · exact Or.inl rfl
    · obtain ⟨c, hc, hbc⟩ := List.mem_flatMap.1 hb
      exact Or.inr ⟨c, hc, (h c hc _).2 ⟨b, hbc, rfl⟩⟩

/-- One round keeps the components those of the processed items. -/
theorem Grouped.joinItem {processed : List T} {components : List (Component T)}
    (h : Grouped claim processed components) (item : T) :
    Grouped claim (processed ++ [item]) (joinItem claim components item) := by
  classical
  -- a component touches an item exactly when one of its items is linked to it
  let touches : List T → T → Bool := fun c a => decide (∃ b ∈ c, Linked claim b a)
  have htouches : ∀ c ∈ components, c.touches claim item = touches c.items item := by
    intro c hc
    rw [Bool.eq_iff_iff, (h.named c hc).touches_iff]
    exact decide_eq_true_iff.symm
  have hitems : (RpcQuorum.joinItem claim components item).map (·.items) =
      grow touches (components.map (·.items)) item := by
    unfold RpcQuorum.joinItem grow
    rw [List.map_append, List.map_singleton, List.filter_map, List.filter_map, ← List.flatMap_def]
    have hjoined : components.filter (·.touches claim item) =
        components.filter ((fun c => touches c item) ∘ fun c => c.items) :=
      List.filter_congr htouches
    have hrest : components.filter (!·.touches claim item) =
        components.filter ((fun c => !touches c item) ∘ fun c => c.items) :=
      List.filter_congr fun c hc => congrArg (!·) (htouches c hc)
    rw [hjoined, hrest]
  constructor
  · intro c hc
    rcases List.mem_append.1 hc with hc | hc
    · exact h.named c (List.mem_of_mem_filter hc)
    · rw [List.mem_singleton.1 hc]
      exact ⟨mem_merged (fun d hd => (h.named d (List.mem_of_mem_filter hd)).domains) item,
        mem_merged (fun d hd => (h.named d (List.mem_of_mem_filter hd)).providers) item⟩
  · rw [hitems]
    apply h.components.grow (Linked.symm claim)
    intro c _
    exact decide_eq_true_iff

variable (claim) in
theorem grouped_foldl (items : List T) : Grouped claim items (items.foldl (joinItem claim) []) := by
  induction items using List.reverseRecOn with
  | nil => exact ⟨by simp, Components.nil⟩
  | append_singleton items item ih =>
    rw [List.foldl_append]
    exact ih.joinItem item

/-- `independenceGroups` returns the connected components of the items. -/
theorem independenceGroups_components (items : List T) :
    Components (Linked claim) items (independenceGroups claim items) :=
  (grouped_foldl claim items).components

end Groups

/-! ## Declared merges -/

section Collapse

variable {T : Type} (claim : T → IndependenceClaim) (identify : T → String)

/-- The trust domain of each endpoint id; a later item of the same id replaces the domain. -/
def initialDomains (items : List T) : Keyed (Prod.fst : String × String → String) :=
  items.foldl (fun domains item => domains.upsert (identify item, (claim item).trustDomain)) ∅

/-- The domain under an id, `undefined` when there is none. -/
def domainOf (domains : Keyed (Prod.fst : String × String → String)) (id : String) : Option String :=
  (domains.lookup id).map (·.2)

/-- `a < b ? a : b` on strings. -/
def winner (a b : String) : String := if codeUnits a < codeUnits b then a else b

/-- Fold the two sides of one merge into one domain; a merge that names an unknown endpoint is passed
over. -/
def foldMerge (domains : Keyed (Prod.fst : String × String → String)) (merge : String × String) :
    Keyed (Prod.fst : String × String → String) :=
  match domainOf domains merge.1, domainOf domains merge.2 with
  | some a, some b =>
    domains.mapRows (fun row => (row.1, if row.2 = a ∨ row.2 = b then winner a b else row.2)) fun _ => rfl
  | _, _ => domains

/-- The claim of an item once every merge has been folded into the trust domains. -/
def collapsedClaim (items : List T) (merges : List (String × String)) (item : T) : IndependenceClaim where
  trustDomain :=
    (domainOf (merges.foldl foldMerge (initialDomains claim identify items)) (identify item)).getD
      (claim item).trustDomain
  providerGroup := (claim item).providerGroup

def collapsedIndependenceGroups (items : List T) (merges : List (String × String)) : List (List T) :=
  independenceGroups (collapsedClaim claim identify items merges) items

/-! ### What folding joins -/

variable {claim identify} {items : List T}

/-- The domains hold, under the id of every item, a function of the trust domain it declares. -/
def FoldedBy (claim : T → IndependenceClaim) (identify : T → String) (items : List T)
    (domains : Keyed (Prod.fst : String × String → String)) (fold : String → String) : Prop :=
  ∀ item ∈ items, domainOf domains (identify item) = some (fold (claim item).trustDomain)

variable (claim identify items) in
/-- Endpoints that share an id declare one trust domain. -/
def OneDomainEach : Prop :=
  ∀ a ∈ items, ∀ b ∈ items, identify a = identify b → (claim a).trustDomain = (claim b).trustDomain

theorem OneDomainEach.of_nodup (hids : (items.map identify).Nodup) : OneDomainEach claim identify items :=
  fun a ha b hb hab => by rw [List.inj_on_of_nodup_map hids ha hb hab]

theorem foldedBy_initialDomains (hids : OneDomainEach claim identify items) :
    FoldedBy claim identify items (initialDomains claim identify items) id := by
  induction items using List.reverseRecOn with
  | nil => exact fun item hitem => absurd hitem List.not_mem_nil
  | append_singleton items last ih =>
    have hlast : last ∈ items ++ [last] := List.mem_append_right _ List.mem_cons_self
    intro item hitem
    unfold initialDomains domainOf
    rw [List.foldl_append, List.foldl_cons, List.foldl_nil, Keyed.lookup_upsert]
    by_cases hid : identify item = identify last
    · rw [if_pos hid, hids item hitem last hlast hid]
      rfl
    · rw [if_neg hid]
      have hitem : item ∈ items :=
        (List.mem_append.1 hitem).resolve_right fun h => hid (by rw [List.mem_singleton.1 h])
      exact ih (fun a ha b hb => hids a (List.mem_append_left _ ha) b (List.mem_append_left _ hb)) item hitem

/-- One merge keeps equal what was equal, and makes its two sides equal. -/
theorem FoldedBy.foldMerge {domains : Keyed (Prod.fst : String × String → String)} {fold : String → String}
    (h : FoldedBy claim identify items domains fold) (merge : String × String) :
    ∃ fold', FoldedBy claim identify items (foldMerge domains merge) fold' ∧
      (∀ x y, fold x = fold y → fold' x = fold' y) ∧
      ∀ a ∈ items, ∀ b ∈ items, merge = (identify a, identify b) →
        fold' (claim a).trustDomain = fold' (claim b).trustDomain := by
  unfold RpcQuorum.foldMerge
  split
  · rename_i left right hleft hright
    -- the new fold sends both domains to the winner
    refine ⟨fun x => if fold x = left ∨ fold x = right then winner left right else fold x, ?_, ?_, ?_⟩
    · intro item hitem
      unfold domainOf
      rw [Keyed.lookup_mapRows, Option.map_map]
      have hitem := h item hitem
      unfold domainOf at hitem
      cases hrow : domains.lookup (identify item) with
      | none =>
        rw [hrow] at hitem
        cases hitem
      | some row =>
        rw [hrow] at hitem
        have hdomain : row.2 = fold (claim item).trustDomain := Option.some_inj.1 hitem
        show some (if row.2 = left ∨ row.2 = right then winner left right else row.2) = _
        rw [hdomain]
    · intro x y hxy
      simp only [hxy]
    · rintro a ha b hb rfl
      have hleft' : fold (claim a).trustDomain = left := Option.some_inj.1 ((h a ha).symm.trans hleft)
      have hright' : fold (claim b).trustDomain = right := Option.some_inj.1 ((h b hb).symm.trans hright)
      simp only [hleft', hright', true_or, or_true, if_true]
  · rename_i hunknown
    refine ⟨fold, h, fun _ _ => id, ?_⟩
    rintro a ha b hb rfl
    exact absurd (h b hb) (hunknown _ _ (h a ha))

/-- All merges together do. -/
theorem FoldedBy.foldMerges {domains : Keyed (Prod.fst : String × String → String)} {fold : String → String}
    (h : FoldedBy claim identify items domains fold) (merges : List (String × String)) :
    ∃ fold', FoldedBy claim identify items (merges.foldl RpcQuorum.foldMerge domains) fold' ∧
      (∀ x y, fold x = fold y → fold' x = fold' y) ∧
      ∀ a ∈ items, ∀ b ∈ items, (identify a, identify b) ∈ merges →
        fold' (claim a).trustDomain = fold' (claim b).trustDomain := by
  induction merges generalizing domains fold with
  | nil => exact ⟨fold, h, fun _ _ => id, fun _ _ _ _ hmem => absurd hmem List.not_mem_nil⟩
  | cons merge merges ih =>
    obtain ⟨fold₁, h₁, hkeeps₁, hjoins₁⟩ := h.foldMerge merge
    obtain ⟨fold₂, h₂, hkeeps₂, hjoins₂⟩ := ih h₁
    refine ⟨fold₂, h₂, fun x y hxy => hkeeps₂ x y (hkeeps₁ x y hxy), fun a ha b hb hmem => ?_⟩
    rcases List.mem_cons.1 hmem with hmem | hmem
    · exact hkeeps₂ _ _ (hjoins₁ a ha b hb hmem.symm)
    · exact hjoins₂ a ha b hb hmem

/-- Where no id stands for two domains, folding links what is linked by a declared domain or provider, and
what is merged. -/
theorem collapsedClaim_linked (hids : OneDomainEach claim identify items) (merges : List (String × String)) {a b : T}
    (ha : a ∈ items) (hb : b ∈ items)
    (h : (claim a).Linked (claim b) ∨ (identify a, identify b) ∈ merges ∨ (identify b, identify a) ∈ merges) :
    (collapsedClaim claim identify items merges a).Linked (collapsedClaim claim identify items merges b) := by
  have hinitial : FoldedBy claim identify items (initialDomains claim identify items) id := foldedBy_initialDomains hids
  obtain ⟨fold, hfold, hkeeps, hjoins⟩ := hinitial.foldMerges merges
  have hdomain : ∀ item ∈ items,
      (collapsedClaim claim identify items merges item).trustDomain = fold (claim item).trustDomain := by
    intro item hitem
    unfold collapsedClaim
    rw [hfold item hitem]
    rfl
  rcases h with (hdeclared | hprovider) | hmerged | hmerged
  · left
    rw [hdomain a ha, hdomain b hb]
    exact hkeeps _ _ hdeclared
  · exact Or.inr hprovider
  · left
    rw [hdomain a ha, hdomain b hb]
    exact hjoins a ha b hb hmerged
  · left
    rw [hdomain a ha, hdomain b hb]
    exact (hjoins b hb a ha hmerged).symm

/-! ### What folding keeps apart -/

/-- What a merge makes of the domain of an item. -/
theorem domainOf_foldMerge {domains : Keyed (Prod.fst : String × String → String)} {merge : String × String}
    {left right : String} (hleft : domainOf domains merge.1 = some left) (hright : domainOf domains merge.2 = some right)
    (id : String) : domainOf (foldMerge domains merge) id =
      (domainOf domains id).map fun domain => if domain = left ∨ domain = right then winner left right else domain := by
  unfold foldMerge
  rw [hleft, hright]
  unfold domainOf
  rw [Keyed.lookup_mapRows, Option.map_map, Option.map_map]
  rfl

theorem winner_eq (a b : String) : winner a b = a ∨ winner a b = b := by
  unfold winner
  split
  · exact Or.inl rfl
  · exact Or.inr rfl

/-- Items whose ids hold one domain are connected. -/
def Separates (identify : T → String) (related : T → T → Prop) (items : List T)
    (domains : Keyed (Prod.fst : String × String → String)) : Prop :=
  ∀ a ∈ items, ∀ b ∈ items, domainOf domains (identify a) = domainOf domains (identify b) → Connected related items a b

/-- Merging two related items connects nothing but what the two are connected to. -/
theorem Separates.foldMerge {related : T → T → Prop} (hsymm : ∀ a b, related a b → related b a)
    {domains : Keyed (Prod.fst : String × String → String)} (h : Separates identify related items domains) {x y : T}
    (hx : x ∈ items) (hy : y ∈ items) (hxy : related x y) :
    Separates identify related items (foldMerge domains (identify x, identify y)) := by
  cases hleft : domainOf domains (identify x) with
  | none =>
    have hkept : RpcQuorum.foldMerge domains (identify x, identify y) = domains := by
      unfold RpcQuorum.foldMerge
      rw [hleft]
    rw [hkept]
    exact h
  | some left =>
    cases hright : domainOf domains (identify y) with
    | none =>
      have hkept : RpcQuorum.foldMerge domains (identify x, identify y) = domains := by
        unfold RpcQuorum.foldMerge
        rw [hleft, hright]
      rw [hkept]
      exact h
    | some right =>
      -- whoever holds one of the two domains is connected to both items
      have hside : ∀ a ∈ items, ∀ domain, domainOf domains (identify a) = some domain → domain = left ∨ domain = right →
          Connected related items a x := by
        rintro a ha domain hdomain (rfl | rfl)
        · exact h a ha x hx (hdomain.trans hleft.symm)
        · exact (h a ha y hy (hdomain.trans hright.symm)).trans (.of_linked hy hx (hsymm x y hxy))
      intro a ha b hb hab
      -- after the merge the two domains are one, and any other is as before
      have hfolded := domainOf_foldMerge (show domainOf domains (identify x, identify y).1 = some left from hleft) hright
      rw [hfolded, hfolded] at hab
      cases hda : domainOf domains (identify a) with
      | none =>
        rw [hda] at hab
        have hdb := Option.map_eq_none_iff.1 hab.symm
        exact h a ha b hb (hda.trans hdb.symm)
      | some da =>
        rw [hda] at hab
        obtain ⟨db, hdb, hfold⟩ := Option.map_eq_some_iff.1 hab.symm
        dsimp only at hfold
        by_cases hina : da = left ∨ da = right
        · rw [if_pos hina] at hfold
          have hinb : db = left ∨ db = right := by
            by_contra hnot
            rw [if_neg hnot] at hfold
            exact hnot (hfold ▸ winner_eq left right)
          exact (hside a ha da hda hina).trans ((hside b hb db hdb hinb).symm hsymm)
        · rw [if_neg hina] at hfold
          have hinb : ¬ (db = left ∨ db = right) := by
            intro hin
            rw [if_pos hin] at hfold
            exact hina (hfold ▸ winner_eq left right)
          rw [if_neg hinb] at hfold
          exact h a ha b hb (by rw [hda, hdb, hfold])

/-- Folding links only what is connected by a declared domain or provider, or by a merge. -/
theorem collapsedClaim_connected {related : T → T → Prop} (hsymm : ∀ a b, related a b → related b a)
    (hids : OneDomainEach claim identify items) (hdeclared : ∀ a ∈ items, ∀ b ∈ items, (claim a).Linked (claim b) → related a b)
    {merges : List (String × String)}
    (hmerges : ∀ m ∈ merges, ∃ x ∈ items, ∃ y ∈ items, related x y ∧ m = (identify x, identify y)) {a b : T}
    (ha : a ∈ items) (hb : b ∈ items)
    (h : (collapsedClaim claim identify items merges a).Linked (collapsedClaim claim identify items merges b)) :
    Connected related items a b := by
  have hinitial : FoldedBy claim identify items (initialDomains claim identify items) id := foldedBy_initialDomains hids
  have hstart : Separates identify related items (initialDomains claim identify items) := by
    intro x hx y hy hxy
    rw [hinitial x hx, hinitial y hy] at hxy
    exact .of_linked hx hy (hdeclared x hx y hy (Or.inl (Option.some_inj.1 hxy)))
  -- each merge follows a relation, so the domains never separate less than it connects
  have hrun : ∀ (ms : List (String × String)) (domains : Keyed (Prod.fst : String × String → String)),
      (∀ m ∈ ms, ∃ x ∈ items, ∃ y ∈ items, related x y ∧ m = (identify x, identify y)) →
      Separates identify related items domains → Separates identify related items (ms.foldl foldMerge domains) := by
    intro ms
    induction ms with
    | nil => exact fun _ _ h => h
    | cons m ms ih =>
      intro domains hms hdomains
      obtain ⟨x, hx, y, hy, hxy, rfl⟩ := hms m List.mem_cons_self
      exact ih _ (fun m hm => hms m (List.mem_cons_of_mem _ hm)) (hdomains.foldMerge hsymm hx hy hxy)
  rcases h with hdomain | hprovider
  · obtain ⟨fold, hfold, -, -⟩ := hinitial.foldMerges merges
    refine hrun merges _ hmerges hstart a ha b hb ?_
    unfold collapsedClaim at hdomain
    rw [hfold a ha, hfold b hb] at hdomain ⊢
    exact congrArg some hdomain
  · exact .of_linked ha hb (hdeclared a ha b hb (Or.inr hprovider))

end Collapse

/-! ## Observed correlations -/

/-- One endpoint as declared, with the host of its URL where that is known. No caller that counts
witnesses resolves addresses or aliases. -/
structure EndpointCorrelationInput where
  endpointId : String
  trustDomain : String
  secretRef : String
  hostname : Option String
  deriving DecidableEq, Repr

/-- A conclusive signal between two endpoints that were declared independent. -/
def EndpointCorrelationInput.conclusive (a b : EndpointCorrelationInput) : Bool :=
  a.trustDomain ≠ b.trustDomain && (a.secretRef = b.secretRef || (a.hostname.isSome && a.hostname = b.hostname))

/-- The pairs of a list, each in the order of the list. -/
def pairs {α : Type} : List α → List (α × α)
  | [] => []
  | a :: l => l.map (a, ·) ++ pairs l

/-- `correlateEndpoints`: the pairs to merge. Slugs are ordered alike by locale and by code unit. -/
def correlateEndpoints (inputs : List EndpointCorrelationInput) : List (String × String) :=
  ((pairs (sortOn (fun i => codeUnits i.endpointId) inputs)).filter fun (a, b) => a.conclusive b).map fun (a, b) =>
    (a.endpointId, b.endpointId)

theorem mem_of_mem_pairs {α : Type} {l : List α} {p : α × α} (h : p ∈ pairs l) : p.1 ∈ l ∧ p.2 ∈ l := by
  induction l with
  | nil => cases h
  | cons a l ih =>
    rcases List.mem_append.1 h with h | h
    · obtain ⟨b, hb, rfl⟩ := List.mem_map.1 h
      exact ⟨List.mem_cons_self, List.mem_cons_of_mem _ hb⟩
    · exact ⟨List.mem_cons_of_mem _ (ih h).1, List.mem_cons_of_mem _ (ih h).2⟩

/-- Two members of a list are a pair of it, in one order or the other. -/
theorem mem_pairs_of_ne {α : Type} {l : List α} {a b : α} (ha : a ∈ l) (hb : b ∈ l) (hne : a ≠ b) :
    (a, b) ∈ pairs l ∨ (b, a) ∈ pairs l := by
  induction l with
  | nil => cases ha
  | cons x l ih =>
    unfold pairs
    rcases List.mem_cons.1 ha with rfl | hal
    · have hbl : b ∈ l := (List.mem_cons.1 hb).resolve_left fun h => hne h.symm
      exact Or.inl (List.mem_append_left _ (List.mem_map_of_mem hbl))
    · rcases List.mem_cons.1 hb with rfl | hbl
      · exact Or.inr (List.mem_append_left _ (List.mem_map_of_mem hal))
      · exact (ih hal hbl).imp (List.mem_append_right _) (List.mem_append_right _)

theorem EndpointCorrelationInput.conclusive_symm (a b : EndpointCorrelationInput) : a.conclusive b = b.conclusive a := by
  have himp : ∀ a b : EndpointCorrelationInput, a.conclusive b = true → b.conclusive a = true := by
    intro a b h
    unfold conclusive at h ⊢
    rw [Bool.and_eq_true, Bool.or_eq_true, Bool.and_eq_true, decide_eq_true_iff, decide_eq_true_iff,
      decide_eq_true_iff] at h ⊢
    obtain ⟨hdomain, href | ⟨hsome, hhost⟩⟩ := h
    · exact ⟨hdomain.symm, Or.inl href.symm⟩
    · exact ⟨hdomain.symm, Or.inr ⟨hhost ▸ hsome, hhost.symm⟩⟩
  rw [Bool.eq_iff_iff]
  exact ⟨himp a b, himp b a⟩

/-- The merges are the ids of the endpoints that a conclusive signal relates. -/
theorem mem_correlateEndpoints {inputs : List EndpointCorrelationInput} {m : String × String} (h : m ∈ correlateEndpoints inputs) :
    ∃ a ∈ inputs, ∃ b ∈ inputs, a.conclusive b = true ∧ m = (a.endpointId, b.endpointId) := by
  obtain ⟨⟨a, b⟩, hab, rfl⟩ := List.mem_map.1 h
  obtain ⟨hpair, hconclusive⟩ := List.mem_filter.1 hab
  obtain ⟨ha, hb⟩ := mem_of_mem_pairs hpair
  exact ⟨a, mem_sortOn.1 ha, b, mem_sortOn.1 hb, hconclusive, rfl⟩

theorem mem_correlateEndpoints_of_conclusive {inputs : List EndpointCorrelationInput} {a b : EndpointCorrelationInput}
    (ha : a ∈ inputs) (hb : b ∈ inputs) (h : a.conclusive b = true) :
    (a.endpointId, b.endpointId) ∈ correlateEndpoints inputs ∨ (b.endpointId, a.endpointId) ∈ correlateEndpoints inputs := by
  have hne : a ≠ b := by
    rintro rfl
    unfold EndpointCorrelationInput.conclusive at h
    rw [Bool.and_eq_true, decide_eq_true_iff] at h
    exact h.1 rfl
  have hsorted : ∀ x ∈ inputs, x ∈ sortOn (fun i : EndpointCorrelationInput => codeUnits i.endpointId) inputs := fun x hx =>
    mem_sortOn.2 hx
  rcases mem_pairs_of_ne (hsorted a ha) (hsorted b hb) hne with hpair | hpair
  · exact Or.inl (List.mem_map.2 ⟨(a, b), List.mem_filter.2 ⟨hpair, h⟩, rfl⟩)
  · exact Or.inr (List.mem_map.2 ⟨(b, a), List.mem_filter.2 ⟨hpair, (b.conclusive_symm a).trans h⟩, rfl⟩)

end IcttSentinel.RpcQuorum
