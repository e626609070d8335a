/-
What the digest of an evaluation binds, packages/invariant-core/src/engine.ts. The canonical text tells every field
of the input but the blockchain ids of its pins, and it tells its lists in a sorted order; from that follow which
outputs share a digest and which inputs are evaluated alike in every order.
-/
import IcttSentinel.InvariantCore.Characterisation
import IcttSentinel.InvariantCore.Ordering
import IcttSentinel.Lib.JsonText

namespace IcttSentinel.InvariantCore

open IcttSentinel.Domain IcttSentinel.Lib

/-! ## Canonical texts -/

theorem ofOption_injective : Function.Injective Json.ofOption := by
  intro a b h
  cases a <;> cases b <;> simp only [Json.ofOption, reduceCtorEq, Json.str.injEq] at h
  · rfl
  · rw [h]

theorem decimalOrNull_injective : Function.Injective decimalOrNull :=
  ofOption_injective.comp (Option.map_injective fun _ _ h => decimal_injective h)

/-- A pinned block without the blockchain it is on, which is all its text tells. -/
def PinnedBlock.unnamed (p : PinnedBlock) : PinnedBlock := { p with blockchainId := "" }

theorem pinText_inj {p q : PinnedBlock} (h : pinText p = pinText q) : p.unnamed = q.unnamed := by
  have hlists := congrArg String.toList h
  simp only [pinText, String.toList_append, List.append_assoc] at hlists
  obtain ⟨hnumber, hhash⟩ := append_cons_inj (notMem_decimal (c := ':') (by decide) (by decide) p.blockNumber)
    (notMem_decimal (c := ':') (by decide) (by decide) q.blockNumber) hlists
  unfold PinnedBlock.unnamed
  rw [decimal_injective (String.toList_inj.1 hnumber), String.toList_inj.1 hhash]

theorem pinTexts_inj {p q : Option PinnedBlock} (h : Json.ofOption (p.map pinText) = Json.ofOption (q.map pinText)) :
    p.map PinnedBlock.unnamed = q.map PinnedBlock.unnamed := by
  have hmap := ofOption_injective h
  cases p <;> cases q <;> simp only [Option.map_none, Option.map_some, reduceCtorEq, Option.some_inj] at hmap ⊢
  exact pinText_inj hmap

def RemoteObservation.unnamed (r : RemoteObservation) : RemoteObservation :=
  { r with homePin := r.homePin.map PinnedBlock.unnamed, remotePin := r.remotePin.map PinnedBlock.unnamed }

theorem remoteJson_unnamed (r : RemoteObservation) : remoteJson r.unnamed = remoteJson r := by
  unfold remoteJson RemoteObservation.unnamed
  simp only [Option.map_map]
  rfl

theorem remoteJson_inj {r s : RemoteObservation} : remoteJson r = remoteJson s ↔ r.unnamed = s.unnamed := by
  constructor
  · intro h
    simp only [remoteJson, Json.obj.injEq, List.cons.injEq, Prod.mk.injEq, Json.str.injEq, Json.bool.injEq,
      Json.num.injEq, true_and, and_true] at h
    obtain ⟨hchain, haddress, hbalance, hsupply, hmultiplier, hmultiply, hhome, hremote, hestablished, hhomePin,
      hremotePin, hfingerprint, htoken, hroute, himbalance⟩ := h
    have hscale : r.scale = s.scale := by
      rcases r with ⟨_, _, _, _, ⟨_, _, _, _, _⟩, _⟩
      rcases s with ⟨_, _, _, _, ⟨_, _, _, _, _⟩, _⟩
      simp only at hmultiplier hmultiply hhome hremote hestablished
      rw [decimal_injective hmultiplier, hmultiply, hhome, hremote, hestablished]
    unfold RemoteObservation.unnamed
    rw [hchain, haddress, decimalOrNull_injective hbalance, decimalOrNull_injective hsupply, hscale,
      pinTexts_inj hhomePin, pinTexts_inj hremotePin, hfingerprint, htoken, hroute, decimal_injective himbalance]
  · intro h
    rw [← remoteJson_unnamed r, h, remoteJson_unnamed]

theorem direction_text_injective : Function.Injective Direction.text := by
  intro a b h
  cases a <;> cases b <;> first | rfl | exact absurd h (by decide)

theorem pendingJson_injective : Function.Injective pendingJson := by
  intro p q h
  simp only [pendingJson, Json.obj.injEq, List.cons.injEq, Prod.mk.injEq, Json.str.injEq, Json.num.injEq, true_and,
    and_true] at h
  obtain ⟨hkey, hdirection, hamount, hage, hchain, haddress⟩ := h
  cases p
  cases q
  simp only at hkey hdirection hamount hage hchain haddress
  rw [hkey, direction_text_injective hdirection, decimal_injective hamount, hage, hchain, haddress]

theorem effectJson_injective : Function.Injective effectJson := by
  intro e f h
  simp only [effectJson, Json.obj.injEq, List.cons.injEq, Prod.mk.injEq, Json.str.injEq, Json.bool.injEq, true_and,
    and_true] at h
  obtain ⟨hkey, hamount, hchain, haddress, hunique, hroute, hduplicate, hcausal⟩ := h
  cases e
  cases f
  simp only at hkey hamount hchain haddress hunique hroute hduplicate hcausal
  rw [hkey, decimal_injective hamount, hchain, haddress, hunique, hroute, hduplicate, ofOption_injective hcausal]

/-! ## The digest in every order -/

/-- What the text sorts the remotes by. -/
def remoteKey (r : RemoteObservation) : String := r.remoteBlockchainId ++ r.remoteAddress

/-- Entries that are sorted alike are written alike. -/
structure TiesAgree (input : ProofInput) : Prop where
  remotes : ∀ r ∈ input.remotes, ∀ s ∈ input.remotes, remoteKey r = remoteKey s → r.unnamed = s.unnamed
  pending : ∀ p ∈ input.pending, ∀ q ∈ input.pending, p.messageKey = q.messageKey → p = q
  effects : ∀ e ∈ input.effects, ∀ f ∈ input.effects, e.messageKey = f.messageKey → e = f

theorem canonicalInput_input {input : ProofInput} (order : Rearrangement input) :
    canonicalInput order.input = canonicalInput input ↔
      (sortOn (fun r => codeUnits (remoteKey r)) order.remotes).map remoteJson =
          (sortOn (fun r => codeUnits (remoteKey r)) input.remotes).map remoteJson ∧
        (sortOn (fun p => codeUnits p.messageKey) order.pending).map pendingJson =
          (sortOn (fun p => codeUnits p.messageKey) input.pending).map pendingJson ∧
        (sortOn (fun e => codeUnits e.messageKey) order.effects).map effectJson =
          (sortOn (fun e => codeUnits e.messageKey) input.effects).map effectJson := by
  have huntracked : sortStrings order.untrackedRemotes = sortStrings input.untrackedRemotes :=
    sortStrings_eq_of_perm order.untracked_perm
  unfold canonicalInput Rearrangement.input remoteKey
  simp only [huntracked, Json.obj.injEq, List.cons.injEq, Prod.mk.injEq, Json.arr.injEq, true_and, and_true]

theorem remoteKey_of_json {r s : RemoteObservation} (h : remoteJson r = remoteJson s) :
    codeUnits (remoteKey r) = codeUnits (remoteKey s) := by
  have hunnamed := remoteJson_inj.1 h
  have hkey : remoteKey r.unnamed = remoteKey s.unnamed := by rw [hunnamed]
  exact congrArg codeUnits hkey

/-- The canonical text is the same in every order exactly when ties agree. -/
theorem canonicalInputString_iff {input : ProofInput} :
    (∀ order : Rearrangement input, canonicalInputString order.input = canonicalInputString input) ↔ TiesAgree input := by
  have hremotes := map_sortOn_perm_iff (f := fun r => codeUnits (remoteKey r)) (g := remoteJson)
    (fun _ _ h => remoteKey_of_json h) (l := input.remotes)
  have hpending := map_sortOn_perm_iff (f := fun p : PendingEnvelope => codeUnits p.messageKey) (g := pendingJson)
    (fun _ _ h => by rw [pendingJson_injective h]) (l := input.pending)
  have heffects := map_sortOn_perm_iff (f := fun e : CreditedEffect => codeUnits e.messageKey) (g := effectJson)
    (fun _ _ h => by rw [effectJson_injective h]) (l := input.effects)
  simp only [codeUnits_injective.eq_iff, remoteJson_inj, pendingJson_injective.eq_iff,
    effectJson_injective.eq_iff] at hremotes hpending heffects
  constructor
  · intro h
    have hjson : ∀ order : Rearrangement input, canonicalInput order.input = canonicalInput input :=
      fun order => Json.stringify_injective (h order)
    refine ⟨hremotes.1 fun l' hl' => ?_, hpending.1 fun l' hl' => ?_, heffects.1 fun l' hl' => ?_⟩
    · exact ((canonicalInput_input { Rearrangement.same input with remotes := l', remotes_perm := hl' }).1 (hjson _)).1
    · exact ((canonicalInput_input { Rearrangement.same input with pending := l', pending_perm := hl' }).1 (hjson _)).2.1
    · exact ((canonicalInput_input { Rearrangement.same input with effects := l', effects_perm := hl' }).1 (hjson _)).2.2
  · intro h order
    refine congrArg Json.stringify ((canonicalInput_input order).2 ⟨?_, ?_, ?_⟩)
    · exact hremotes.2 h.remotes order.remotes order.remotes_perm
    · exact hpending.2 h.pending order.pending order.pending_perm
    · exact heffects.2 h.effects order.effects order.effects_perm

/-! ## The reasons in every order -/

theorem evaluateGateA_unsupported {input : ProofInput} (h : Unsupported input) :
    evaluateGateA input = .refused .unsupported (unsupportedReasons input) :=
  if_pos (unsupportedReasons_ne_nil.2 h)

theorem evaluateGateA_incomplete {input : ProofInput} (hsupported : ¬ Unsupported input)
    (hcomplete : ¬ ContractComplete input) : evaluateGateA input = .refused .unknown (missingInputReasons input) := by
  unfold evaluateGateA
  rw [if_neg (mt unsupportedReasons_ne_nil.1 hsupported), if_pos (mt missingInputReasons_eq_nil.1 hcomplete)]

theorem evaluateGateA_outOfRange {input : ProofInput} (hsupported : ¬ Unsupported input)
    (hcomplete : ContractComplete input) (hrange : ¬ AmountsInRange input) :
    evaluateGateA input = .refused .unknown [.a06ArithmeticOutOfRange] := by
  unfold evaluateGateA
  rw [if_neg (mt unsupportedReasons_ne_nil.1 hsupported), if_neg (not_not.2 (missingInputReasons_eq_nil.2 hcomplete)),
    if_pos (by rwa [← Bool.not_eq_false, outOfRange_iff])]

theorem allReasons_of_refused {input : ProofInput} {outcome : GateAOutcome} {reasons : List ReasonCode}
    (h : evaluateGateA input = .refused outcome reasons) (hpass : outcome ≠ .pass) : allReasons input = reasons := by
  unfold allReasons
  rw [h]
  show reasons ++ (if outcome = .pass then _ else []) = reasons
  rw [if_neg hpass, List.append_nil]

/-- What any two of the items add to the reasons that are given is a prefix of one another. -/
structure ReasonsAligned (input : ProofInput) : Prop where
  shapes : Unsupported input → Aligned (familyFaults input) shapeFaults input.remotes
  observations : ¬ Unsupported input → ¬ ContractComplete input →
    Aligned (contractFaults input) observationFaults input.remotes
  effects : Admissible input → Aligned [] effectFaults input.effects

/-- The reasons of an admissible input, where an effect is at fault. -/
theorem allReasons_of_badEffect {input : ProofInput} (h : Admissible input) (hbad : effectReasons input ≠ []) :
    allReasons input = ([] ++ input.effects.flatMap effectFaults ++ livenessReasons input).eraseDups := by
  unfold allReasons
  rw [evaluateGateA_admissible h, reconcile, if_pos hbad]
  exact List.append_nil _

/-- Where none is, the order of the lists does not show. -/
theorem allReasons_of_noBadEffect {input : ProofInput} (order : Rearrangement input) (h : Admissible input)
    (hnone : effectReasons input = []) : allReasons order.input = allReasons input := by
  have horder := (admissible_input order).2 h
  have hnone' : effectReasons order.input = [] :=
    not_not.1 (mt (ne_nil_congr fun _ => mem_effectReasons_input order).1 (not_not.2 hnone))
  have hoverall : (reconcile order.input).reasons = (reconcile input).reasons := by
    unfold reconcile
    simp only [hnone, hnone', livenessReasons_input, filter_ne_nil_congr (reconciliations_input order)]
    split_ifs <;> rfl
  unfold allReasons
  rw [evaluateGateA_admissible h, evaluateGateA_admissible horder, hoverall, (reconcile_input order).outcome,
    (evaluateGateB_input order h.2.1).2]

/-- Where the reasons are collected from the parts of one list, they are listed alike in every order exactly when the
parts are aligned. -/
theorem reasons_iff_aligned {input : ProofInput} {β : Type} {base : List ReasonCode} {f : β → List ReasonCode}
    {l : List β} (suffix : List ReasonCode) (pick : Rearrangement input → List β) (hperm : ∀ order, (pick order).Perm l)
    (hevery : ∀ l' : List β, l'.Perm l → ∃ order, pick order = l')
    (hreasons : ∀ order : Rearrangement input,
      (allReasons order.input).eraseDups = (base ++ (pick order).flatMap f ++ suffix).eraseDups) :
    (∀ order : Rearrangement input, (allReasons order.input).eraseDups = (allReasons input).eraseDups) ↔
      Aligned base f l := by
  have hsame := hreasons (Rearrangement.same input)
  constructor
  · intro h
    have heach : ∀ l' : List β, l'.Perm l →
        (base ++ l'.flatMap f ++ suffix).eraseDups = (allReasons input).eraseDups := by
      intro l' hl'
      obtain ⟨order, rfl⟩ := hevery l' hl'
      exact (hreasons order).symm.trans (h order)
    exact (eraseDups_parts_iff suffix).1 fun l' hl' => (heach l' hl').trans (heach l (.refl l)).symm
  · intro h order
    have hparts := eraseDups_parts_of_perm suffix h (hperm order)
    have hparts' := eraseDups_parts_of_perm suffix h (hperm (Rearrangement.same input))
    exact (hreasons order).trans (hparts.trans (hparts'.symm.trans hsame.symm))

/-- The reasons are listed alike in every order exactly when they are aligned. -/
theorem allReasons_iff {input : ProofInput} :
    (∀ order : Rearrangement input, (allReasons order.input).eraseDups = (allReasons input).eraseDups) ↔
      ReasonsAligned input := by
  -- the remotes and the effects may be reordered independently of each other
  have hremotes : ∀ l' : List RemoteObservation, l'.Perm input.remotes → ∃ order : Rearrangement input, order.remotes = l' :=
    fun l' hl' => ⟨{ Rearrangement.same input with remotes := l', remotes_perm := hl' }, rfl⟩
  have heffects : ∀ l' : List CreditedEffect, l'.Perm input.effects → ∃ order : Rearrangement input, order.effects = l' :=
    fun l' hl' => ⟨{ Rearrangement.same input with effects := l', effects_perm := hl' }, rfl⟩
  by_cases hunsupported : Unsupported input
  · -- the shapes are refused
    have haligned : _ ↔ Aligned (familyFaults input) shapeFaults input.remotes :=
      reasons_iff_aligned [] Rearrangement.remotes Rearrangement.remotes_perm hremotes fun order => by
        rw [allReasons_of_refused (evaluateGateA_unsupported ((unsupported_input order).2 hunsupported)) (by decide),
          unsupportedReasons_eq, eraseDups_of_nodup (nodup_eraseDups _)]
        rfl
    exact haligned.trans ⟨fun h => ⟨fun _ => h, fun hn => absurd hunsupported hn, fun ha => absurd hunsupported ha.1⟩,
      fun h => h.shapes hunsupported⟩
  by_cases hcomplete : ContractComplete input
  swap
  · -- the contract is incomplete
    have haligned : _ ↔ Aligned (contractFaults input) observationFaults input.remotes :=
      reasons_iff_aligned [] Rearrangement.remotes Rearrangement.remotes_perm hremotes fun order => by
        rw [allReasons_of_refused (evaluateGateA_incomplete (mt (unsupported_input order).1 hunsupported)
          (mt (contractComplete_input order).1 hcomplete)) (by decide), missingInputReasons_eq, contractFaults_input,
          eraseDups_of_nodup (nodup_eraseDups _)]
        rfl
    exact haligned.trans ⟨fun h => ⟨fun hu => absurd hu hunsupported, fun _ _ => h, fun ha => absurd ha.2.1 hcomplete⟩,
      fun h => h.observations hunsupported hcomplete⟩
  by_cases hrange : AmountsInRange input
  swap
  · refine iff_of_true (fun order => ?_) ⟨fun hu => absurd hu hunsupported, fun _ hn => absurd hcomplete hn,
      fun ha => absurd ha.2.2 hrange⟩
    rw [allReasons_of_refused (evaluateGateA_outOfRange hunsupported hcomplete hrange) (by decide),
      allReasons_of_refused (evaluateGateA_outOfRange (mt (unsupported_input order).1 hunsupported)
        ((contractComplete_input order).2 hcomplete) (mt (amountsInRange_input order).1 hrange)) (by decide)]
  have hadmissible : Admissible input := ⟨hunsupported, hcomplete, hrange⟩
  by_cases hbad : effectReasons input = []
  -- with no bad effect the reasons do not depend on the order
  · refine iff_of_true (fun order => by rw [allReasons_of_noBadEffect order hadmissible hbad])
      ⟨fun hu => absurd hu hunsupported, fun _ hn => absurd hcomplete hn, fun _ e he f _ => ?_⟩
    have hnone : effectFaults e = [] := List.flatMap_eq_nil_iff.1 hbad e he
    rw [added, hnone]
    exact Or.inl List.nil_prefix
  · have haligned : _ ↔ Aligned [] effectFaults input.effects :=
      reasons_iff_aligned (livenessReasons input) Rearrangement.effects Rearrangement.effects_perm heffects
        fun order => by
          rw [allReasons_of_badEffect ((admissible_input order).2 hadmissible)
            ((ne_nil_congr fun _ => mem_effectReasons_input order).2 hbad), livenessReasons_input,
            eraseDups_of_nodup (nodup_eraseDups _)]
          rfl
    exact haligned.trans ⟨fun h => ⟨fun hu => absurd hu hunsupported, fun _ hn => absurd hcomplete hn, fun _ => h⟩,
      fun h => h.effects hadmissible⟩

/-- An input is evaluated alike in every order exactly when its ties agree and its reasons are aligned. -/
theorem evaluate_orderFree_iff (input : ProofInput) :
    (∀ (order : Rearrangement input) (hash : String → String),
      (evaluateCanonicalErc20 order.input hash).output = (evaluateCanonicalErc20 input hash).output) ↔
        TiesAgree input ∧ ReasonsAligned input := by
  rw [← canonicalInputString_iff, ← allReasons_iff]
  constructor
  · intro h
    refine ⟨fun order => ?_, fun order => ?_⟩
    · exact congrArg RuleOutput.inputDigest (h order id)
    · have hreasons := congrArg RuleOutput.reasons (h order id)
      rwa [evaluate_reasons, evaluate_reasons] at hreasons
  · rintro ⟨htext, hreasons⟩ order hash
    rw [evaluate_input, htext, hreasons, ← evaluate_reasons input hash]
    rfl

/-- An effect on the route of the sample remote. -/
def sampleEffect (messageKey : String) (duplicateEffect routeMatchesSource : Bool) : CreditedEffect where
  messageKey
  remoteBlockchainId := "0xremote"
  remoteAddress := "0xr"
  amount := 1
  hasUniqueAuthorisedSource := true
  routeMatchesSource
  duplicateEffect
  causalSourceFact := some "f"

/-- An input with a duplicate effect and one off its route, in this order. -/
def sampleFaulty (effects : List CreditedEffect) : ProofInput :=
  { sampleProof [sampleRemote 10 10 1] [] 10 with effects }

/-- Two faulty effects, listed the other way round, give the reasons the other way round. -/
theorem effects_order_shows :
    ¬ ∀ (order : Rearrangement (sampleFaulty [sampleEffect "a" true true, sampleEffect "b" false false]))
      (hash : String → String), (evaluateCanonicalErc20 order.input hash).output =
        (evaluateCanonicalErc20 (sampleFaulty [sampleEffect "a" true true, sampleEffect "b" false false]) hash).output := by
  intro h
  have hswapped := congrArg RuleOutput.reasons
    (h { Rearrangement.same _ with
          effects := [sampleEffect "b" false false, sampleEffect "a" true true]
          effects_perm := .swap _ _ _ } id)
  have hreasons : (evaluateCanonicalErc20 (sampleFaulty [sampleEffect "b" false false, sampleEffect "a" true true])
        id).output.reasons = [.a05RouteMismatch, .a03DuplicateEconomicEffect] ∧
      (evaluateCanonicalErc20 (sampleFaulty [sampleEffect "a" true true, sampleEffect "b" false false])
        id).output.reasons = [.a03DuplicateEconomicEffect, .a05RouteMismatch] := by
    decide +kernel
  have hlists := hreasons.1.symm.trans (hswapped.trans hreasons.2)
  exact absurd hlists (by decide)

/-! ## What shares a digest -/

def ProofInput.unnamed (input : ProofInput) : ProofInput :=
  { input with
    remotes := input.remotes.map RemoteObservation.unnamed
    homeEscrow := { input.homeEscrow with homePin := input.homeEscrow.homePin.map PinnedBlock.unnamed } }

theorem censusState_text_injective : Function.Injective CensusState.text := by
  intro a b h
  cases a <;> cases b <;> first | rfl | exact absurd h (by decide)

theorem cutState_text_injective : Function.Injective CutState.text := by
  intro a b h
  cases a <;> cases b <;> first | rfl | exact absurd h (by decide)

theorem provenanceJson_injective : Function.Injective provenanceJson := by
  intro p q h
  simp only [provenanceJson, Json.obj.injEq, List.cons.injEq, Prod.mk.injEq, Json.str.injEq, true_and, and_true] at h
  obtain ⟨hmanifest, hpolicy, hsource, hadapter, hversion, hrule⟩ := h
  have hversions : ∀ a b : Option Int, (a.map Json.num).getD .null = (b.map Json.num).getD .null → a = b := by
    intro a b hab
    cases a <;> cases b <;>
      simp only [Option.map_none, Option.map_some, Option.getD_none, Option.getD_some, reduceCtorEq, Json.num.injEq] at hab
    · rfl
    · rw [hab]
  cases p
  cases q
  simp only at hmanifest hpolicy hsource hadapter hversion hrule
  rw [ofOption_injective hmanifest, ofOption_injective hpolicy, ofOption_injective hsource,
    ofOption_injective hadapter, hversions _ _ hversion, hrule]

/-- What was sorted and written alike is the same in some order. -/
theorem perm_of_map_sortOn {α γ δ β : Type} [LinearOrder β] {f : α → β} {g : α → γ} (g' : α → δ) {l l' : List α}
    (hg : ∀ a b, g a = g b → g' a = g' b) (h : (sortOn f l).map g = (sortOn f l').map g) : (l'.map g').Perm (l.map g') := by
  have hmap : (sortOn f l').map g' = (sortOn f l).map g' := by
    have key : ∀ m m' : List α, m.map g = m'.map g → m'.map g' = m.map g' := by
      intro m
      induction m with
      | nil =>
        intro m' hm
        rw [List.map_nil, eq_comm, List.map_eq_nil_iff] at hm
        rw [hm]
      | cons a m ih =>
        intro m' hm
        cases m' with
        | nil => exact absurd hm (List.cons_ne_nil _ _)
        | cons b m' =>
          obtain ⟨hab, hrest⟩ := List.cons.inj hm
          rw [List.map_cons, List.map_cons, ih m' hrest, hg a b hab]
    exact key _ _ h
  exact ((sortOn_perm f l').symm.map g').trans (hmap ▸ (sortOn_perm f l).map g')

/-- Inputs of one canonical text are the same in some order, but for the blockchain ids of their pins. -/
theorem rearrangement_of_canonicalInputString {input input' : ProofInput}
    (h : canonicalInputString input = canonicalInputString input') :
    ∃ order : Rearrangement input.unnamed, order.input = input'.unnamed := by
  have hjson := Json.stringify_injective h
  simp only [canonicalInput, Json.obj.injEq, List.cons.injEq, Prod.mk.injEq, Json.str.injEq, Json.arr.injEq,
    Json.bool.injEq, Json.num.injEq, true_and, and_true] at hjson
  obtain ⟨hdeployment, hfamily, hprovenance, hcensus, huntracked, hcut, ⟨hfresh, hgroups, hrequired⟩, hremotes, hpending,
    heffects, ⟨hbalance, hpin, hcollateral⟩, hlimit⟩ := hjson
  have hremotes := perm_of_map_sortOn RemoteObservation.unnamed (fun _ _ h => remoteJson_inj.1 h) hremotes
  have hpending := perm_of_map_sortOn id (fun _ _ h => pendingJson_injective h) hpending
  have heffects := perm_of_map_sortOn id (fun _ _ h => effectJson_injective h) heffects
  have huntracked := perm_of_map_sortOn id (fun _ _ h => Json.str.inj h) huntracked
  rw [List.map_id, List.map_id] at hpending heffects huntracked
  have hescrow : input.unnamed.homeEscrow = input'.unnamed.homeEscrow := by
    unfold ProofInput.unnamed
    dsimp only
    rw [decimalOrNull_injective hbalance, pinTexts_inj hpin, decimal_injective hcollateral]
  have hfreshness : input.freshness = input'.freshness := by
    rcases hf : input.freshness with ⟨_, _, _⟩
    rcases hf' : input'.freshness with ⟨_, _, _⟩
    rw [hf, hf'] at hfresh hgroups hrequired
    simp only at hfresh hgroups hrequired
    rw [hfresh, hgroups, hrequired]
  refine ⟨⟨_, _, _, _, hremotes, hpending, heffects, huntracked⟩, ?_⟩
  show ({ input with
    remotes := input'.unnamed.remotes
    pending := input'.pending
    effects := input'.effects
    untrackedRemotes := input'.untrackedRemotes
    homeEscrow := input.unnamed.homeEscrow } : ProofInput) = _
  rw [hescrow, hdeployment, hfamily, provenanceJson_injective hprovenance, censusState_text_injective hcensus,
    cutState_text_injective hcut, hfreshness, hlimit]
  rfl

/-! ### The evaluation does not read the blockchain ids of the pins -/

theorem missingInputReasons_unnamed (input : ProofInput) :
    missingInputReasons input.unnamed = missingInputReasons input := by
  have hfaults : ∀ r : RemoteObservation, observationFaults r.unnamed = observationFaults r := by
    intro r
    have hpins : ∀ p : Option PinnedBlock, p.map PinnedBlock.unnamed = none ↔ p = none := fun _ => Option.map_eq_none_iff
    unfold observationFaults RemoteObservation.unnamed
    simp only [hpins]
  rw [missingInputReasons_eq, missingInputReasons_eq]
  show (contractFaults input.unnamed ++ (input.remotes.map RemoteObservation.unnamed).flatMap observationFaults ++
    []).eraseDups = _
  rw [List.flatMap_map, List.flatMap_congr fun r _ => hfaults r]
  unfold contractFaults ProofInput.unnamed
  simp only [List.length_map]

theorem evaluateGateA_unnamed (input : ProofInput) : evaluateGateA input.unnamed = evaluateGateA input := by
  have hunsupported : unsupportedReasons input.unnamed = unsupportedReasons input := by
    rw [unsupportedReasons_eq, unsupportedReasons_eq]
    show (familyFaults input ++ (input.remotes.map RemoteObservation.unnamed).flatMap shapeFaults ++ []).eraseDups = _
    rw [List.flatMap_map]
    rfl
  have hreconciliations : reconciliations input.unnamed = reconciliations input := by
    unfold reconciliations
    show (input.remotes.map RemoteObservation.unnamed).filterMap (reconcileRemote · input.unnamed) = _
    rw [List.filterMap_map]
    rfl
  have hreconcile : reconcile input.unnamed = reconcile input := by
    unfold reconcile
    rw [hreconciliations]
    rfl
  unfold evaluateGateA
  rw [hunsupported, missingInputReasons_unnamed, hreconcile]
  show (if _ then _ else if _ then _ else if (input.remotes.map RemoteObservation.unnamed).any _ then _ else _) = _
  rw [List.any_map]
  rfl

theorem evaluateGateB_unnamed (input : ProofInput) (passed : Bool) :
    evaluateGateB input.unnamed passed = evaluateGateB input passed := by
  unfold evaluateGateB ProofInput.unnamed
  simp only [List.mapM_map]
  cases input.homeEscrow.escrowBalance <;> cases input.homeEscrow.homePin <;> rfl

/-- What an output says, whichever blockchains its pins are on. -/
structure SameFindings (a b : RuleOutput) : Prop where
  result : a.result = b.result
  verdict : a.verdictCandidate = b.verdictCandidate
  reasons : ∀ reason, reason ∈ a.reasons ↔ reason ∈ b.reasons
  measurement : a.measurement = b.measurement
  pending : a.pending = b.pending

theorem sameFindings_unnamed (input : ProofInput) (hash : String → String) :
    SameFindings (evaluateCanonicalErc20 input.unnamed hash).output (evaluateCanonicalErc20 input hash).output := by
  have hoverall : ∀ other : ProofInput, evaluateGateA other = evaluateGateA input →
      (∀ passed, evaluateGateB other passed = evaluateGateB input passed) → other.pending = input.pending →
      other.pendingAgeLimitSeconds = input.pendingAgeLimitSeconds →
      SameFindings (evaluateCanonicalErc20 other hash).output (evaluateCanonicalErc20 input hash).output := by
    intro other hA hB hpending hlimit
    unfold evaluateCanonicalErc20 pendingBreakdown
    simp only [hA, hB, hpending, hlimit]
    exact ⟨rfl, rfl, fun _ => Iff.rfl, rfl, rfl⟩
  exact hoverall input.unnamed (evaluateGateA_unnamed input) (evaluateGateB_unnamed input) rfl rfl

theorem SameFindings.symm {a b : RuleOutput} (h : SameFindings a b) : SameFindings b a :=
  ⟨h.result.symm, h.verdict.symm, fun r => (h.reasons r).symm, h.measurement.symm, h.pending.symm⟩

theorem SameFindings.trans {a b c : RuleOutput} (h : SameFindings a b) (h' : SameFindings b c) : SameFindings a c :=
  ⟨h.result.trans h'.result, h.verdict.trans h'.verdict, fun r => (h.reasons r).trans (h'.reasons r),
    h.measurement.trans h'.measurement, h.pending.trans h'.pending⟩

theorem sameFindings_input {input : ProofInput} (order : Rearrangement input) (hash : String → String) :
    SameFindings (evaluateCanonicalErc20 order.input hash).output (evaluateCanonicalErc20 input hash).output := by
  have hreasons : ∀ reason, reason ∈ (evaluateCanonicalErc20 order.input hash).output.reasons ↔
      reason ∈ (evaluateCanonicalErc20 input hash).output.reasons := by
    intro reason
    rw [evaluate_reasons, evaluate_reasons, List.mem_eraseDups, List.mem_eraseDups, mem_allReasons_input]
  rw [evaluate_input] at hreasons ⊢
  exact ⟨rfl, rfl, hreasons, rfl, rfl⟩

/-- Whatever shares a digest is found alike. -/
theorem sameFindings_of_canonicalInputString {input input' : ProofInput}
    (h : canonicalInputString input = canonicalInputString input') (hash : String → String) :
    SameFindings (evaluateCanonicalErc20 input hash).output (evaluateCanonicalErc20 input' hash).output := by
  obtain ⟨order, horder⟩ := rearrangement_of_canonicalInputString h
  have hinput := (sameFindings_unnamed input hash).symm
  have hinput' := sameFindings_unnamed input' hash
  rw [← horder] at hinput'
  exact hinput.trans ((sameFindings_input order hash).symm.trans hinput')

/-! ### The pinned blocks -/

/-- A pinned block as the evidence names it. -/
def PinnedBlock.reference (p : PinnedBlock) : String :=
  p.blockchainId ++ "@" ++ toString p.blockNumber ++ ":" ++ p.blockHash

/-- The pins of an input: of its remotes, on both chains, and of the escrow. -/
def ProofInput.pins (input : ProofInput) : List PinnedBlock :=
  ((input.remotes.flatMap fun r => [r.homePin, r.remotePin]) ++ [input.homeEscrow.homePin]).filterMap id

/-- Every pin of the one has a pin of the other with its reference. -/
structure SamePins (input input' : ProofInput) : Prop where
  forth : ∀ p ∈ input.pins, ∃ q ∈ input'.pins, q.reference = p.reference
  back : ∀ q ∈ input'.pins, ∃ p ∈ input.pins, p.reference = q.reference

theorem mem_pinRefs {input : ProofInput} {s : String} :
    s ∈ pinRefs input ↔ ∃ p ∈ input.pins, p.reference = s := by
  show s ∈ sortStrings (input.pins.map PinnedBlock.reference).eraseDups ↔ _
  rw [mem_sortStrings, List.mem_eraseDups, List.mem_map]

theorem pinRefs_eq_iff {input input' : ProofInput} : pinRefs input = pinRefs input' ↔ SamePins input input' := by
  constructor
  · intro h
    refine ⟨fun p hp => mem_pinRefs.1 (h ▸ mem_pinRefs.2 ⟨p, hp, rfl⟩), fun q hq => ?_⟩
    exact mem_pinRefs.1 (h ▸ mem_pinRefs.2 ⟨q, hq, rfl⟩)
  · intro h
    refine sortStrings_eraseDups_eq fun s => ?_
    show s ∈ input.pins.map PinnedBlock.reference ↔ s ∈ input'.pins.map PinnedBlock.reference
    rw [List.mem_map, List.mem_map]
    constructor
    · rintro ⟨p, hp, rfl⟩
      exact h.forth p hp
    · rintro ⟨q, hq, rfl⟩
      exact h.back q hq

theorem reference_inj {p q : PinnedBlock} (hp : '@' ∉ p.blockchainId.toList) (hq : '@' ∉ q.blockchainId.toList)
    (h : p.reference = q.reference) : p = q := by
  have hlists := congrArg String.toList h
  simp only [PinnedBlock.reference, String.toList_append, List.append_assoc] at hlists
  obtain ⟨hchain, hrest⟩ := append_cons_inj hp hq hlists
  obtain ⟨hnumber, hhash⟩ := append_cons_inj (notMem_decimal (c := ':') (by decide) (by decide) p.blockNumber)
    (notMem_decimal (c := ':') (by decide) (by decide) q.blockNumber) hrest
  cases p
  cases q
  simp only at hchain hnumber hhash
  rw [String.toList_inj.1 hchain, decimal_injective (String.toList_inj.1 hnumber), String.toList_inj.1 hhash]

/-- The blockchain ids under which an input pins a block. -/
def ProofInput.chainsAt (input : ProofInput) (blockNumber : Int) (blockHash : String) : Set String :=
  {blockchainId | ⟨blockchainId, blockNumber, blockHash⟩ ∈ input.pins}

/-- No blockchain id of a pin contains the sign that ends it in a reference. -/
def ProofInput.IdsApart (input : ProofInput) : Prop := ∀ p ∈ input.pins, '@' ∉ p.blockchainId.toList

/-- Then the references of the pins are told apart, and each block is pinned under the same blockchain ids. -/
theorem samePins_iff_chainsAt {input input' : ProofInput} (h : input.IdsApart) (h' : input'.IdsApart) :
    SamePins input input' ↔ ∀ number hash, input.chainsAt number hash = input'.chainsAt number hash := by
  constructor
  · rintro ⟨hforth, hback⟩ number hash
    ext id
    constructor
    · intro hp
      obtain ⟨q, hq, hreference⟩ := hforth _ hp
      have hsame : q = ⟨id, number, hash⟩ := reference_inj (h' q hq) (h _ hp) hreference
      rwa [hsame] at hq
    · intro hq
      obtain ⟨p, hp, hreference⟩ := hback _ hq
      have hsame : p = ⟨id, number, hash⟩ := reference_inj (h p hp) (h' _ hq) hreference
      rwa [hsame] at hp
  · intro hchains
    have hmem : ∀ p : PinnedBlock, p ∈ input.pins ↔ p ∈ input'.pins := fun p =>
      Set.ext_iff.1 (hchains p.blockNumber p.blockHash) p.blockchainId
    exact ⟨fun p hp => ⟨p, (hmem p).1 hp, rfl⟩, fun q hq => ⟨q, (hmem q).2 hq, rfl⟩⟩

/-- Inputs of one digest have one output exactly when their pins have the same references, all else is in the digest:
that is, unless an id contains '@', when they pin each block under the same blockchain ids. -/
theorem digest_binds_iff {input input' : ProofInput} (h : canonicalInputString input = canonicalInputString input')
    (hash : String → String) :
    ((SameFindings (evaluateCanonicalErc20 input hash).output (evaluateCanonicalErc20 input' hash).output ∧
      (evaluateCanonicalErc20 input hash).output.evidence.pinnedBlocks =
        (evaluateCanonicalErc20 input' hash).output.evidence.pinnedBlocks) ↔ SamePins input input') ∧
    (input.IdsApart → input'.IdsApart →
      (SamePins input input' ↔ ∀ number hash, input.chainsAt number hash = input'.chainsAt number hash)) := by
  refine ⟨⟨?_, ?_⟩, samePins_iff_chainsAt⟩
  · rintro ⟨-, hpins⟩
    exact pinRefs_eq_iff.1 hpins
  · intro hpins
    exact ⟨sameFindings_of_canonicalInputString h hash, pinRefs_eq_iff.2 hpins⟩

/-- Two remotes, in either order. -/
theorem digest_binds_sample :
    SameFindings
        (evaluateCanonicalErc20 (sampleProof [sampleRemote 10 7 1, { sampleRemote 5 5 1 with remoteAddress := "0xs" }] [] 9) id).output
        (evaluateCanonicalErc20 (sampleProof [{ sampleRemote 5 5 1 with remoteAddress := "0xs" }, sampleRemote 10 7 1] [] 9) id).output ∧
      (evaluateCanonicalErc20 (sampleProof [sampleRemote 10 7 1, { sampleRemote 5 5 1 with remoteAddress := "0xs" }] [] 9)
          id).output.evidence.pinnedBlocks =
        (evaluateCanonicalErc20 (sampleProof [{ sampleRemote 5 5 1 with remoteAddress := "0xs" }, sampleRemote 10 7 1] [] 9)
          id).output.evidence.pinnedBlocks := by
  have hties : TiesAgree (sampleProof [{ sampleRemote 5 5 1 with remoteAddress := "0xs" }, sampleRemote 10 7 1] [] 9) :=
    ⟨by decide, by decide, by decide⟩
  have htext := canonicalInputString_iff.2 hties
    { Rearrangement.same _ with
      remotes := [sampleRemote 10 7 1, { sampleRemote 5 5 1 with remoteAddress := "0xs" }]
      remotes_perm := .swap _ _ _ }
  refine (digest_binds_iff htext id).1.2 ⟨?_, ?_⟩
  · decide
  · decide

/-- An input whose remote is pinned on the given blockchain. -/
def samplePinned (chain : String) : ProofInput :=
  sampleProof [{ sampleRemote 10 7 1 with remotePin := some (samplePin chain) }] [samplePending "0xr" 3] 100

theorem samplePinned_text (chain chain' : String) :
    canonicalInputString (samplePinned chain) = canonicalInputString (samplePinned chain') := rfl

/-- A remote pinned on another blockchain is not in the digest, while it is in the evidence. -/
theorem digest_misses_blockchainId :
    canonicalInputString (samplePinned "0xremote") = canonicalInputString (samplePinned "0xother") ∧
      (evaluateCanonicalErc20 (samplePinned "0xremote") id).output.evidence.pinnedBlocks =
        ["0xhome@100:0xb", "0xremote@100:0xb"] ∧
      (evaluateCanonicalErc20 (samplePinned "0xother") id).output.evidence.pinnedBlocks =
        ["0xhome@100:0xb", "0xother@100:0xb"] := by
  refine ⟨samplePinned_text _ _, ?_⟩
  decide +kernel

end IcttSentinel.InvariantCore
