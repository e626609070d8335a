/-
What stands behind the pending transfers and the effects of a bundle that the collector writes. Each iteration over the
messages of a route puts out a trace with every pending transfer and every effect; the bundle has a record for every
trace, so that nothing is pending or credited without one. The verifier compares no message key: what it accepts is
backed where the records and the input were written from one assessment.
-/
import IcttSentinel.Collector.Draft
import IcttSentinel.Evidence.Backing

namespace IcttSentinel.Collector

open IcttSentinel.Config IcttSentinel.Evidence IcttSentinel.InvariantCore IcttSentinel.Lib

/-! ## Traces behind an assessment -/

/-- The message was sent inside the cut, and not executed. -/
structure MessageTrace.Underway (t : MessageTrace) : Prop where
  sent : t.source.isSome = true
  unexecuted : t.executions = []

/-- Every pending transfer has a trace of its own that is underway, and every effect one that was executed. -/
structure RouteAssessment.Traced (x : RouteAssessment) : Prop where
  pending : ∃ traces, traces.Sublist x.messages ∧
    List.Forall₂ (fun p t => t.messageId = p.messageKey ∧ t.Underway) x.pending traces
  effects : ∀ e ∈ x.effects, ∃ t ∈ x.messages, t.messageId = e.messageKey ∧ t.executions ≠ []

/-- What pushes neither a transfer nor an effect. -/
theorem RouteAssessment.Traced.of_nil {x : RouteAssessment} (hpending : x.pending = []) (heffects : x.effects = []) :
    x.Traced := by
  refine ⟨⟨[], List.nil_sublist _, by rw [hpending]; exact .nil⟩, fun e he => ?_⟩
  rw [heffects] at he
  cases he

theorem RouteAssessment.Traced.concat {parts : List RouteAssessment} (h : ∀ x ∈ parts, x.Traced) :
    (RouteAssessment.concat parts).Traced := by
  refine ⟨exists_sublist_flatMap fun x hx => (h x hx).pending, fun e he => ?_⟩
  obtain ⟨x, hx, he⟩ := List.mem_flatMap.1 he
  obtain ⟨t, ht, hkey⟩ := (h x hx).effects e he
  exact ⟨t, List.mem_flatMap.2 ⟨x, hx, ht⟩, hkey⟩

section Assess

variable (d : RouteDirection) (route : Route) (digestOf : Fact TokensSentEvent → String → String)

theorem assessDelivered_traced (entry : String × List (Fact Delivery)) :
    (assessDelivered d route digestOf entry).Traced := by
  unfold assessDelivered
  dsimp only
  split
  · exact .of_nil rfl rfl
  · rename_i hexecuted
    refine ⟨⟨[], List.nil_sublist _, .nil⟩, fun e he => ⟨_, List.mem_cons_self, ?_, fun hnone => ?_⟩⟩
    · -- the one effect there can be carries the key of the entry
      dsimp only at he
      split at he
      · cases he
      · split at he
        · cases he
        · rw [List.mem_singleton.1 he]
    · exact hexecuted (congrArg List.length hnone)

theorem assessSent_traced (entry : String × List (Fact TokensSentEvent)) : (assessSent d route entry).Traced := by
  unfold assessSent
  dsimp only
  split
  · exact .of_nil rfl rfl
  · split
    · exact .of_nil rfl rfl
    · exact ⟨⟨_, List.Sublist.refl _, .cons ⟨rfl, rfl, rfl⟩ .nil⟩, fun e he => absurd he List.not_mem_nil⟩

theorem assessDirection_traced : (assessDirection d route digestOf).Traced := by
  refine .concat fun x hx => ?_
  rcases List.mem_append.1 hx with hx | hx
  · rcases List.mem_cons.1 hx with rfl | hx
    · exact .of_nil rfl rfl
    · obtain ⟨entry, -, rfl⟩ := List.mem_map.1 hx
      exact assessDelivered_traced d route digestOf entry
  · obtain ⟨entry, -, rfl⟩ := List.mem_map.1 hx
    exact assessSent_traced d route entry

/-- A route is assessed in its two directions, one after the other. -/
theorem assessRoute_traced (home remote : SideFacts) : (assessRoute route home remote digestOf).Traced := by
  have htoRemote := assessDirection_traced (homeToRemote route home remote) route digestOf
  have htoHome := assessDirection_traced (remoteToHome route home remote) route digestOf
  have hboth : (RouteAssessment.concat [assessDirection (homeToRemote route home remote) route digestOf,
      assessDirection (remoteToHome route home remote) route digestOf]).Traced := by
    refine .concat fun x hx => ?_
    rcases List.mem_pair.1 hx with rfl | rfl
    · exact htoRemote
    · exact htoHome
  have hpending := hboth.pending
  have heffects := hboth.effects
  simp only [RouteAssessment.concat, List.flatMap_cons, List.flatMap_nil, List.append_nil] at hpending heffects
  exact ⟨hpending, heffects⟩

end Assess

/-! ## Records behind an input -/

/-- The entries of a trace in the timeline of its record. -/
def timelineOf (digestOf : LogCoordinate → String → String) (t : RoutedTrace) : List TimelineEntry :=
  (t.trace.source.toList.map fun f => ⟨"source-accounted", digestOf f.coord t.src⟩) ++
    (t.trace.delivery.toList.map fun f => ⟨"delivered", digestOf f.coord t.dst⟩) ++
    (t.trace.failures.map fun f => ⟨"execution-failed", digestOf f.coord t.dst⟩) ++
    t.trace.executions.map fun f => ⟨"execution-succeeded", digestOf f.coord t.dst⟩

/-- A core and an input that were written from one assessment of every route: a record for every trace, under the id of
the message and with the facts of the trace, and the pending transfers and effects as assessed. -/
structure WrittenFrom (routes : List RouteParts) (digestOf : LogCoordinate → String → String)
    (record : RoutedTrace → MessageRecord) (core : EvidenceCore) (input : ProofInput) : Prop where
  assessed : ∀ p ∈ routes, p.assessment = assessRoute p.route p.home p.remote fun f chain => digestOf f.coord chain
  ids : ∀ t, (record t).messageId = t.trace.messageId
  timelines : ∀ t, (record t).timeline = timelineOf digestOf t
  messages : core.messages = (routes.flatMap (·.traces)).map record
  pending : input.pending = routes.flatMap (·.assessment.pending)
  effects : input.effects = routes.flatMap (·.assessment.effects)

section Written

variable {routes : List RouteParts} {digestOf : LogCoordinate → String → String} {record : RoutedTrace → MessageRecord}
  {core : EvidenceCore} {input : ProofInput}

/-- A record was written from every trace, which keeps the trace. -/
theorem RouteParts.exists_trace (p : RouteParts) {t : MessageTrace} (ht : t ∈ p.assessment.messages) :
    ∃ routed ∈ p.traces, routed.trace = t := by
  refine ⟨_, List.mem_map_of_mem ht, ?_⟩
  cases t.direction <;> rfl

/-- The traces underway of a route, as they are recorded. -/
theorem RouteParts.exists_underway (p : RouteParts) (h : p.assessment.Traced) :
    ∃ traces, traces.Sublist p.traces ∧
      List.Forall₂ (fun q t => t.trace.messageId = q.messageKey ∧ t.trace.Underway) p.assessment.pending traces := by
  obtain ⟨traces, hsublist, hpending⟩ := h.pending
  refine ⟨_, hsublist.map _, ?_⟩
  rw [List.forall₂_map_right_iff]
  refine hpending.imp fun q t ht => ?_
  cases t.direction <;> exact ht

theorem timeline_accounted {t : RoutedTrace} (h : t.trace.Underway) :
    ∃ entry ∈ timelineOf digestOf t, entry.kind = "source-accounted" := by
  obtain ⟨f, hf⟩ := Option.isSome_iff_exists.1 h.sent
  refine ⟨⟨"source-accounted", digestOf f.coord t.src⟩, ?_, rfl⟩
  simp [timelineOf, hf]

theorem timeline_unexecuted {t : RoutedTrace} (h : t.trace.Underway) :
    ∀ entry ∈ timelineOf digestOf t, entry.kind ≠ "execution-succeeded" := by
  intro entry hentry
  simp only [timelineOf, h.unexecuted, List.map_nil, List.append_nil, List.mem_append, List.mem_map] at hentry
  rcases hentry with (⟨f, -, rfl⟩ | ⟨f, -, rfl⟩) | ⟨f, -, rfl⟩ <;> simp

theorem timeline_executed {t : RoutedTrace} (h : t.trace.executions ≠ []) :
    ∃ entry ∈ timelineOf digestOf t, entry.kind = "execution-succeeded" := by
  obtain ⟨f, hf⟩ := List.exists_mem_of_ne_nil _ h
  exact ⟨_, List.mem_append_right _ (List.mem_map_of_mem hf), rfl⟩

/-- What was written from one assessment is backed, where the facts of all messages are known. -/
theorem WrittenFrom.backed (h : WrittenFrom routes digestOf record core input)
    (hreferences : ∀ m ∈ core.messages, ∀ t ∈ m.timeline, t.factDigest ∈ core.rawFacts.map (·.digest)) :
    Backed core input := by
  have htraced : ∀ p ∈ routes, p.assessment.Traced := fun p hp =>
    h.assessed p hp ▸ assessRoute_traced p.route _ p.home p.remote
  constructor
  case pending =>
    -- each pending entry comes from a message of its own that is underway
    obtain ⟨traces, hsublist, hpending⟩ := exists_sublist_flatMap fun p hp => RouteParts.exists_underway p (htraced p hp)
    refine ⟨traces.map record, ?_, ?_⟩
    · rw [h.messages]
      exact (hsublist.map record).subperm
    · rw [h.pending, List.forall₂_map_right_iff]
      have hmem : ∀ t ∈ traces, record t ∈ core.messages := fun t ht =>
        h.messages ▸ List.mem_map_of_mem (hsublist.subset ht)
      have hboth := ((List.forall₂_and_left traces _).2 ⟨hmem, hpending.flip⟩).flip
      refine hboth.imp fun q t ht => ?_
      obtain ⟨hrecord, hkey, hunderway⟩ := ht
      obtain ⟨entry, hentry, hkind⟩ : ∃ entry ∈ (record t).timeline, entry.kind = "source-accounted" := by
        rw [h.timelines]
        exact timeline_accounted hunderway
      refine ⟨(h.ids t).trans hkey, ⟨entry, hentry, hkind, hreferences _ hrecord entry hentry⟩, ?_⟩
      rw [h.timelines]
      exact timeline_unexecuted hunderway
  case effects =>
    intro e he
    rw [h.effects] at he
    obtain ⟨p, hp, he⟩ := List.mem_flatMap.1 he
    obtain ⟨t, ht, hkey, hexecuted⟩ := (htraced p hp).effects e he
    obtain ⟨routed, hrouted, rfl⟩ := p.exists_trace ht
    refine ⟨record routed, ?_, (h.ids routed).trans hkey, ?_⟩
    · rw [h.messages]
      exact List.mem_map_of_mem (List.mem_flatMap.2 ⟨p, hp, hrouted⟩)
    · rw [h.timelines]
      exact timeline_executed hexecuted

end Written

/-! ## What the collector writes -/

section Collected

variable {host : CollectorHost} {args : AssembleArgs} {a : Assembled}

/-- A route is assessed with the digests of its own facts. -/
theorem assembleRoute_assessed {facts : HomeFacts} {entry : (ApprovedRemote × AgreedSide) × Nat} {p : RouteParts}
    (h : assembleRoute host args facts entry = .ok p) :
    p.assessment = assessRoute p.route p.home p.remote fun f chain => args.digestOf host f.coord chain := by
  unfold assembleRoute at h
  dsimp only at h
  simp only [bind_eq_ok, Prod.exists] at h
  obtain ⟨_, -, _, -, home, remote, -, _, -, _, -, _, -, _, -, _, -, _, -, _, -, _, -, _, -, _, -, _, -, h⟩ := h
  cases h
  rfl

/-- The draft of a bundle is written from the assessment its input was read from. -/
theorem draftCore_written (h : assembleInput host args = .ok a) (replayed : Replayed) (calls : List StateCallRecord)
    (encoded : JsValue) (observedAt expiresAt : String) :
    WrittenFrom a.routes (args.digestOf host) (messageRecord host args a)
      (draftCore host args a replayed calls encoded observedAt expiresAt) a.input := by
  obtain ⟨facts, -, h⟩ := bind_eq_ok.1 h
  obtain ⟨routes, hroutes, h⟩ := bind_eq_ok.1 h
  cases h
  refine ⟨fun p hp => ?_, fun _ => rfl, fun _ => rfl, rfl, rfl, rfl⟩
  obtain ⟨entry, -, hassembled⟩ := mem_mapM_ok hroutes hp
  exact assembleRoute_assessed hassembled

/-- Nobody votes against a block in a draft. -/
theorem draftCore_agreed (replayed : Replayed) (calls : List StateCallRecord) (encoded : JsValue)
    (observedAt expiresAt : String) :
    ∀ v ∈ (draftCore host args a replayed calls encoded observedAt expiresAt).quorum.votes, v.agreed = true := by
  intro v hv
  obtain ⟨side, -, hv⟩ := List.mem_flatMap.1 hv
  obtain ⟨e, -, rfl⟩ := List.mem_map.1 hv
  rfl

theorem evidenceThrow_eq_ok {α : Type} {x : Except String α} {b : α} (h : evidenceThrow x = .ok b) : x = .ok b := by
  cases x with
  | error message => cases h
  | ok b' =>
    cases h
    rfl

/-- What `assemble` returns as evidence carries its own input, which the records of the bundle back, and no vote
against a block. -/
theorem assemble_evidence {bundle : EvidenceBundle} (h : assemble host args = .ok (.evidence bundle)) :
    ∃ a, assembleInput host args = .ok a ∧ encodeProofInput host.nfc a.input = .ok bundle.core.replayInput ∧
      Backed bundle.core a.input ∧ ∀ v ∈ bundle.core.quorum.votes, v.agreed = true := by
  obtain ⟨a, hinput, h⟩ := bind_eq_ok.1 h
  obtain ⟨replayed, -, h⟩ := bind_eq_ok.1 h
  obtain ⟨drafted, hdrafted, h⟩ := bind_eq_ok.1 h
  obtain ⟨calls, -, hdrafted⟩ := bind_eq_ok.1 hdrafted
  obtain ⟨observedAt, -, hdrafted⟩ := bind_eq_ok.1 hdrafted
  obtain ⟨expiresAt, -, hdrafted⟩ := bind_eq_ok.1 hdrafted
  obtain ⟨encoded, hencoded, hdrafted⟩ := bind_eq_ok.1 hdrafted
  obtain ⟨contentHash, -, hdrafted⟩ := bind_eq_ok.1 hdrafted
  cases hdrafted
  -- the verifier has resolved the facts of all messages
  obtain ⟨check, hcheck, h⟩ := bind_eq_ok.1 h
  have hresult := Except.ok.inj h
  split at hresult
  · cases hresult
  · rename_i hverified
    cases hresult
    rw [Bool.not_eq_true', Bool.not_eq_false] at hverified
    have hreferences := (verifyBundle_verified_iff.1 ⟨check, evidenceThrow_eq_ok hcheck, hverified⟩).references
    rw [bundleOf_value] at hreferences
    exact ⟨a, hinput, evidenceThrow_eq_ok hencoded, (draftCore_written hinput replayed calls _ _ _).backed hreferences,
      draftCore_agreed replayed calls _ _ _⟩

end Collected

/-! ## What the verifier accepts -/

/-- A verified bundle whose records and input were written from one assessment is backed. And whatever the keys of its
input are changed to, nothing that is required of the bundle fails, and the rule concludes the same. -/
theorem verified_backed_of_written {host : Host} {candidate : JsValue} {external : Option AggregationInput}
    {r : VerifyResult} (h : verifyBundle host candidate external = .ok r) (hverified : r.verified = true) :
    ∃ input native, decodeReplayInput host.nfc (bundleOf candidate).core.replayInput = .ok (input, native) ∧
      (∀ routes digestOf record, WrittenFrom routes digestOf record (bundleOf candidate).core input →
        Backed (bundleOf candidate).core input) ∧
      ∀ rename, Evidenced host (bundleOf candidate).core (input.rekeyed rename) native ∧
        (∀ hash, evaluateCanonicalErc20 (input.rekeyed rename) hash =
          { evaluateCanonicalErc20 input hash with
            output := { (evaluateCanonicalErc20 input hash).output with
              inputDigest := hash (canonicalInputString (input.rekeyed rename)) } }) ∧
        ((∃ p ∈ input.pending, ∀ m ∈ (bundleOf candidate).core.messages, m.messageId ≠ rename p.messageKey) →
          ¬ Backed (bundleOf candidate).core (input.rekeyed rename)) := by
  have hbundle := verifyBundle_verified_iff.1 ⟨r, h, hverified⟩
  obtain ⟨input, native, hreplay⟩ := hbundle.replay
  refine ⟨input, native, hreplay.decoded, fun _ _ _ hwritten => hwritten.backed hbundle.references, fun rename =>
    ⟨evidenced_rekeyed hreplay.evidenced rename, evaluateCanonicalErc20_rekeyed input rename, ?_⟩⟩
  rintro ⟨p, hp, hghost⟩
  exact not_backed_rekeyed hp hghost

/-! ## A transfer underway and one executed -/

section Sample

def writtenRoute : Route where
  homeBlockchainId := homeChainId
  tokenHomeAddress := tokenHomeAddress
  remoteBlockchainId := remoteChainId
  remoteAddress := tokenRemoteAddress

def writtenAt (blockHash : String) (blockNumber logIndex : Int) : LogCoordinate where
  blockNumber
  blockHash
  txHash := "0x7a"
  logIndex
  blockTimestamp := 1000

def writtenSend (messageId : String) (amount logIndex : Int) : Fact TokensSentEvent where
  value :=
    { messageId, sender := "0x5e", destinationBlockchainId := remoteChainId
      destinationTokenTransferrerAddress := tokenRemoteAddress, recipient := "0x4e", multiHopFallback := "0x00", amount }
  coord := writtenAt homeBlockHash 7 logIndex

/-- The home sends 40 and 60. -/
def writtenHome : SideFacts where
  blockchainId := homeChainId
  pin := ⟨7, homeBlockHash, 1000⟩
  sent := [writtenSend "0x01" 40 0, writtenSend "0x02" 60 1]
  unsupportedSends := []
  delivered := []
  executed := []
  failed := []

def writtenDelivery : Fact Delivery where
  value :=
    { messageId := "0x02", sourceBlockchainId := homeChainId, originSenderAddress := tokenHomeAddress
      destinationAddress := tokenRemoteAddress
      payload := { messageType := .singleHopSend, singleHopSend := some { recipient := "0x4e", amount := 60 } } }
  coord := writtenAt remoteBlockHash 9 0

def writtenExecution : Fact MessageOutcomeEvent where
  value := { messageId := "0x02", sourceBlockchainId := homeChainId }
  coord := writtenAt remoteBlockHash 9 1

/-- The remote has received the 60. -/
def writtenRemote : SideFacts where
  blockchainId := remoteChainId
  pin := ⟨9, remoteBlockHash, 1000⟩
  sent := []
  unsupportedSends := []
  delivered := [writtenDelivery]
  executed := [writtenExecution]
  failed := []

def writtenDigest (coord : LogCoordinate) (_ : String) : String :=
  factDigest (sampleHost id) 1 coord.blockHash coord.txHash coord.logIndex

/-- The 40 are pending, and the 60 are an effect. -/
def writtenAssessment : RouteAssessment where
  pending :=
    [{ messageKey := "0x01", direction := .homeToRemote, amount := 40, ageSeconds := 0
       remoteBlockchainId := remoteChainId, remoteAddress := tokenRemoteAddress }]
  effects :=
    [{ messageKey := "0x02", remoteBlockchainId := remoteChainId, remoteAddress := tokenRemoteAddress, amount := 60
       hasUniqueAuthorisedSource := true, routeMatchesSource := true, duplicateEffect := false
       causalSourceFact := some (writtenDigest (writtenAt homeBlockHash 7 1) homeChainId) }]
  openEdges := []
  unsupported := []
  messages :=
    [{ direction := .homeToRemote, messageId := "0x02", state := .executedSuccess
       source := some (writtenSend "0x02" 60 1), delivery := some writtenDelivery, failures := []
       executions := [writtenExecution] },
     { direction := .homeToRemote, messageId := "0x01", state := .sourceAccounted
       source := some (writtenSend "0x01" 40 0), delivery := none, failures := [], executions := [] }]

theorem written_assessed :
    assessRoute writtenRoute writtenHome writtenRemote (fun f chain => writtenDigest f.coord chain) = writtenAssessment := by
  have hsends : (homeToRemote writtenRoute writtenHome writtenRemote).sends =
      [writtenSend "0x01" 40 0, writtenSend "0x02" 60 1] := by
    simp [RouteDirection.sends, homeToRemote, writtenHome, sendsToRemote, same, writtenSend, writtenRoute]
  have hdeliveries : (homeToRemote writtenRoute writtenHome writtenRemote).deliveries = [writtenDelivery] := by
    simp [RouteDirection.deliveries, homeToRemote, writtenRemote, deliveredToRemote, same, writtenDelivery, writtenRoute]
  unfold assessRoute assessDirection assessDelivered assessSent RouteDirection.sendsById RouteDirection.deliveredById
  simp only [hsends, hdeliveries]
  decide +kernel

def writtenParts (observation : RemoteObservation) : RouteParts where
  route := writtenRoute
  home := writtenHome
  remote := writtenRemote
  assessment := writtenAssessment
  observation
  registryVersion := 1

def writtenRecord (t : RoutedTrace) : MessageRecord where
  sourceBlockchainId := t.src
  destinationBlockchainId := t.dst
  teleporterMessengerAddress := tokenHomeAddress
  registryProtocolVersion := 1
  messageId := t.trace.messageId
  state := t.trace.state.text
  timeline := timelineOf writtenDigest t
  sendAttempts := if t.trace.source.isSome then 1 else 0
  executionAttempts := t.trace.failures.length + t.trace.executions.length
  envelopeIds := [t.trace.messageId]
  economicEffectCount := if t.trace.executions.length > 0 then 1 else 0

def writtenRoutes : List RouteParts := ghostInput.remotes.map writtenParts

def writtenInput : ProofInput :=
  { ghostInput with
    pending := writtenRoutes.flatMap (·.assessment.pending)
    effects := writtenRoutes.flatMap (·.assessment.effects) }

/-- The facts of the four logs. -/
def writtenFacts : List RawFactRefRecord :=
  [(homeBlockHash, 0), (homeBlockHash, 1), (remoteBlockHash, 0), (remoteBlockHash, 1)].map fun log =>
    ⟨"1", log.1, "0x7a", log.2, factDigest (sampleHost id) 1 log.1 "0x7a" log.2⟩

def writtenCore : EvidenceCore :=
  { sampleCore id ghostParts .null .null .null .null with
    rawFacts := writtenFacts
    messages := (writtenRoutes.flatMap (·.traces)).map writtenRecord }

theorem writtenCore_writtenFrom {document : JsValue} {replayed : Replayed} :
    WrittenFrom writtenRoutes writtenDigest writtenRecord (writtenCore.withReplay document replayed) writtenInput := by
  refine ⟨fun p hp => ?_, fun _ => rfl, fun _ => rfl, rfl, rfl, rfl⟩
  obtain ⟨observation, -, rfl⟩ := List.mem_map.1 hp
  exact written_assessed.symm

theorem writtenCore_passes : Silent (evidenceSteps (sampleHost id) writtenCore writtenInput none) := by
  have hidentity : IdentityEvidence (sampleCore (fun _ => "") ghostParts .null .null .null .null) writtenInput :=
    sample_identity (by decide) (by decide) (by decide +kernel) rfl rfl rfl (by decide +kernel)
  have hfacts : 0 < writtenCore.rawFacts.length := by decide
  have hcalls : 0 < writtenCore.stateCalls.length := by decide
  have hmessages : 0 < writtenCore.messages.length := by decide +kernel
  refine silent_evidence_of ⟨hidentity.producer, hidentity.artifactChecksum, hidentity.sourceLockHash,
    hidentity.deploymentId, hidentity.manifestHash, hidentity.policyHash, hidentity.commitSha, hidentity.adapterId,
    hidentity.adapterVersion, hidentity.chains, hidentity.fingerprints, hfacts, hcalls, hmessages,
    hidentity.requiredGroups, hidentity.threshold, hidentity.contracts, hidentity.remotes⟩ ?_ (by decide +kernel)
  exact silent_census rfl ⟨rfl, rfl, rfl⟩ (by decide +kernel)

theorem writtenInput_encodable : ProofEncodable sampleNfc writtenInput where
  deploymentId := rfl
  family := rfl
  provenance := ghostInput_encodable.provenance
  untrackedRemotes := ghostInput_encodable.untrackedRemotes
  independentWitnessGroups := ghostInput_encodable.independentWitnessGroups
  requiredWitnessGroups := ghostInput_encodable.requiredWitnessGroups
  remotes := ghostInput_encodable.remotes
  pending := fun p hp => by
    obtain rfl := List.mem_singleton.1 hp
    exact ⟨rfl, ⟨by decide, by decide⟩, ⟨by decide, by decide⟩, rfl, rfl⟩
  effects := fun e he => by
    obtain rfl := List.mem_singleton.1 he
    exact ⟨rfl, ⟨by decide, by decide⟩, rfl, rfl, fun s hs => rfl⟩
  escrowBalance := ghostInput_encodable.escrowBalance
  homePin := ghostInput_encodable.homePin
  acceptedCollateralHomeUnits := ghostInput_encodable.acceptedCollateralHomeUnits
  pendingAgeLimitSeconds := ghostInput_encodable.pendingAgeLimitSeconds

theorem writtenCore_counted : writtenCore.Counted := by
  have htwo : IsCount 2 := ⟨by decide, by decide⟩
  refine ⟨isCount_one, htwo, htwo, fun f hf => ?_, fun m hm => ?_⟩
  · obtain ⟨log, hlog, rfl⟩ := List.mem_map.1 hf
    simp only [List.mem_cons, List.not_mem_nil, or_false] at hlog
    rcases hlog with rfl | rfl | rfl | rfl
    · exact isCount_zero
    · exact isCount_one
    · exact isCount_zero
    · exact isCount_one
  · rcases List.mem_pair.1 hm with rfl | rfl
    · exact ⟨isCount_one, isCount_one, isCount_one, isCount_one⟩
    · exact ⟨isCount_one, isCount_one, isCount_zero, isCount_zero⟩

/-- The bundle of the two messages is verified, with one transfer pending and one effect; under another key, the transfer is
that of no message. -/
theorem verified_backed_of_written_sample :
    ∃ candidate, Backed (bundleOf candidate).core writtenInput ∧
      writtenInput.pending.map (·.messageKey) = ["0x01"] ∧ writtenInput.effects.map (·.messageKey) = ["0x02"] ∧
      ¬ Backed (bundleOf candidate).core (writtenInput.rekeyed fun _ => "0x03") := by
  have hreferences : ∀ m ∈ writtenCore.messages, ∀ t ∈ m.timeline, t.factDigest ∈ writtenCore.rawFacts.map (·.digest) := by
    decide +kernel
  obtain ⟨candidate, r, document, replayed, hcore, hr, hverified, hinput⟩ := exists_recorded (fun _ => rfl)
    (fun _ => rfl) writtenInput_encodable (by decide) writtenCore_counted ⟨[], rfl⟩ rfl hreferences rfl rfl
    (silent_evidence.1 writtenCore_passes)
  obtain ⟨input, native, hdecoded, hbacked, hrekeyed⟩ := verified_backed_of_written hr hverified
  have hsame := hinput.symm.trans hdecoded
  cases hsame
  obtain ⟨-, -, hghost⟩ := hrekeyed fun _ => "0x03"
  have hunnamed : ∀ m ∈ writtenCore.messages, m.messageId ≠ "0x03" := by decide +kernel
  refine ⟨candidate, hbacked writtenRoutes writtenDigest writtenRecord ?_, rfl, rfl, hghost ?_⟩
  · rw [hcore]
    exact writtenCore_writtenFrom
  · rw [hcore]
    exact ⟨_, List.mem_cons_self, hunnamed⟩

end Sample

end IcttSentinel.Collector
