/-
The census of a replay, packages/replay/src/census.ts, and its comparison with the census and the diff of the
adapters over the same registrations. The replay compares remotes as they are spelled and lists every registration;
the adapters compare them in lower case and list a remote once.
-/
import IcttSentinel.Adapters.Discovery
import IcttSentinel.Lib.Sorting
import IcttSentinel.Replay.Reasons

namespace IcttSentinel.Replay

open IcttSentinel.Lib
open IcttSentinel.Adapters (Remote remoteOf isHexId notMem_of_isHexId diffAgainstBaseline buildCandidateCensus)

structure RegisteredRemoteEvent where
  remoteBlockchainId : String
  remoteAddress : String
  registeredAtBlock : Int
  registeredAtBlockHash : String
  deriving DecidableEq, Repr

structure ApprovedRemote where
  remoteBlockchainId : String
  remoteAddress : String
  deriving DecidableEq, Repr

structure CensusInput where
  homeStartBlock : Int
  agreedHead : Int
  historyFullyReplayed : Bool
  observed : List RegisteredRemoteEvent
  approved : List ApprovedRemote
  deriving DecidableEq, Repr

/-- The one trust a candidate can have. -/
inductive CandidateTrust where
  | candidate
  deriving DecidableEq, Repr

structure RemoteCandidate where
  remoteBlockchainId : String
  remoteAddress : String
  registeredAtBlock : Int
  registeredAtBlockHash : String
  trust : CandidateTrust
  deriving DecidableEq, Repr

structure CrossCheckTask where
  remoteBlockchainId : String
  remoteAddress : String
  checks : List String
  deriving DecidableEq, Repr

structure CensusResult where
  candidates : List RemoteCandidate
  missingFromHistory : List ApprovedRemote
  crossChecks : List CrossCheckTask
  complete : Bool
  reasons : List ReplayReason
  deriving DecidableEq, Repr

def keyOf (remoteBlockchainId remoteAddress : String) : String := remoteBlockchainId ++ "|" ++ remoteAddress

def RegisteredRemoteEvent.key (o : RegisteredRemoteEvent) : String := keyOf o.remoteBlockchainId o.remoteAddress

def ApprovedRemote.key (a : ApprovedRemote) : String := keyOf a.remoteBlockchainId a.remoteAddress

def asCandidate (o : RegisteredRemoteEvent) : RemoteCandidate where
  remoteBlockchainId := o.remoteBlockchainId
  remoteAddress := o.remoteAddress
  registeredAtBlock := o.registeredAtBlock
  registeredAtBlockHash := o.registeredAtBlockHash
  trust := .candidate

def crossCheckOf (o : RegisteredRemoteEvent) : CrossCheckTask where
  remoteBlockchainId := o.remoteBlockchainId
  remoteAddress := o.remoteAddress
  checks := ["home-blockchain-id-matches", "home-address-matches", "remote-code-fingerprint-recognised"]

def buildCensus (input : CensusInput) : CensusResult :=
  let approvedKeys := input.approved.map ApprovedRemote.key
  let observedKeys := input.observed.map RegisteredRemoteEvent.key
  { candidates := (input.observed.filter fun o => !approvedKeys.contains o.key).map asCandidate
    missingFromHistory := input.approved.filter fun a => !observedKeys.contains a.key
    crossChecks := input.observed.map crossCheckOf
    complete := input.historyFullyReplayed
    reasons := if input.historyFullyReplayed then [] else [.remoteHistoryUnavailable] }

/-! ## One set of registrations, two censuses -/

/-- The event a replay reads off a registration the adapters decoded. -/
def eventOf (r : Adapters.RemoteRegisteredObservation) : RegisteredRemoteEvent where
  remoteBlockchainId := r.remoteBlockchainId
  remoteAddress := r.remoteTokenTransferrerAddress
  registeredAtBlock := r.source.blockNumber
  registeredAtBlockHash := r.source.blockHash

def approvedOf (a : Adapters.ApprovedRemote) : ApprovedRemote where
  remoteBlockchainId := a.remoteBlockchainId
  remoteAddress := a.remoteTokenTransferrerAddress

def RemoteCandidate.remote (c : RemoteCandidate) : Remote := remoteOf c.remoteBlockchainId c.remoteAddress

def ApprovedRemote.remote (a : ApprovedRemote) : Remote := remoteOf a.remoteBlockchainId a.remoteAddress

/-- Both implementations report the same remotes as new, each once, and the same ones as missing. -/
structure CensusesAgree (census : CensusResult) (diff : Adapters.DiscoveryDiff) : Prop where
  once : (census.candidates.map RemoteCandidate.remote).Nodup
  candidates : ∀ p, p ∈ census.candidates.map RemoteCandidate.remote ↔ p ∈ diff.remotes .candidateNotApproved
  missing : ∀ p, p ∈ census.missingFromHistory.map ApprovedRemote.remote ↔ p ∈ diff.remotes .approvedNotObserved

/-- Registrations of a scan and a list of approved remotes, one entry per remote, all ids hexadecimal. -/
structure HexRegistrations (registrations : List Adapters.RemoteRegisteredObservation)
    (approved : List Adapters.ApprovedRemote) : Prop where
  distinct : (approved.map Adapters.ApprovedRemote.remote).Nodup
  registered_hex : ∀ r ∈ registrations,
    isHexId r.remoteBlockchainId = true ∧ isHexId r.remoteTokenTransferrerAddress = true
  approved_hex : ∀ a ∈ approved,
    isHexId a.remoteBlockchainId = true ∧ isHexId a.remoteTokenTransferrerAddress = true

/-- A registration and an approval that a replay takes for one remote. -/
def SpelledSame (r : Adapters.RemoteRegisteredObservation) (a : Adapters.ApprovedRemote) : Prop :=
  r.remoteBlockchainId = a.remoteBlockchainId ∧ r.remoteTokenTransferrerAddress = a.remoteTokenTransferrerAddress

instance (r : Adapters.RemoteRegisteredObservation) (a : Adapters.ApprovedRemote) : Decidable (SpelledSame r a) :=
  inferInstanceAs (Decidable (_ ∧ _))

/-- The registrations of an approved remote spell it as its approval does. -/
def SpelledAlike (registrations : List Adapters.RemoteRegisteredObservation) (approved : List Adapters.ApprovedRemote) :
    Prop :=
  ∀ r ∈ registrations, ∀ a ∈ approved, r.remote = a.remote → SpelledSame r a

/-- No remote that is not approved was registered twice. -/
def RegisteredOnce (registrations : List Adapters.RemoteRegisteredObservation) (approved : List Adapters.ApprovedRemote) :
    Prop :=
  ((registrations.filter fun r => r.remote ∉ approved.map Adapters.ApprovedRemote.remote).map
    Adapters.RemoteRegisteredObservation.remote).Nodup

section Agreement

variable {registrations : List Adapters.RemoteRegisteredObservation} {approved : List Adapters.ApprovedRemote}

theorem SpelledSame.remote {r : Adapters.RemoteRegisteredObservation} {a : Adapters.ApprovedRemote}
    (h : SpelledSame r a) : r.remote = a.remote := by
  unfold Adapters.RemoteRegisteredObservation.remote Adapters.ApprovedRemote.remote
  rw [h.1, h.2]

namespace HexRegistrations

variable (h : HexRegistrations registrations approved)
include h

/-- Keys of hexadecimal ids tell spellings apart. -/
theorem key_eq_iff {r : Adapters.RemoteRegisteredObservation} (hr : r ∈ registrations) {a : Adapters.ApprovedRemote}
    (ha : a ∈ approved) : (approvedOf a).key = (eventOf r).key ↔ SpelledSame r a := by
  constructor
  · intro hkey
    have hlists : a.remoteBlockchainId.toList ++ '|' :: a.remoteTokenTransferrerAddress.toList =
        r.remoteBlockchainId.toList ++ '|' :: r.remoteTokenTransferrerAddress.toList := by
      have := congrArg String.toList hkey
      simpa [ApprovedRemote.key, RegisteredRemoteEvent.key, keyOf, approvedOf, eventOf] using this
    obtain ⟨hid, haddress⟩ := append_cons_inj
      (notMem_of_isHexId (h.approved_hex a ha).1 (by decide) (by decide) (by decide)).1
      (notMem_of_isHexId (h.registered_hex r hr).1 (by decide) (by decide) (by decide)).1 hlists
    exact ⟨(String.toList_inj.mp hid).symm, (String.toList_inj.mp haddress).symm⟩
  · rintro ⟨hid, haddress⟩
    unfold ApprovedRemote.key RegisteredRemoteEvent.key approvedOf eventOf
    rw [hid, haddress]

/-- The diff compares these registrations with these approvals. -/
theorem comparable {input : Adapters.CensusInput} (hinput : input.registrations = registrations) :
    Adapters.Comparable input approved where
  distinct := h.distinct
  seen_colon r hr := (notMem_of_isHexId (h.registered_hex r (hinput ▸ hr)).1 (by decide) (by decide) (by decide)).2
  approved_colon a ha := (notMem_of_isHexId (h.approved_hex a ha).1 (by decide) (by decide) (by decide)).2

/-- The candidates of a replay are the registrations no approval spells alike. -/
theorem candidates {input : CensusInput} (hobserved : input.observed = registrations.map eventOf)
    (hbaseline : input.approved = approved.map approvedOf) :
    (buildCensus input).candidates.map RemoteCandidate.remote =
      (registrations.filter fun r => ¬ ∃ a ∈ approved, SpelledSame r a).map
        Adapters.RemoteRegisteredObservation.remote := by
  have hremote : (RemoteCandidate.remote ∘ asCandidate) ∘ eventOf = Adapters.RemoteRegisteredObservation.remote := rfl
  show ((input.observed.filter _).map asCandidate).map RemoteCandidate.remote = _
  rw [hobserved, List.filter_map, List.map_map, List.map_map, hremote]
  congr 1
  refine List.filter_congr fun r hr => ?_
  rw [hbaseline, Function.comp_apply, Bool.eq_iff_iff, Bool.not_eq_true', ← Bool.not_eq_true, List.contains_iff_mem,
    decide_eq_true_eq, List.map_map, List.mem_map]
  exact not_congr (exists_congr fun a => and_congr_right fun ha => h.key_eq_iff hr ha)

/-- The approvals missing from its history are those no registration spells alike. -/
theorem missing {input : CensusInput} (hobserved : input.observed = registrations.map eventOf)
    (hbaseline : input.approved = approved.map approvedOf) :
    (buildCensus input).missingFromHistory.map ApprovedRemote.remote =
      (approved.filter fun a => ¬ ∃ r ∈ registrations, SpelledSame r a).map Adapters.ApprovedRemote.remote := by
  have hremote : ApprovedRemote.remote ∘ approvedOf = Adapters.ApprovedRemote.remote := rfl
  show (input.approved.filter _).map ApprovedRemote.remote = _
  rw [hbaseline, List.filter_map, List.map_map, hremote]
  congr 1
  refine List.filter_congr fun a ha => ?_
  rw [hobserved, Function.comp_apply, Bool.eq_iff_iff, Bool.not_eq_true', ← Bool.not_eq_true, List.contains_iff_mem,
    decide_eq_true_eq, List.map_map, List.mem_map]
  refine not_congr (exists_congr fun r => and_congr_right fun hr => ?_)
  rw [← h.key_eq_iff hr ha, eq_comm]
  rfl

end HexRegistrations

/-- A replay takes a registration for that of an approved remote exactly when it is one, where both are spelled alike. -/
theorem SpelledAlike.exists_iff (halike : SpelledAlike registrations approved)
    {r : Adapters.RemoteRegisteredObservation} (hr : r ∈ registrations) :
    (∃ a ∈ approved, SpelledSame r a) ↔ r.remote ∈ approved.map Adapters.ApprovedRemote.remote := by
  rw [List.mem_map]
  exact exists_congr fun a => and_congr_right fun ha =>
    ⟨fun hsame => hsame.remote.symm, fun hremote => halike r hr a ha hremote.symm⟩

variable {κ : Type} [LinearOrder κ]

/-- The two censuses agree on hexadecimal registrations exactly when approved remotes are spelled alike in both lists
and every other remote was registered once. -/
theorem censusesAgree_iff (collationKey : String → κ) (h : HexRegistrations registrations approved) (input : CensusInput)
    (hobserved : input.observed = registrations.map eventOf) (hbaseline : input.approved = approved.map approvedOf)
    (scan : Adapters.CensusInput) (hscan : scan.registrations = registrations) (baselineDigest : String) :
    CensusesAgree (buildCensus input)
        (diffAgainstBaseline (buildCandidateCensus collationKey scan) approved baselineDigest) ↔
      SpelledAlike registrations approved ∧ RegisteredOnce registrations approved := by
  -- what the replay calls a candidate: registered, and no approval has its exact spelling
  have hnew : ∀ p : Remote,
      p ∈ (diffAgainstBaseline (buildCandidateCensus collationKey scan) approved baselineDigest).remotes
          .candidateNotApproved ↔
        p ∈ registrations.map Adapters.RemoteRegisteredObservation.remote ∧
          p ∉ approved.map Adapters.ApprovedRemote.remote := by
    intro p
    have hseen := Adapters.mem_remotes_seenIn (h.comparable hscan).seen_colon p
    rw [← ((Adapters.remotes_perm collationKey scan).map _).mem_iff, hscan] at hseen
    rw [(h.comparable hscan).candidates, ← hseen, List.mem_map, List.mem_map]
    constructor
    · rintro ⟨x, hx, rfl⟩
      obtain ⟨hmem, hnot⟩ := List.mem_filter.mp hx
      exact ⟨⟨x, hmem, rfl⟩, by simpa using hnot⟩
    · rintro ⟨⟨x, hmem, rfl⟩, hnot⟩
      exact ⟨x, List.mem_filter.mpr ⟨hmem, by simpa using hnot⟩, rfl⟩
  constructor
  · intro hagree
    have halike : SpelledAlike registrations approved := by
      intro r hr a ha hremote
      by_contra hdiffer
      -- no other approval is this remote, so the replay reports it as new
      have hcandidate : r.remote ∈ (buildCensus input).candidates.map RemoteCandidate.remote := by
        rw [h.candidates hobserved hbaseline]
        refine List.mem_map_of_mem (List.mem_filter.mpr ⟨hr, decide_eq_true ?_⟩)
        rintro ⟨a', ha', hsame⟩
        have heq : a' = a := List.inj_on_of_nodup_map h.distinct ha' ha (hsame.remote.symm.trans hremote)
        exact hdiffer (heq ▸ hsame)
      exact ((hnew _).mp ((hagree.candidates _).mp hcandidate)).2 (hremote ▸ List.mem_map_of_mem ha)
    refine ⟨halike, ?_⟩
    have honce := hagree.once
    rw [h.candidates hobserved hbaseline] at honce
    unfold RegisteredOnce
    have hfilter : (registrations.filter fun r => r.remote ∉ approved.map Adapters.ApprovedRemote.remote) =
        registrations.filter fun r => ¬ ∃ a ∈ approved, SpelledSame r a :=
      List.filter_congr fun r hr => by simp only [halike.exists_iff hr]
    rwa [hfilter]
  · rintro ⟨halike, honce⟩
    have hcandidates : (buildCensus input).candidates.map RemoteCandidate.remote =
        (registrations.filter fun r => r.remote ∉ approved.map Adapters.ApprovedRemote.remote).map
          Adapters.RemoteRegisteredObservation.remote := by
      rw [h.candidates hobserved hbaseline]
      congr 1
      exact List.filter_congr fun r hr => by simp only [halike.exists_iff hr]
    refine ⟨hcandidates ▸ honce, fun p => ?_, fun p => ?_⟩
    · rw [hcandidates, hnew, List.mem_map, List.mem_map]
      constructor
      · rintro ⟨r, hr, rfl⟩
        obtain ⟨hmem, hnot⟩ := List.mem_filter.mp hr
        exact ⟨⟨r, hmem, rfl⟩, by simpa using hnot⟩
      · rintro ⟨⟨r, hmem, rfl⟩, hnot⟩
        exact ⟨r, List.mem_filter.mpr ⟨hmem, by simpa using hnot⟩, rfl⟩
    · rw [h.missing hobserved hbaseline, (h.comparable hscan).missing, hscan]
      -- spelled alike, an approval is matched exactly when its remote was registered
      have hsame : ∀ a ∈ approved, (∃ r ∈ registrations, SpelledSame r a) ↔
          a.remote ∈ registrations.map Adapters.RemoteRegisteredObservation.remote := by
        intro a ha
        rw [List.mem_map]
        exact exists_congr fun r => and_congr_right fun hr =>
          ⟨fun hsame => hsame.remote, fun hremote => halike r hr a ha hremote⟩
      have hfilter : (approved.filter fun a => ¬ ∃ r ∈ registrations, SpelledSame r a) =
          approved.filter fun a => a.remote ∉ registrations.map Adapters.RemoteRegisteredObservation.remote :=
        List.filter_congr fun a ha => by simp only [hsame a ha]
      rw [hfilter]

end Agreement

/-! ## Two scans -/

def sampleRegistration (remoteBlockchainId remoteTokenTransferrerAddress : String) (blockNumber : Int) :
    Adapters.RemoteRegisteredObservation where
  remoteBlockchainId
  remoteTokenTransferrerAddress
  collateralNeeded := 0
  remoteTokenDecimals := 18
  source := { blockNumber, blockHash := "0x0b", txHash := "0x0c" }

def sampleApproved : List Adapters.ApprovedRemote :=
  [{ remoteBlockchainId := "0xab", remoteTokenTransferrerAddress := "0x01", expectedDecimals := 18 }]

def sampleInput (registrations : List Adapters.RemoteRegisteredObservation) : CensusInput where
  homeStartBlock := 1
  agreedHead := 9
  historyFullyReplayed := true
  observed := registrations.map eventOf
  approved := sampleApproved.map approvedOf

def sampleScan (registrations : List Adapters.RemoteRegisteredObservation) : Adapters.CensusInput where
  tokenHomeAddress := "0x0a"
  homeBlockchainId := "0x0d"
  tokenHomeDeploymentBlock := some 1
  scannedFromBlock := some 1
  scannedToBlock := 9
  hadLogGap := false
  registrations

/-- The approved remote and a new one, each registered once and spelled as in the baseline. -/
def cleanRegistrations : List Adapters.RemoteRegisteredObservation :=
  [sampleRegistration "0xab" "0x01" 5, sampleRegistration "0xCd" "0x02" 6]

/-- The approved remote in other letters, and a new one twice. -/
def looseRegistrations : List Adapters.RemoteRegisteredObservation :=
  [sampleRegistration "0xAB" "0x01" 5, sampleRegistration "0xcd" "0x02" 6, sampleRegistration "0xcd" "0x02" 7]

theorem censusesAgree_iff_clean :
    CensusesAgree (buildCensus (sampleInput cleanRegistrations))
        (diffAgainstBaseline (buildCandidateCensus codeUnits (sampleScan cleanRegistrations)) sampleApproved "") ↔
      SpelledAlike cleanRegistrations sampleApproved ∧ RegisteredOnce cleanRegistrations sampleApproved :=
  censusesAgree_iff codeUnits ⟨by decide, by decide +kernel, by decide +kernel⟩ _ rfl rfl _ rfl ""

/-- The replay reports the approved remote as new and the new one twice; the adapters report the new one, once. -/
theorem censusesAgree_fails :
    let census := buildCensus (sampleInput looseRegistrations)
    let diff := diffAgainstBaseline (buildCandidateCensus codeUnits (sampleScan looseRegistrations)) sampleApproved ""
    census.candidates.map RemoteCandidate.remote = [("0xab", "0x01"), ("0xcd", "0x02"), ("0xcd", "0x02")] ∧
      diff.remotes .candidateNotApproved = [("0xcd", "0x02")] ∧
      census.missingFromHistory.map ApprovedRemote.remote = [("0xab", "0x01")] ∧
      diff.remotes .approvedNotObserved = [] ∧ ¬ CensusesAgree census diff := by
  have hcandidates : (buildCensus (sampleInput looseRegistrations)).candidates.map RemoteCandidate.remote =
      [("0xab", "0x01"), ("0xcd", "0x02"), ("0xcd", "0x02")] := by decide +kernel
  refine ⟨hcandidates, by decide +kernel, by decide +kernel, by decide +kernel, fun h => ?_⟩
  have honce := h.once
  rw [hcandidates] at honce
  exact absurd honce (by decide)

end IcttSentinel.Replay
