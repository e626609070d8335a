/-
Discovery and census, packages/ictt-adapters/src/discovery.ts: a candidate census from the registrations a scan saw,
each remote once, and what differs from the approved baseline. The order `localeCompare` gives strings is that of a
collation key.
-/
import IcttSentinel.Evidence.ReplayInput
import IcttSentinel.Lib.Joined
import IcttSentinel.Lib.Keyed

namespace IcttSentinel.Adapters

open IcttSentinel.Lib

/-- The part of an observation's source that a census reads. -/
structure ObservationSource where
  blockNumber : Int
  blockHash : String
  txHash : String
  deriving DecidableEq, Repr

structure RemoteRegisteredObservation where
  remoteBlockchainId : String
  remoteTokenTransferrerAddress : String
  collateralNeeded : Int
  remoteTokenDecimals : Int
  source : ObservationSource
  deriving DecidableEq, Repr

structure CandidateRemote where
  remoteBlockchainId : String
  remoteTokenTransferrerAddress : String
  collateralNeededAtRegistration : Int
  remoteTokenDecimals : Int
  firstSeenBlock : Int
  firstSeenTxHash : String
  trusted : Bool
  deriving DecidableEq, Repr

inductive CensusCompleteness where
  | completeFromDeploymentBlock
  | incomplete
  | unknown
  deriving DecidableEq, Repr

structure CandidateCensus where
  tokenHomeAddress : String
  homeBlockchainId : String
  fromBlock : Option Int
  toBlock : Int
  completeness : CensusCompleteness
  remotes : List CandidateRemote
  reasons : List String
  deriving DecidableEq, Repr

structure CensusInput where
  tokenHomeAddress : String
  homeBlockchainId : String
  tokenHomeDeploymentBlock : Option Int
  scannedFromBlock : Option Int
  scannedToBlock : Int
  hadLogGap : Bool
  registrations : List RemoteRegisteredObservation
  deriving DecidableEq, Repr

/-! ## The census -/

/-- What bounds the history that was scanned, before its gaps are looked at. -/
def startCompleteness (deploymentBlock scannedFromBlock : Option Int) : CensusCompleteness × List String :=
  match deploymentBlock, scannedFromBlock with
  | none, _ => (.unknown, ["the TokenHome deployment block is unknown, so no lower bound on history exists"])
  | some _, none => (.unknown, ["the scan start block is unknown"])
  | some deployed, some scanned =>
    if scanned > deployed then
      (.incomplete, ["the scan started at block " ++ toString scanned ++ ", after the TokenHome was deployed at " ++
        toString deployed ++ "; earlier registrations were not observed"])
    else (.completeFromDeploymentBlock, [])

/-- The completeness of a census, and why it is no better. -/
def completenessOf (input : CensusInput) : CensusCompleteness × List String :=
  let start := startCompleteness input.tokenHomeDeploymentBlock input.scannedFromBlock
  if input.hadLogGap then
    (if start.1 = .unknown then .unknown else .incomplete,
      start.2 ++ ["the log scan had a gap that no archive endpoint filled"])
  else start

/-- The key of a remote, in any letter case. -/
def keyOf (remoteBlockchainId remoteTokenTransferrerAddress : String) : String :=
  remoteBlockchainId.toLower ++ ":" ++ remoteTokenTransferrerAddress.toLower

/-- The key a sighting is stored under; its identifiers are lower case already. -/
def CandidateRemote.storedKey (r : CandidateRemote) : String :=
  r.remoteBlockchainId ++ ":" ++ r.remoteTokenTransferrerAddress

def sightingOf (r : RemoteRegisteredObservation) : CandidateRemote where
  remoteBlockchainId := r.remoteBlockchainId.toLower
  remoteTokenTransferrerAddress := r.remoteTokenTransferrerAddress.toLower
  collateralNeededAtRegistration := r.collateralNeeded
  remoteTokenDecimals := r.remoteTokenDecimals
  firstSeenBlock := r.source.blockNumber
  firstSeenTxHash := r.source.txHash
  trusted := false

/-- One registration of the scan: the earliest sighting of a remote is kept. -/
def see (seen : Keyed CandidateRemote.storedKey) (r : RemoteRegisteredObservation) : Keyed CandidateRemote.storedKey :=
  match seen.lookup (keyOf r.remoteBlockchainId r.remoteTokenTransferrerAddress) with
  | some existing =>
    if existing.firstSeenBlock ≤ r.source.blockNumber then seen else seen.upsert (sightingOf r)
  | none => seen.upsert (sightingOf r)

def seenIn (registrations : List RemoteRegisteredObservation) : Keyed CandidateRemote.storedKey :=
  registrations.foldl see ∅

section Census

-- the sort keys by which `localeCompare` orders strings
variable {κ : Type} [LinearOrder κ] (collationKey : String → κ)

/-- The order of a census: by blockchain, then by address. -/
def listedBefore (a b : CandidateRemote) : Bool :=
  if a.remoteBlockchainId = b.remoteBlockchainId then
    collationKey a.remoteTokenTransferrerAddress ≤ collationKey b.remoteTokenTransferrerAddress
  else collationKey a.remoteBlockchainId ≤ collationKey b.remoteBlockchainId

def buildCandidateCensus (input : CensusInput) : CandidateCensus where
  tokenHomeAddress := input.tokenHomeAddress.toLower
  homeBlockchainId := input.homeBlockchainId.toLower
  fromBlock := input.scannedFromBlock
  toBlock := input.scannedToBlock
  completeness := (completenessOf input).1
  remotes := (seenIn input.registrations).rows.insertionSort fun a b => listedBefore collationKey a b
  reasons := (completenessOf input).2

end Census

/-! ## The diff -/

structure ApprovedRemote where
  remoteBlockchainId : String
  remoteTokenTransferrerAddress : String
  expectedDecimals : Int
  deriving DecidableEq, Repr

inductive DriftKind where
  | candidateNotApproved
  | approvedNotObserved
  | decimalsMismatch
  deriving DecidableEq, Repr

structure DriftEntry where
  kind : DriftKind
  remoteBlockchainId : String
  remoteTokenTransferrerAddress : String
  detail : String
  deriving DecidableEq, Repr

structure DiscoveryDiff where
  baselineDigest : String
  censusCompleteness : CensusCompleteness
  drift : List DriftEntry
  mutatesBaseline : Bool
  deriving DecidableEq, Repr

def CandidateRemote.key (r : CandidateRemote) : String := keyOf r.remoteBlockchainId r.remoteTokenTransferrerAddress

def ApprovedRemote.key (a : ApprovedRemote) : String := keyOf a.remoteBlockchainId a.remoteTokenTransferrerAddress

/-- What is reported of an observed remote. -/
def observedDrift (approvedByKey : Keyed ApprovedRemote.key) (r : CandidateRemote) : List DriftEntry :=
  match approvedByKey.lookup r.key with
  | none => [{
      kind := .candidateNotApproved
      remoteBlockchainId := r.remoteBlockchainId
      remoteTokenTransferrerAddress := r.remoteTokenTransferrerAddress
      detail := "registered on chain but not present in the approved baseline; candidate drift, not trusted" }]
  | some approved =>
    if approved.expectedDecimals ≠ r.remoteTokenDecimals then [{
      kind := .decimalsMismatch
      remoteBlockchainId := r.remoteBlockchainId
      remoteTokenTransferrerAddress := r.remoteTokenTransferrerAddress
      detail := "registered with " ++ toString r.remoteTokenDecimals ++ " decimals, baseline expects " ++
        toString approved.expectedDecimals }]
    else []

/-- What is reported of an approved remote. -/
def approvedDrift (observedByKey : Keyed CandidateRemote.key) (a : ApprovedRemote) : List DriftEntry :=
  if observedByKey.has a.key then [] else [{
    kind := .approvedNotObserved
    remoteBlockchainId := a.remoteBlockchainId.toLower
    remoteTokenTransferrerAddress := a.remoteTokenTransferrerAddress.toLower
    detail := "present in the approved baseline but no registration was observed in the scanned range" }]

def diffAgainstBaseline (census : CandidateCensus) (approved : List ApprovedRemote) (baselineDigest : String) :
    DiscoveryDiff :=
  let approvedByKey : Keyed ApprovedRemote.key := (∅ : Keyed ApprovedRemote.key).upsertAll approved
  let observedByKey : Keyed CandidateRemote.key := (∅ : Keyed CandidateRemote.key).upsertAll census.remotes
  { baselineDigest
    censusCompleteness := census.completeness
    drift := observedByKey.rows.flatMap (observedDrift approvedByKey) ++
      approvedByKey.rows.flatMap (approvedDrift observedByKey)
    mutatesBaseline := false }

/-! ## Remotes in any letter case -/

/-- A remote, whatever the letter case it was written in. -/
abbrev Remote : Type := String × String

def remoteOf (remoteBlockchainId remoteAddress : String) : Remote := (remoteBlockchainId.toLower, remoteAddress.toLower)

def RemoteRegisteredObservation.remote (r : RemoteRegisteredObservation) : Remote :=
  remoteOf r.remoteBlockchainId r.remoteTokenTransferrerAddress

def ApprovedRemote.remote (a : ApprovedRemote) : Remote := remoteOf a.remoteBlockchainId a.remoteTokenTransferrerAddress

def CandidateRemote.remote (r : CandidateRemote) : Remote := (r.remoteBlockchainId, r.remoteTokenTransferrerAddress)

def DriftEntry.remote (e : DriftEntry) : Remote := (e.remoteBlockchainId, e.remoteTokenTransferrerAddress)

/-- The remotes a diff reports under one kind. -/
def DiscoveryDiff.remotes (diff : DiscoveryDiff) (kind : DriftKind) : List Remote :=
  (diff.drift.filter (·.kind = kind)).map DriftEntry.remote

/-- Hexadecimal digits of either case behind `0x`: a blockchain id or an address. -/
def isHexId (s : String) : Bool :=
  match s.toList with
  | '0' :: 'x' :: digits => digits.all fun c => Evidence.isHexDigit c.toLower
  | _ => false

theorem toList_toLower (s : String) : s.toLower.toList = s.toList.map Char.toLower := by
  show (s.map Char.toLower).toList = _
  rw [String.toList_map]

/-- A letter in lowercase is no capital. -/
theorem toLower_char_idem (c : Char) : c.toLower.toLower = c.toLower := by
  by_cases h : c.val ≥ 'A'.val ∧ c.val ≤ 'Z'.val
  · have hval : c.toLower.val = c.val + 32 := by
      have hlower : c.toLower = ⟨c.val + ('a'.val - 'A'.val), _⟩ := dif_pos h
      rw [hlower]
      rfl
    have hbounds : 65 ≤ c.val.toNat ∧ c.val.toNat ≤ 90 := h
    have hshift : (32 : UInt32).toNat = 32 := rfl
    have hnat : c.toLower.val.toNat = c.val.toNat + 32 := by
      rw [hval, UInt32.toNat_add]
      exact Nat.mod_eq_of_lt (by omega)
    have hout : ¬ (c.toLower.val ≥ 'A'.val ∧ c.toLower.val ≤ 'Z'.val) := by
      rintro ⟨-, hle⟩
      have hle : c.toLower.val.toNat ≤ 90 := hle
      omega
    exact dif_neg hout
  · have hsame : c.toLower = c := dif_neg h
    rw [hsame, hsame]

theorem toLower_toLower (s : String) : s.toLower.toLower = s.toLower := by
  rw [← String.toList_inj, toList_toLower, toList_toLower, List.map_map]
  congr 1
  funext c
  exact toLower_char_idem c

/-- A character that is no digit and no letter occurs in an id in neither case. -/
theorem notMem_of_isHexId {s : String} (h : isHexId s = true) {c : Char} (hdigit : Evidence.isHexDigit c = false)
    (hx : c ≠ 'x') (hcase : c.toLower = c) : c ∉ s.toList ∧ c ∉ s.toLower.toList := by
  have hlower : c ∉ s.toLower.toList := by
    unfold isHexId at h
    rw [toList_toLower]
    split at h
    · rename_i digits heq
      rw [heq, List.map_cons, List.map_cons, List.mem_cons, List.mem_cons, List.mem_map]
      rintro (rfl | rfl | ⟨d, hd, rfl⟩)
      · exact absurd hdigit (by decide)
      · exact hx rfl
      · rw [List.all_eq_true.mp h d hd] at hdigit
        cases hdigit
    · cases h
  refine ⟨fun hmem => hlower ?_, hlower⟩
  rw [toList_toLower, ← hcase]
  exact List.mem_map_of_mem hmem

/-! ## Each remote once -/

theorem append_colon_inj {a a' b b' : String} (ha : ':' ∉ a.toList) (ha' : ':' ∉ a'.toList)
    (h : a ++ ":" ++ b = a' ++ ":" ++ b') : (a, b) = (a', b') := by
  have hlists : a.toList ++ ':' :: b.toList = a'.toList ++ ':' :: b'.toList := by
    have := congrArg String.toList h
    simpa using this
  obtain ⟨hid, haddress⟩ := append_cons_inj ha ha' hlists
  rw [String.toList_inj.mp hid, String.toList_inj.mp haddress]

/-- The keys of two remotes whose blockchains are written without a colon are equal for one remote only. -/
theorem keyOf_inj {a a' b b' : String} (ha : ':' ∉ a.toLower.toList) (ha' : ':' ∉ a'.toLower.toList) :
    keyOf a b = keyOf a' b' ↔ remoteOf a b = remoteOf a' b' := by
  constructor
  · exact append_colon_inj ha ha'
  · intro h
    unfold keyOf
    rw [show a.toLower = a'.toLower from congrArg Prod.fst h, show b.toLower = b'.toLower from congrArg Prod.snd h]

theorem rows_see {seen : Keyed CandidateRemote.storedKey} {r : RemoteRegisteredObservation} {x : CandidateRemote}
    (hx : x ∈ (see seen r).rows) : x ∈ seen.rows ∨ x = sightingOf r := by
  have hupsert : x ∈ (seen.upsert (sightingOf r)).rows → x ∈ seen.rows ∨ x = sightingOf r := fun h =>
    (Keyed.mem_upsert.mp h).elim Or.inr fun h => Or.inl h.1
  unfold see at hx
  split at hx
  · split at hx
    · exact Or.inl hx
    · exact hupsert hx
  · exact hupsert hx

/-- The stored sightings are sightings of the registrations. -/
theorem rows_seenIn {registrations : List RemoteRegisteredObservation} {x : CandidateRemote}
    (hx : x ∈ (seenIn registrations).rows) : ∃ r ∈ registrations, x = sightingOf r := by
  induction registrations using List.reverseRecOn with
  | nil => simp [seenIn] at hx
  | append_singleton registrations r ih =>
    unfold seenIn at hx
    rw [List.foldl_append] at hx
    rcases rows_see hx with hx | rfl
    · obtain ⟨r', hr', rfl⟩ := ih hx
      exact ⟨r', List.mem_append_left _ hr', rfl⟩
    · exact ⟨r, by simp, rfl⟩

/-- A registration adds its own remote to those that were seen. -/
theorem remotes_see {seen : Keyed CandidateRemote.storedKey} {r : RemoteRegisteredObservation}
    (hseen : ∀ x ∈ seen.rows, ':' ∉ x.remoteBlockchainId.toList) (hr : ':' ∉ r.remoteBlockchainId.toLower.toList)
    (p : Remote) :
    p ∈ (see seen r).rows.map CandidateRemote.remote ↔ p ∈ seen.rows.map CandidateRemote.remote ∨ p = r.remote := by
  have hsame : ∀ x ∈ seen.rows, x.storedKey = (sightingOf r).storedKey → x.remote = r.remote := fun x hx hkey =>
    append_colon_inj (hseen x hx) hr hkey
  have hupsert : p ∈ (seen.upsert (sightingOf r)).rows.map CandidateRemote.remote ↔
      p ∈ seen.rows.map CandidateRemote.remote ∨ p = r.remote := by
    simp only [List.mem_map, Keyed.mem_upsert]
    constructor
    · rintro ⟨x, rfl | ⟨hx, -⟩, rfl⟩
      · exact Or.inr rfl
      · exact Or.inl ⟨x, hx, rfl⟩
    · rintro (⟨x, hx, rfl⟩ | rfl)
      · by_cases hkey : x.storedKey = (sightingOf r).storedKey
        · exact ⟨sightingOf r, Or.inl rfl, (hsame x hx hkey).symm⟩
        · exact ⟨x, Or.inr ⟨hx, hkey⟩, rfl⟩
      · exact ⟨sightingOf r, Or.inl rfl, rfl⟩
  unfold see
  split
  · rename_i existing hexisting
    split
    · obtain ⟨hmem, hkey⟩ := Keyed.lookup_eq_some.mp hexisting
      rw [or_iff_left_of_imp]
      rintro rfl
      exact List.mem_map.mpr ⟨existing, hmem, hsame existing hmem hkey⟩
    · exact hupsert
  · exact hupsert

theorem mem_remotes_seenIn {registrations : List RemoteRegisteredObservation}
    (hids : ∀ r ∈ registrations, ':' ∉ r.remoteBlockchainId.toLower.toList) (p : Remote) :
    p ∈ (seenIn registrations).rows.map CandidateRemote.remote ↔
      p ∈ registrations.map RemoteRegisteredObservation.remote := by
  induction registrations using List.reverseRecOn with
  | nil => simp [seenIn]
  | append_singleton registrations r ih =>
    have hinit : ∀ r' ∈ registrations, ':' ∉ r'.remoteBlockchainId.toLower.toList := fun r' hr' =>
      hids r' (List.mem_append_left _ hr')
    have hstored : ∀ x ∈ (seenIn registrations).rows, ':' ∉ x.remoteBlockchainId.toList := by
      intro x hx
      obtain ⟨r', hr', rfl⟩ := rows_seenIn hx
      exact hinit r' hr'
    have hstep : seenIn (registrations ++ [r]) = see (seenIn registrations) r := by
      simp [seenIn]
    rw [hstep, remotes_see hstored (hids r (by simp)), ih hinit, List.map_append, List.mem_append, List.map_singleton,
      List.mem_singleton]

theorem nodup_remotes_seenIn (registrations : List RemoteRegisteredObservation) :
    ((seenIn registrations).rows.map CandidateRemote.remote).Nodup := by
  have hkeys : (((seenIn registrations).rows.map CandidateRemote.remote).map fun p : Remote => p.1 ++ ":" ++ p.2).Nodup := by
    rw [List.map_map]
    exact (seenIn registrations).nodup
  exact hkeys.of_map

/-! ## What a diff reports -/

/-- A list of at most one entry an element, projected to the entries of one kind. -/
theorem map_filter_flatMap {α β γ : Type} {f : α → List β} {p : β → Bool} {g : β → γ} {q : α → Bool} {h : α → γ}
    {l : List α} (hf : ∀ a ∈ l, ((f a).filter p).map g = if q a then [h a] else []) :
    ((l.flatMap f).filter p).map g = (l.filter q).map h := by
  induction l with
  | nil => rfl
  | cons a l ih =>
    rw [List.flatMap_cons, List.filter_append, List.map_append, hf a List.mem_cons_self,
      ih fun b hb => hf b (List.mem_cons_of_mem _ hb), List.filter_cons]
    cases q a <;> rfl

section Diff

variable {κ : Type} [LinearOrder κ] {collationKey : String → κ} {input : CensusInput} {approved : List ApprovedRemote}
  {baselineDigest : String}

/-- The approved remotes are all different, and neither they nor the registrations write a blockchain with a colon. -/
structure Comparable (input : CensusInput) (approved : List ApprovedRemote) : Prop where
  distinct : (approved.map ApprovedRemote.remote).Nodup
  seen_colon : ∀ r ∈ input.registrations, ':' ∉ r.remoteBlockchainId.toLower.toList
  approved_colon : ∀ a ∈ approved, ':' ∉ a.remoteBlockchainId.toLower.toList

theorem remotes_perm (collationKey : String → κ) (input : CensusInput) :
    (buildCandidateCensus collationKey input).remotes.Perm (seenIn input.registrations).rows :=
  List.perm_insertionSort _ _

theorem exists_sighting {x : CandidateRemote} (hx : x ∈ (buildCandidateCensus collationKey input).remotes) :
    ∃ r ∈ input.registrations, x = sightingOf r :=
  rows_seenIn ((remotes_perm collationKey input).mem_iff.mp hx)

/-- What the diff compares: the remotes of a census, and the approved ones, under their keys. -/
def observedTable (collationKey : String → κ) (input : CensusInput) : Keyed CandidateRemote.key :=
  (∅ : Keyed CandidateRemote.key).upsertAll (buildCandidateCensus collationKey input).remotes

def approvedTable (approved : List ApprovedRemote) : Keyed ApprovedRemote.key :=
  (∅ : Keyed ApprovedRemote.key).upsertAll approved

theorem drift_eq (collationKey : String → κ) (input : CensusInput) (approved : List ApprovedRemote)
    (baselineDigest : String) :
    (diffAgainstBaseline (buildCandidateCensus collationKey input) approved baselineDigest).drift =
      (observedTable collationKey input).rows.flatMap (observedDrift (approvedTable approved)) ++
        (approvedTable approved).rows.flatMap (approvedDrift (observedTable collationKey input)) := rfl

theorem key_sightingOf (r : RemoteRegisteredObservation) : (sightingOf r).key = (sightingOf r).storedKey := by
  show keyOf _ _ = _
  simp only [keyOf, sightingOf, toLower_toLower, CandidateRemote.storedKey]

/-- The diff finds the remotes of the census under their keys. -/
theorem rows_observedTable (collationKey : String → κ) (input : CensusInput) :
    (observedTable collationKey input).rows = (buildCandidateCensus collationKey input).remotes := by
  have hperm := remotes_perm collationKey input
  unfold observedTable
  rw [Keyed.rows_upsertAll_of_nodup]
  · rfl
  · rw [Keyed.rows_empty, List.nil_append, (hperm.map _).nodup_iff]
    have hkeys : (seenIn input.registrations).rows.map CandidateRemote.key =
        (seenIn input.registrations).rows.map CandidateRemote.storedKey :=
      List.map_congr_left fun x hx => by
        obtain ⟨r, -, rfl⟩ := rows_seenIn hx
        exact key_sightingOf r
    rw [hkeys]
    exact (seenIn input.registrations).nodup

namespace Comparable

variable (h : Comparable input approved)
include h

theorem rows_approvedTable : (approvedTable approved).rows = approved := by
  unfold approvedTable
  rw [Keyed.rows_upsertAll_of_nodup]
  · rfl
  · rw [Keyed.rows_empty, List.nil_append, List.Nodup, List.pairwise_map]
    refine (List.pairwise_map.mp h.distinct).imp_of_mem fun {a b} ha hb hne heq => hne ?_
    exact (keyOf_inj (h.approved_colon a ha) (h.approved_colon b hb)).mp heq

/-- A sighting and an approved remote have one key exactly when they are one remote. -/
theorem key_eq_iff {r : RemoteRegisteredObservation} (hr : r ∈ input.registrations) {a : ApprovedRemote}
    (ha : a ∈ approved) : (sightingOf r).key = a.key ↔ r.remote = a.remote := by
  have hkey : (sightingOf r).key = keyOf r.remoteBlockchainId r.remoteTokenTransferrerAddress := key_sightingOf r
  rw [hkey]
  exact keyOf_inj (h.seen_colon r hr) (h.approved_colon a ha)

/-- The candidates of a diff are the sightings of remotes that are not approved. -/
theorem candidates (collationKey : String → κ) (baselineDigest : String) :
    (diffAgainstBaseline (buildCandidateCensus collationKey input) approved baselineDigest).remotes
        .candidateNotApproved =
      ((buildCandidateCensus collationKey input).remotes.filter fun x =>
        x.remote ∉ approved.map ApprovedRemote.remote).map CandidateRemote.remote := by
  unfold DiscoveryDiff.remotes
  rw [drift_eq, List.filter_append, List.map_append, rows_observedTable]
  -- the drift of the approvals reports no candidate
  have hsecond : (((approvedTable approved).rows.flatMap (approvedDrift (observedTable collationKey input))).filter
      fun e => e.kind = .candidateNotApproved) = [] := by
    rw [List.filter_eq_nil_iff]
    intro e he
    obtain ⟨a, -, he⟩ := List.mem_flatMap.mp he
    unfold approvedDrift at he
    split at he
    · cases he
    · simp [List.mem_singleton.mp he]
  rw [hsecond, List.map_nil, List.append_nil]
  refine map_filter_flatMap fun x hx => ?_
  obtain ⟨r, hr, rfl⟩ := exists_sighting hx
  have hmem : (sightingOf r).remote ∈ approved.map ApprovedRemote.remote ↔
      ∃ a ∈ approved, a.key = (sightingOf r).key := by
    rw [List.mem_map]
    refine exists_congr fun a => and_congr_right fun ha => ?_
    rw [eq_comm (a := a.key), h.key_eq_iff hr ha, eq_comm]
    rfl
  unfold observedDrift
  split
  · rename_i hnone
    have hnot : (sightingOf r).remote ∉ approved.map ApprovedRemote.remote := by
      rw [hmem]
      rintro ⟨a, ha, hkey⟩
      exact Keyed.lookup_eq_none.mp hnone a (by rwa [h.rows_approvedTable]) hkey
    rw [if_pos (by simpa using hnot)]
    rfl
  · rename_i a hsome
    have hin : (sightingOf r).remote ∈ approved.map ApprovedRemote.remote := by
      obtain ⟨ha, hkey⟩ := Keyed.lookup_eq_some.mp hsome
      exact hmem.mpr ⟨a, by rwa [h.rows_approvedTable] at ha, hkey⟩
    split
    · rw [if_neg (by simpa using hin)]
      rfl
    · rw [if_neg (by simpa using hin)]
      rfl

/-- The remotes a diff misses are the approved ones that were not registered. -/
theorem missing (collationKey : String → κ) (baselineDigest : String) :
    (diffAgainstBaseline (buildCandidateCensus collationKey input) approved baselineDigest).remotes
        .approvedNotObserved =
      (approved.filter fun a =>
        a.remote ∉ input.registrations.map RemoteRegisteredObservation.remote).map ApprovedRemote.remote := by
  unfold DiscoveryDiff.remotes
  rw [drift_eq, List.filter_append, List.map_append, h.rows_approvedTable]
  have hfirst : (((observedTable collationKey input).rows.flatMap (observedDrift (approvedTable approved))).filter
      fun e => e.kind = .approvedNotObserved) = [] := by
    rw [List.filter_eq_nil_iff]
    intro e he
    obtain ⟨x, -, he⟩ := List.mem_flatMap.mp he
    unfold observedDrift at he
    split at he
    · simp [List.mem_singleton.mp he]
    · split at he
      · simp [List.mem_singleton.mp he]
      · cases he
  rw [hfirst, List.map_nil, List.nil_append]
  refine map_filter_flatMap fun a ha => ?_
  have hhas : (observedTable collationKey input).has a.key = true ↔
      a.remote ∈ input.registrations.map RemoteRegisteredObservation.remote := by
    rw [Keyed.has_iff, rows_observedTable, ← mem_remotes_seenIn h.seen_colon, List.mem_map]
    refine exists_congr fun x => ?_
    rw [(remotes_perm collationKey input).mem_iff]
    refine and_congr_right fun hx => ?_
    obtain ⟨r, hr, rfl⟩ := rows_seenIn hx
    exact h.key_eq_iff hr ha
  unfold approvedDrift
  by_cases hseen : a.remote ∈ input.registrations.map RemoteRegisteredObservation.remote
  · rw [if_pos (hhas.mpr hseen), if_neg (by simpa using hseen)]
    rfl
  · rw [if_neg (fun hin => hseen (hhas.mp hin)), if_pos (by simpa using hseen)]
    rfl

end Comparable

end Diff

end IcttSentinel.Adapters
