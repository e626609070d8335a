/-
What a census and its diff say, packages/ictt-adapters/src/discovery.ts: the remotes of a census are those registered,
each as it was first seen, in whatever order the registrations arrive; the diff has one entry for every remote on which
the registrations and the baseline disagree, and no other.
-/
import IcttSentinel.Adapters.Discovery
import IcttSentinel.Lib.Sorting

namespace IcttSentinel.Adapters

open IcttSentinel.Lib

/-- The registration is the first of its remote. -/
structure Earliest (registrations : List RemoteRegisteredObservation) (r : RemoteRegisteredObservation) : Prop where
  mem : r ∈ registrations
  le : ∀ r' ∈ registrations, r'.remote = r.remote → r.source.blockNumber ≤ r'.source.blockNumber

/-- Registrations as they are decoded from logs: ids of hexadecimal digits, and a remote at most once in a block. -/
structure RegisteredOnce (registrations : List RemoteRegisteredObservation) : Prop where
  hex : ∀ r ∈ registrations, isHexId r.remoteBlockchainId = true ∧ isHexId r.remoteTokenTransferrerAddress = true
  once : (registrations.map fun r => (r.remote, r.source.blockNumber)).Nodup

/-- A baseline with one entry per remote, all ids hexadecimal. -/
structure ApprovedOnce (approved : List ApprovedRemote) : Prop where
  hex : ∀ a ∈ approved, isHexId a.remoteBlockchainId = true ∧ isHexId a.remoteTokenTransferrerAddress = true
  once : (approved.map ApprovedRemote.remote).Nodup

/-- The scan is known to reach back to a known deployment, and has no gap. -/
def CensusInput.ReachesDeployment (input : CensusInput) : Prop :=
  ∃ deployed scanned, input.tokenHomeDeploymentBlock = some deployed ∧ input.scannedFromBlock = some scanned ∧
    scanned ≤ deployed ∧ input.hadLogGap = false

/-- A census that lists what was registered, each remote once and as it was first seen. -/
structure CensusExact (input : CensusInput) (census : CandidateCensus) : Prop where
  once : (census.remotes.map CandidateRemote.remote).Nodup
  registered : ∀ p, p ∈ census.remotes.map CandidateRemote.remote ↔
    p ∈ input.registrations.map RemoteRegisteredObservation.remote
  earliest : ∀ c ∈ census.remotes, ∃ r, Earliest input.registrations r ∧ c = sightingOf r
  complete : census.completeness = .completeFromDeploymentBlock ↔ input.ReachesDeployment

/-- A diff with one entry for each remote a census and a baseline disagree on. -/
structure DriftExact (census : CandidateCensus) (approved : List ApprovedRemote) (diff : DiscoveryDiff) : Prop where
  once : (diff.drift.map DriftEntry.remote).Nodup
  candidates : ∀ p, p ∈ diff.remotes .candidateNotApproved ↔
    p ∈ census.remotes.map CandidateRemote.remote ∧ p ∉ approved.map ApprovedRemote.remote
  missing : ∀ p, p ∈ diff.remotes .approvedNotObserved ↔
    p ∈ approved.map ApprovedRemote.remote ∧ p ∉ census.remotes.map CandidateRemote.remote
  mismatched : ∀ p, p ∈ diff.remotes .decimalsMismatch ↔ ∃ c ∈ census.remotes, ∃ a ∈ approved,
    c.remote = p ∧ a.remote = p ∧ a.expectedDecimals ≠ c.remoteTokenDecimals
  completeness : diff.censusCompleteness = census.completeness

/-! ## The earliest sightings -/

section Earliest

variable {registrations : List RemoteRegisteredObservation} {r x : RemoteRegisteredObservation}

theorem RegisteredOnce.colon (h : RegisteredOnce registrations) (hr : r ∈ registrations) :
    ':' ∉ r.remoteBlockchainId.toLower.toList :=
  (notMem_of_isHexId (h.hex r hr).1 (by decide) (by decide) (by decide)).2

theorem RegisteredOnce.init (h : RegisteredOnce (registrations ++ [r])) : RegisteredOnce registrations where
  hex r' hr' := h.hex r' (List.mem_append_left _ hr')
  once := h.once.sublist ((List.sublist_append_left _ _).map _)

/-- An earlier registration of the same remote is not of the same block. -/
theorem RegisteredOnce.ne_block (h : RegisteredOnce (registrations ++ [r])) (hx : x ∈ registrations)
    (hremote : x.remote = r.remote) : x.source.blockNumber ≠ r.source.blockNumber := by
  have honce := h.once
  rw [List.map_append, List.map_singleton, List.nodup_append] at honce
  intro hblock
  exact honce.2.2 _ (List.mem_map_of_mem hx) _ (List.mem_singleton_self _) (Prod.ext hremote hblock)

theorem RegisteredOnce.perm {registrations' : List RemoteRegisteredObservation} (h : RegisteredOnce registrations)
    (hperm : registrations'.Perm registrations) : RegisteredOnce registrations' where
  hex r hr := h.hex r (hperm.mem_iff.1 hr)
  once := (hperm.map _).nodup_iff.2 h.once

theorem Earliest.perm {registrations' : List RemoteRegisteredObservation} (hperm : registrations'.Perm registrations) :
    Earliest registrations' r ↔ Earliest registrations r :=
  ⟨fun h => ⟨hperm.mem_iff.1 h.mem, fun r' hr' => h.le r' (hperm.mem_iff.2 hr')⟩,
    fun h => ⟨hperm.mem_iff.2 h.mem, fun r' hr' => h.le r' (hperm.mem_iff.1 hr')⟩⟩

/-- A later registration of a remote, or one of another remote, leaves the earliest one as it was. -/
theorem earliest_append_of_ne (hne : x.remote ≠ r.remote) :
    Earliest (registrations ++ [r]) x ↔ Earliest registrations x := by
  constructor
  · intro h
    refine ⟨?_, fun r' hr' => h.le r' (List.mem_append_left _ hr')⟩
    rcases List.mem_append.1 h.mem with hx | hx
    · exact hx
    · exact absurd (congrArg _ (List.mem_singleton.1 hx)) hne
  · intro h
    refine ⟨List.mem_append_left _ h.mem, fun r' hr' hremote => ?_⟩
    rcases List.mem_append.1 hr' with hr' | hr'
    · exact h.le r' hr' hremote
    · rw [List.mem_singleton.1 hr'] at hremote
      exact absurd hremote.symm hne

/-- Nothing of this remote was registered before its block. -/
theorem earliest_append_self
    (h : ∀ r' ∈ registrations, r'.remote = r.remote → r.source.blockNumber < r'.source.blockNumber) :
    Earliest (registrations ++ [r]) x ∧ x.remote = r.remote ↔ x = r := by
  constructor
  · rintro ⟨hx, hremote⟩
    rcases List.mem_append.1 hx.mem with hmem | hmem
    · have hle := hx.le r (by simp) hremote.symm
      have hlt := h x hmem hremote
      omega
    · exact List.mem_singleton.1 hmem
  · rintro rfl
    refine ⟨⟨by simp, fun r' hr' hremote => ?_⟩, rfl⟩
    rcases List.mem_append.1 hr' with hr' | hr'
    · exact (h r' hr' hremote).le
    · rw [List.mem_singleton.1 hr']

/-- The remote of the new registration was seen before. -/
theorem earliest_append_of_later {y : RemoteRegisteredObservation} (hy : Earliest registrations y)
    (hsame : y.remote = r.remote) (hlt : y.source.blockNumber < r.source.blockNumber) :
    Earliest (registrations ++ [r]) x ↔ Earliest registrations x := by
  by_cases hremote : x.remote = r.remote
  · constructor
    · intro hx
      have hle := hx.le y (List.mem_append_left _ hy.mem) (hsame.trans hremote.symm)
      rcases List.mem_append.1 hx.mem with hmem | hmem
      · exact ⟨hmem, fun r' hr' => hx.le r' (List.mem_append_left _ hr')⟩
      · rw [List.mem_singleton.1 hmem] at hle
        omega
    · intro hx
      have hle := hx.le y hy.mem (hsame.trans hremote.symm)
      refine ⟨List.mem_append_left _ hx.mem, fun r' hr' hr => ?_⟩
      rcases List.mem_append.1 hr' with hr' | hr'
      · exact hx.le r' hr' hr
      · rw [List.mem_singleton.1 hr']
        omega
  · exact earliest_append_of_ne hremote

/-- The rows of a scan are the earliest sightings of its registrations. -/
theorem mem_seenIn (h : RegisteredOnce registrations) {c : CandidateRemote} :
    c ∈ (seenIn registrations).rows ↔ ∃ x, Earliest registrations x ∧ c = sightingOf x := by
  induction registrations using List.reverseRecOn generalizing c with
  | nil =>
    refine ⟨fun hc => absurd hc (by simp [seenIn]), ?_⟩
    rintro ⟨x, hx, -⟩
    exact absurd hx.mem List.not_mem_nil
  | append_singleton registrations r ih =>
    have ih := fun {c} => ih h.init (c := c)
    have hkey : ∀ x ∈ registrations,
        (sightingOf x).storedKey = keyOf r.remoteBlockchainId r.remoteTokenTransferrerAddress ↔ x.remote = r.remote :=
      fun x hx => keyOf_inj (h.init.colon hx) (h.colon (by simp))
    -- storing the registration is right when it comes before all others of its remote
    have hstored (hlt : ∀ r' ∈ registrations, r'.remote = r.remote → r.source.blockNumber < r'.source.blockNumber) :
        c ∈ ((seenIn registrations).upsert (sightingOf r)).rows ↔
          ∃ x, Earliest (registrations ++ [r]) x ∧ c = sightingOf x := by
      rw [Keyed.mem_upsert, ih]
      constructor
      · rintro (rfl | ⟨⟨x, hx, rfl⟩, hne⟩)
        · exact ⟨r, ((earliest_append_self hlt).2 rfl).1, rfl⟩
        · exact ⟨x, (earliest_append_of_ne fun heq => hne ((hkey x hx.mem).2 heq)).2 hx, rfl⟩
      · rintro ⟨x, hx, rfl⟩
        by_cases hremote : x.remote = r.remote
        · rw [(earliest_append_self hlt).1 ⟨hx, hremote⟩]
          exact Or.inl rfl
        · have hx := (earliest_append_of_ne hremote).1 hx
          exact Or.inr ⟨⟨x, hx, rfl⟩, fun heq => hremote ((hkey x hx.mem).1 heq)⟩
    have hstep : seenIn (registrations ++ [r]) = see (seenIn registrations) r := by
      simp [seenIn]
    rw [hstep]
    unfold see
    split
    next existing hexisting =>
      obtain ⟨hmem, hk⟩ := Keyed.lookup_eq_some.1 hexisting
      obtain ⟨y, hy, rfl⟩ := ih.1 hmem
      have hsame : y.remote = r.remote := (hkey y hy.mem).1 hk
      have hne := h.ne_block hy.mem hsame
      split
      next hle =>
        have hle : y.source.blockNumber ≤ r.source.blockNumber := hle
        rw [ih]
        exact exists_congr fun x => and_congr_left fun _ => (earliest_append_of_later hy hsame (by omega)).symm
      next hlt =>
        have hlt : ¬ y.source.blockNumber ≤ r.source.blockNumber := hlt
        refine hstored fun r' hr' hremote => ?_
        have := hy.le r' hr' (hremote.trans hsame.symm)
        omega
    next hnone =>
      refine hstored fun r' hr' hremote => ?_
      -- a registration of this remote would have left a row
      have hin : r'.remote ∈ (seenIn registrations).rows.map CandidateRemote.remote :=
        (mem_remotes_seenIn (fun x hx => h.init.colon hx) _).2 (List.mem_map_of_mem hr')
      obtain ⟨c, hc, hcr⟩ := List.mem_map.1 hin
      obtain ⟨x, hx, rfl⟩ := ih.1 hc
      have hcr : x.remote = r'.remote := hcr
      exact absurd ((hkey x hx.mem).2 (hcr.trans hremote)) (Keyed.lookup_eq_none.1 hnone _ hc)

end Earliest

/-! ## The order of a census -/

section Order

variable {κ : Type} [LinearOrder κ] {collationKey : String → κ}

/-- The collation tells hexadecimal ids in lower case apart. -/
def SeparatesIds (collationKey : String → κ) : Prop :=
  ∀ s t, isHexId s = true → isHexId t = true → collationKey s.toLower = collationKey t.toLower → s.toLower = t.toLower

/-- What a census is sorted by. -/
def rank (collationKey : String → κ) (c : CandidateRemote) : Lex (κ × κ) :=
  toLex (collationKey c.remoteBlockchainId, collationKey c.remoteTokenTransferrerAddress)

theorem listedBefore_iff (hcollation : SeparatesIds collationKey) {x y : RemoteRegisteredObservation}
    (hx : isHexId x.remoteBlockchainId = true) (hy : isHexId y.remoteBlockchainId = true) :
    listedBefore collationKey (sightingOf x) (sightingOf y) = true ↔
      rank collationKey (sightingOf x) ≤ rank collationKey (sightingOf y) := by
  unfold listedBefore rank
  rw [Prod.Lex.toLex_le_toLex]
  split
  next heq => simp [heq]
  next hne =>
    have hkeys : collationKey (sightingOf x).remoteBlockchainId ≠ collationKey (sightingOf y).remoteBlockchainId :=
      fun heq => hne (hcollation _ _ hx hy heq)
    simp [hkeys, le_iff_lt_or_eq]

theorem remotes_eq_sortOn (hcollation : SeparatesIds collationKey) {input : CensusInput}
    (h : RegisteredOnce input.registrations) :
    (buildCandidateCensus collationKey input).remotes = sortOn (rank collationKey) (seenIn input.registrations).rows := by
  have hmap := List.map_insertionSort (fun a b => listedBefore collationKey a b = true)
    (fun a b => rank collationKey a ≤ rank collationKey b) id (seenIn input.registrations).rows ?_
  · rw [List.map_id, List.map_id] at hmap
    exact hmap
  · intro a ha b hb
    obtain ⟨x, hx, rfl⟩ := (mem_seenIn h).1 ha
    obtain ⟨y, hy, rfl⟩ := (mem_seenIn h).1 hb
    exact listedBefore_iff hcollation (h.hex x hx.mem).1 (h.hex y hy.mem).1

/-- The registrations of a scan make one census in whatever order they come. -/
theorem buildCandidateCensus_perm (hcollation : SeparatesIds collationKey) {input : CensusInput}
    (h : RegisteredOnce input.registrations) {registrations : List RemoteRegisteredObservation}
    (hperm : registrations.Perm input.registrations) :
    buildCandidateCensus collationKey { input with registrations } = buildCandidateCensus collationKey input := by
  have hrows : (seenIn registrations).rows.Perm (seenIn input.registrations).rows := by
    refine Keyed.rows_perm fun c => ?_
    rw [mem_seenIn (h.perm hperm), mem_seenIn h]
    exact exists_congr fun x => and_congr_left fun _ => Earliest.perm hperm
  have hsorted : sortOn (rank collationKey) (seenIn registrations).rows =
      sortOn (rank collationKey) (seenIn input.registrations).rows := by
    refine sortOn_eq_of_perm (fun a ha b hb hrank => ?_) hrows
    obtain ⟨x, hx, rfl⟩ := (mem_seenIn (h.perm hperm)).1 ha
    obtain ⟨y, hy, rfl⟩ := (mem_seenIn (h.perm hperm)).1 hb
    have hx := (h.perm hperm).hex x hx.mem
    have hy := (h.perm hperm).hex y hy.mem
    obtain ⟨hid, haddress⟩ := Prod.ext_iff.1 (toLex.injective hrank)
    refine List.inj_on_of_nodup_map (nodup_remotes_seenIn registrations) ha hb (Prod.ext ?_ ?_)
    · exact hcollation _ _ hx.1 hy.1 hid
    · exact hcollation _ _ hx.2 hy.2 haddress
  have hremotes : (buildCandidateCensus collationKey { input with registrations }).remotes =
      (buildCandidateCensus collationKey input).remotes := by
    rw [remotes_eq_sortOn hcollation h, ← hsorted]
    have hother : (buildCandidateCensus collationKey { input with registrations }).remotes =
        sortOn (rank collationKey) (seenIn registrations).rows := remotes_eq_sortOn hcollation (h.perm hperm)
    exact hother
  unfold buildCandidateCensus at hremotes ⊢
  rw [CandidateCensus.mk.injEq]
  exact ⟨rfl, rfl, rfl, rfl, rfl, hremotes, rfl⟩

theorem complete_iff (input : CensusInput) :
    (completenessOf input).1 = .completeFromDeploymentBlock ↔ input.ReachesDeployment := by
  unfold completenessOf startCompleteness CensusInput.ReachesDeployment
  cases input.tokenHomeDeploymentBlock with
  | none => cases input.hadLogGap <;> simp
  | some deployed =>
    cases input.scannedFromBlock with
    | none => cases input.hadLogGap <;> simp
    | some scanned =>
      by_cases hlate : scanned > deployed
      · cases input.hadLogGap <;> simp [hlate]
      · cases input.hadLogGap <;> simp [hlate, not_lt.1 hlate]

theorem census_exact (collationKey : String → κ) {input : CensusInput} (h : RegisteredOnce input.registrations) :
    CensusExact input (buildCandidateCensus collationKey input) := by
  have hperm := remotes_perm collationKey input
  refine ⟨(hperm.map _).nodup_iff.2 (nodup_remotes_seenIn _), fun p => ?_, fun c hc => ?_, complete_iff input⟩
  · rw [(hperm.map _).mem_iff]
    exact mem_remotes_seenIn (fun r hr => h.colon hr) p
  · exact (mem_seenIn h).1 (hperm.mem_iff.1 hc)

end Order

/-! ## The entries of a diff -/

section Entries

variable {κ : Type} [LinearOrder κ] {collationKey : String → κ} {input : CensusInput} {approved : List ApprovedRemote}

theorem mem_remotes {diff : DiscoveryDiff} {kind : DriftKind} {p : Remote} :
    p ∈ diff.remotes kind ↔ ∃ e ∈ diff.drift, e.kind = kind ∧ e.remote = p := by
  unfold DiscoveryDiff.remotes
  simp only [List.mem_map, List.mem_filter, decide_eq_true_eq, and_assoc]

theorem kind_observedDrift {t : Keyed ApprovedRemote.key} {c : CandidateRemote} {e : DriftEntry}
    (he : e ∈ observedDrift t c) : e.remote = c.remote ∧
      (e.kind = .decimalsMismatch ↔ ∃ a, t.lookup c.key = some a ∧ a.expectedDecimals ≠ c.remoteTokenDecimals) := by
  unfold observedDrift at he
  split at he
  next hnone =>
    rw [List.mem_singleton.1 he]
    exact ⟨rfl, by simp [hnone]⟩
  next a hsome =>
    split at he
    next hne =>
      rw [List.mem_singleton.1 he]
      exact ⟨rfl, iff_of_true rfl ⟨a, hsome, hne⟩⟩
    next => cases he

/-- A remote that is observed has at most one entry, its own. -/
theorem remotes_observedDrift (t : Keyed ApprovedRemote.key) (c : CandidateRemote) :
    (observedDrift t c).map DriftEntry.remote =
      if (t.lookup c.key).all fun a => a.expectedDecimals ≠ c.remoteTokenDecimals then [c.remote] else [] := by
  unfold observedDrift
  split
  next hnone =>
    rw [hnone]
    rfl
  next a hsome =>
    rw [hsome, Option.all_some]
    split
    next hne => simp [hne, DriftEntry.remote, CandidateRemote.remote]
    next heq => simp [heq]

theorem remotes_approvedDrift (t : Keyed CandidateRemote.key) (a : ApprovedRemote) :
    (approvedDrift t a).map DriftEntry.remote = if !t.has a.key then [a.remote] else [] := by
  unfold approvedDrift
  cases t.has a.key <;> rfl

/-- The remotes of a diff's entries: those of the census it reports, then those of the baseline that are not observed. -/
theorem remotes_drift (t : Keyed ApprovedRemote.key) (u : Keyed CandidateRemote.key) :
    (t.rows.flatMap (approvedDrift u)).map DriftEntry.remote =
        (t.rows.filter fun a => !u.has a.key).map ApprovedRemote.remote ∧
      (u.rows.flatMap (observedDrift t)).map DriftEntry.remote =
        (u.rows.filter fun c => (t.lookup c.key).all fun a => a.expectedDecimals ≠ c.remoteTokenDecimals).map
          CandidateRemote.remote := by
  constructor
  · have h := map_filter_flatMap (p := fun _ => true) (l := t.rows) fun a _ => by
      rw [List.filter_true]
      exact remotes_approvedDrift u a
    rwa [List.filter_true] at h
  · have h := map_filter_flatMap (p := fun _ => true) (l := u.rows) fun c _ => by
      rw [List.filter_true]
      exact remotes_observedDrift t c
    rwa [List.filter_true] at h

namespace Comparable

variable (h : Comparable input approved)
include h

/-- The diff finds an approved remote under its key exactly when it is in the census. -/
theorem has_observedTable {a : ApprovedRemote} (ha : a ∈ approved) :
    (observedTable collationKey input).has a.key = true ↔
      a.remote ∈ (buildCandidateCensus collationKey input).remotes.map CandidateRemote.remote := by
  rw [Keyed.has_iff, rows_observedTable, List.mem_map]
  refine exists_congr fun c => and_congr_right fun hc => ?_
  obtain ⟨r, hr, rfl⟩ := exists_sighting hc
  exact h.key_eq_iff hr ha

/-- It finds the approval of a remote of the census, where there is one. -/
theorem lookup_approvedTable {c : CandidateRemote} (hc : c ∈ (buildCandidateCensus collationKey input).remotes)
    {a : ApprovedRemote} : (approvedTable approved).lookup c.key = some a ↔ a ∈ approved ∧ a.remote = c.remote := by
  rw [Keyed.lookup_eq_some, h.rows_approvedTable]
  refine and_congr_right fun ha => ?_
  obtain ⟨r, hr, rfl⟩ := exists_sighting hc
  rw [eq_comm, h.key_eq_iff hr ha, eq_comm]
  rfl

theorem once (collationKey : String → κ) (baselineDigest : String) :
    ((diffAgainstBaseline (buildCandidateCensus collationKey input) approved baselineDigest).drift.map
      DriftEntry.remote).Nodup := by
  obtain ⟨happroved, hobserved⟩ := remotes_drift (approvedTable approved) (observedTable collationKey input)
  have honce : ((buildCandidateCensus collationKey input).remotes.map CandidateRemote.remote).Nodup :=
    ((remotes_perm collationKey input).map _).nodup_iff.2 (nodup_remotes_seenIn _)
  rw [drift_eq, List.map_append, happroved, hobserved, rows_observedTable, h.rows_approvedTable]
  refine List.Nodup.append (honce.sublist (List.filter_sublist.map _)) (h.distinct.sublist (List.filter_sublist.map _)) ?_
  intro p hp hq
  obtain ⟨c, hc, rfl⟩ := List.mem_map.1 hp
  obtain ⟨a, ha, hremote⟩ := List.mem_map.1 hq
  obtain ⟨ha, hnot⟩ := List.mem_filter.1 ha
  have hin : (observedTable collationKey input).has a.key = true :=
    (h.has_observedTable ha).2 (hremote ▸ List.mem_map_of_mem (List.mem_of_mem_filter hc))
  rw [hin] at hnot
  cases hnot

theorem mismatched (collationKey : String → κ) (baselineDigest : String) (p : Remote) :
    p ∈ (diffAgainstBaseline (buildCandidateCensus collationKey input) approved baselineDigest).remotes
        .decimalsMismatch ↔
      ∃ c ∈ (buildCandidateCensus collationKey input).remotes, ∃ a ∈ approved,
        c.remote = p ∧ a.remote = p ∧ a.expectedDecimals ≠ c.remoteTokenDecimals := by
  rw [mem_remotes, drift_eq, rows_observedTable]
  constructor
  · rintro ⟨e, he, hkind, rfl⟩
    rcases List.mem_append.1 he with he | he
    · obtain ⟨c, hc, he⟩ := List.mem_flatMap.1 he
      obtain ⟨hremote, hiff⟩ := kind_observedDrift he
      obtain ⟨a, hlookup, hne⟩ := hiff.1 hkind
      obtain ⟨ha, hsame⟩ := (h.lookup_approvedTable hc).1 hlookup
      exact ⟨c, hc, a, ha, hremote.symm, hsame.trans hremote.symm, hne⟩
    · obtain ⟨a, -, he⟩ := List.mem_flatMap.1 he
      unfold approvedDrift at he
      split at he
      · cases he
      · rw [List.mem_singleton.1 he] at hkind
        cases hkind
  · rintro ⟨c, hc, a, ha, rfl, hsame, hne⟩
    have hlookup := (h.lookup_approvedTable hc).2 ⟨ha, hsame⟩
    have hentry : c.remote ∈ (observedDrift (approvedTable approved) c).map DriftEntry.remote := by
      rw [remotes_observedDrift, hlookup]
      simp [hne]
    obtain ⟨e, he, hremote⟩ := List.mem_map.1 hentry
    exact ⟨e, List.mem_append_left _ (List.mem_flatMap.2 ⟨c, hc, he⟩),
      (kind_observedDrift he).2.2 ⟨a, hlookup, hne⟩, hremote⟩

theorem drift_exact (collationKey : String → κ) (baselineDigest : String) :
    DriftExact (buildCandidateCensus collationKey input) approved
      (diffAgainstBaseline (buildCandidateCensus collationKey input) approved baselineDigest) := by
  refine ⟨h.once collationKey baselineDigest, fun p => ?_, fun p => ?_, h.mismatched collationKey baselineDigest, rfl⟩
  · rw [h.candidates, List.mem_map]
    constructor
    · rintro ⟨c, hc, rfl⟩
      obtain ⟨hc, hnot⟩ := List.mem_filter.1 hc
      exact ⟨List.mem_map_of_mem hc, by simpa using hnot⟩
    · rintro ⟨hin, hnot⟩
      obtain ⟨c, hc, rfl⟩ := List.mem_map.1 hin
      exact ⟨c, List.mem_filter.2 ⟨hc, by simpa using hnot⟩, rfl⟩
  · have hin : ∀ q, q ∈ (buildCandidateCensus collationKey input).remotes.map CandidateRemote.remote ↔
        q ∈ input.registrations.map RemoteRegisteredObservation.remote := fun q =>
      (((remotes_perm collationKey input).map _).mem_iff).trans (mem_remotes_seenIn h.seen_colon q)
    rw [h.missing, hin, List.mem_map]
    constructor
    · rintro ⟨a, ha, rfl⟩
      obtain ⟨ha, hnot⟩ := List.mem_filter.1 ha
      exact ⟨List.mem_map_of_mem ha, by simpa using hnot⟩
    · rintro ⟨happroved, hnot⟩
      obtain ⟨a, ha, rfl⟩ := List.mem_map.1 happroved
      exact ⟨a, List.mem_filter.2 ⟨ha, by simpa using hnot⟩, rfl⟩

end Comparable

theorem RegisteredOnce.comparable (h : RegisteredOnce input.registrations) (happroved : ApprovedOnce approved) :
    Comparable input approved where
  distinct := happroved.once
  seen_colon _ hr := h.colon hr
  approved_colon a ha := (notMem_of_isHexId (happroved.hex a ha).1 (by decide) (by decide) (by decide)).2

end Entries

/-- Census and drift are exact: the remotes registered, each as it was first seen and in whatever order the registrations
come, and one entry for each of them the baseline does not agree with. -/
theorem census_and_drift_exact {κ : Type} [LinearOrder κ] (collationKey : String → κ)
    (hcollation : SeparatesIds collationKey) (input : CensusInput) (hseen : RegisteredOnce input.registrations)
    (approved : List ApprovedRemote) (happroved : ApprovedOnce approved) (baselineDigest : String) :
    CensusExact input (buildCandidateCensus collationKey input) ∧
      (∀ registrations : List RemoteRegisteredObservation, registrations.Perm input.registrations →
        buildCandidateCensus collationKey { input with registrations } = buildCandidateCensus collationKey input) ∧
      DriftExact (buildCandidateCensus collationKey input) approved
        (diffAgainstBaseline (buildCandidateCensus collationKey input) approved baselineDigest) :=
  ⟨census_exact collationKey hseen, fun _ hperm => buildCandidateCensus_perm hcollation hseen hperm,
    (hseen.comparable happroved).drift_exact collationKey baselineDigest⟩

def sampleRegistration (remoteBlockchainId : String) (remoteTokenDecimals blockNumber : Int) :
    RemoteRegisteredObservation where
  remoteBlockchainId
  remoteTokenTransferrerAddress := "0x01"
  collateralNeeded := 0
  remoteTokenDecimals
  source := { blockNumber, blockHash := "0x0b", txHash := "0x0c" }

/-- One remote twice, the later registration first and in other letters, and another remote. -/
def twiceRegistered : CensusInput where
  tokenHomeAddress := "0x0a"
  homeBlockchainId := "0x0d"
  tokenHomeDeploymentBlock := some 1
  scannedFromBlock := some 1
  scannedToBlock := 9
  hadLogGap := false
  registrations := [sampleRegistration "0xAB" 6 7, sampleRegistration "0xab" 18 5, sampleRegistration "0xcd" 18 6]

def approvedPair : List ApprovedRemote :=
  [{ remoteBlockchainId := "0xaB", remoteTokenTransferrerAddress := "0x01", expectedDecimals := 6 },
    { remoteBlockchainId := "0xef", remoteTokenTransferrerAddress := "0x01", expectedDecimals := 18 }]

theorem census_and_drift_exact_twice :
    CensusExact twiceRegistered (buildCandidateCensus codeUnits twiceRegistered) ∧
      (∀ registrations : List RemoteRegisteredObservation, registrations.Perm twiceRegistered.registrations →
        buildCandidateCensus codeUnits { twiceRegistered with registrations } =
          buildCandidateCensus codeUnits twiceRegistered) ∧
      DriftExact (buildCandidateCensus codeUnits twiceRegistered) approvedPair
        (diffAgainstBaseline (buildCandidateCensus codeUnits twiceRegistered) approvedPair "sha256:01") :=
  census_and_drift_exact codeUnits (fun _ _ _ _ h => codeUnits_injective h) twiceRegistered
    ⟨by decide +kernel, List.Nodup.of_map Prod.snd (by decide)⟩ approvedPair ⟨by decide +kernel, by decide +kernel⟩
    "sha256:01"

end IcttSentinel.Adapters
