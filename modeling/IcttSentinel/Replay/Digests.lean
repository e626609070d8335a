/-
How canonical the digest of a range is, packages/replay/src/range.ts and ledger.ts of storage-postgres. Logs are
sorted by block number, transaction index and log index, and blocks by number and hash, before they are hashed: facts
that these keys do not separate are hashed in the order they were reported in.
-/
import IcttSentinel.Replay.Witnesses

namespace IcttSentinel.Replay

open IcttSentinel.Lib IcttSentinel.Storage

/-- The elements of a list under one key, in the order they came in. -/
def listedAt {α β : Type} [LinearOrder β] (key : α → β) (k : β) (l : List α) : List α := l.filter fun a => key a = k

/-- Two observations say the same in every digested field, in any order of their logs and blocks. -/
structure SameFacts (o o' : RangeObservation) : Prop where
  range : o.range = o'.range
  startBlockHash : o.startBlockHash = o'.startBlockHash
  endBlockHash : o.endBlockHash = o'.endBlockHash
  logs : (o.logs.map LogFact.untimed).Perm (o'.logs.map LogFact.untimed)
  blocks : (o.blocks.map digestedOf).Perm (o'.blocks.map digestedOf)

/-- The logs of one block number, transaction index and log index come in the same order in both, and so do the
blocks of one number and hash. -/
structure SameTies (o o' : RangeObservation) : Prop where
  logs : ∀ k, (listedAt LogFact.position k o.logs).map LogFact.untimed =
    (listedAt LogFact.position k o'.logs).map LogFact.untimed
  blocks : ∀ k, (listedAt blockOrder k o.blocks).map digestedOf = (listedAt blockOrder k o'.blocks).map digestedOf

variable {sha256 : String → String} {o o' : RangeObservation}

theorem position_of_untimed (l l' : LogFact) (h : l.untimed = l'.untimed) : l.position = l'.position := by
  have hposition := congrArg LogFact.position h
  exact hposition

theorem line_of_untimed (l l' : LogFact) (h : l.untimed = l'.untimed) : l.line = l'.line := by
  have hline := congrArg LogFact.line h
  exact hline

theorem blockOrder_of_digested (b b' : BlockFact) (h : digestedOf b = digestedOf b') : blockOrder b = blockOrder b' := by
  simp only [digestedOf, Prod.mk.injEq] at h
  unfold blockOrder
  rw [h.2.1, h.2.2.1]

theorem blockLine_of_digested (b b' : BlockFact) (h : digestedOf b = digestedOf b') : blockLine b = blockLine b' := by
  simp only [digestedOf, Prod.mk.injEq] at h
  unfold blockLine
  rw [h.1, h.2.1, h.2.2.1, h.2.2.2]

theorem SameTies.sorted (h : SameTies o o') :
    (sortOn LogFact.position o.logs).map LogFact.untimed = (sortOn LogFact.position o'.logs).map LogFact.untimed ∧
      (sortOn blockOrder o.blocks).map digestedOf = (sortOn blockOrder o'.blocks).map digestedOf :=
  ⟨(map_sortOn_eq_iff position_of_untimed).mpr h.logs, (map_sortOn_eq_iff blockOrder_of_digested).mpr h.blocks⟩

theorem SameTies.texts (h : SameTies o o') :
    logText o.logs = logText o'.logs ∧ blockText o.blocks = blockText o'.blocks := by
  obtain ⟨hlogs, hblocks⟩ := h.sorted
  constructor
  · have hlines := map_of_lines (fun l _ l' _ hsame => line_of_untimed l l' hsame) hlogs
    exact congrArg String.join hlines
  · have hlines := map_of_lines (fun b _ b' _ hsame => blockLine_of_digested b b' hsame) hblocks
    exact congrArg String.join hlines

/-- The digests of two observations are equal exactly when these agree on the range and its boundaries and list the
same facts key by key. -/
theorem rangeDigest_eq_iff (hapart : DigestsApart sha256 [o, o']) (hplain : o.PlainTexts) (hplain' : o'.PlainTexts)
    (hcount : (o.logs.length : Int) = o.logCount) (hcount' : (o'.logs.length : Int) = o'.logCount) :
    rangeDigest sha256 o = rangeDigest sha256 o' ↔
      (o.range = o'.range ∧ o.startBlockHash = o'.startBlockHash ∧ o.endBlockHash = o'.endBlockHash) ∧
        SameTies o o' := by
  constructor
  · intro h
    obtain ⟨hrange, hstart, hend, -, hlogs, hblocks⟩ :=
      texts_of_digest hapart List.mem_cons_self (List.mem_cons_of_mem _ List.mem_cons_self) hplain hplain' h
    refine ⟨⟨hrange, hstart, hend⟩, ?_, ?_⟩
    · exact (map_sortOn_eq_iff position_of_untimed).mp (sorted_of_logText hplain hplain' hlogs)
    · exact (map_sortOn_eq_iff blockOrder_of_digested).mp (sorted_of_blockText hplain hplain' hblocks)
  · rintro ⟨⟨hrange, hstart, hend⟩, hties⟩
    obtain ⟨hlogs, hblocks⟩ := hties.texts
    have hlength : o.logCount = o'.logCount := by
      have := (perm_of_sorted hties.sorted.1).length_eq
      rw [List.length_map, List.length_map] at this
      rw [← hcount, ← hcount', this]
    rw [rangeDigest_eq, rangeDigest_eq]
    unfold observationText
    rw [hrange, hstart, hend, hlength, hlogs, hblocks]

theorem classifyObservation_count {r : RangeResult} (h : classifyObservation sha256 o = .ok r) :
    (o.logs.length : Int) = o.logCount := by
  unfold classifyObservation at h
  split at h
  · cases h
  · rename_i hcount
    exact not_not.mp hcount

/-- For two accepted observations, equal digests mean the same facts exactly when observations of the same facts list
those that the sort does not separate in the same order. -/
theorem rangeDigest_canonical (hapart : DigestsApart sha256 [o, o']) (hplain : o.PlainTexts) (hplain' : o'.PlainTexts)
    {r r' : RangeResult} (hok : classifyObservation sha256 o = .ok r) (hok' : classifyObservation sha256 o' = .ok r') :
    (rangeDigest sha256 o = rangeDigest sha256 o' ↔ SameFacts o o') ↔ (SameFacts o o' → SameTies o o') := by
  rw [rangeDigest_eq_iff hapart hplain hplain' (classifyObservation_count hok) (classifyObservation_count hok')]
  constructor
  · intro h hsame
    exact (h.mpr hsame).2
  · intro h
    constructor
    · rintro ⟨⟨hrange, hstart, hend⟩, hties⟩
      obtain ⟨hlogs, hblocks⟩ := hties.sorted
      exact ⟨hrange, hstart, hend, perm_of_sorted hlogs, perm_of_sorted hblocks⟩
    · intro hsame
      exact ⟨⟨hsame.range, hsame.startBlockHash, hsame.endBlockHash⟩, h hsame⟩

/-! ## Two heights, listed in two orders -/

def sampleOtherHash : String := "0x7c7c7c7c7c7c7c7c7c7c7c7c7c7c7c7c7c7c7c7c7c7c7c7c7c7c7c7c7c7c7c7c"

/-- The first log of the block of a hash, at height 7. -/
def forkLog (blockHash : String) : LogFact where
  chainKey := "sample/home"
  blockHash
  txHash := "0x2b2b2b2b2b2b2b2b2b2b2b2b2b2b2b2b2b2b2b2b2b2b2b2b2b2b2b2b2b2b2b2b"
  logIndex := 0
  blockNumber := 7
  txIndex := 0
  address := "0x3c3c3c3c3c3c3c3c3c3c3c3c3c3c3c3c3c3c3c3c"
  topics := []
  data := "0x"
  observedAt := 1

def forkBlock (blockHash : String) : BlockFact where
  chainKey := "sample/home"
  blockHash
  blockNumber := 7
  parentHash := sampleParent
  blockTimestamp := 1700000000
  observedClass := .accepted
  observedAt := 1

/-- A report of two heights, each with the block of a hash and its first log, in some order. -/
def pairReported (group : String) (heights : List (String × Int)) : RangeObservation where
  providerGroup := group
  range := { fromBlock := 7, toBlock := 8 }
  startBlockHash := sampleReportHash
  endBlockHash := sampleOtherHash
  logCount := 2
  logs := heights.map fun height => { forkLog height.1 with blockNumber := height.2 }
  blocks := heights.map fun height => { forkBlock height.1 with blockNumber := height.2 }
  complete := true
  viaArchive := false

def ascendingReported : RangeObservation := pairReported "alpha" [(sampleReportHash, 7), (sampleOtherHash, 8)]

def descendingReported : RangeObservation := pairReported "beta" [(sampleOtherHash, 8), (sampleReportHash, 7)]

/-- The texts of the report, with their SHA-256. -/
def pairDigests : List (String × String) :=
  [(logText ascendingReported.logs, "8977d822b3f9094ffa7fd12e9d341b88f16c4f13342c8efdd00c3caf68315af4"),
    (blockText ascendingReported.blocks, "658812bafbfb7c15d8b5d943601ea9fee2ade3eeec6e1b1379242f74ea08b86b"),
    ("|".intercalate ["7", "8", sampleReportHash, sampleOtherHash, "2",
        "8977d822b3f9094ffa7fd12e9d341b88f16c4f13342c8efdd00c3caf68315af4",
        "658812bafbfb7c15d8b5d943601ea9fee2ade3eeec6e1b1379242f74ea08b86b"],
      "5dd3f6d0029dbdc9a02a6a16fb68c75d676cb1ccd2da9bbebd17d94feb3ff400")]

/-- SHA-256 on these texts. -/
def pairSha256 (text : String) : String := ((pairDigests.find? fun d => d.1 = text).map (·.2)).getD ""

theorem pairDigests_table : (pairDigests.map (·.1)).Nodup ∧ ∀ d ∈ pairDigests, d.2.toList.all isLowerHex = true := by
  refine ⟨by decide +kernel, ?_⟩
  simp only [pairDigests, List.forall_mem_cons, List.not_mem_nil, false_implies, implies_true, and_true]
  refine ⟨?_, ?_, ?_⟩
  all_goals
    rw [String.toList_ofList]
    decide +kernel

theorem pairSha256_eq (d : String × String) (hd : d ∈ pairDigests) : pairSha256 d.1 = d.2 := by
  rw [pairSha256, find?_of_nodup pairDigests_table.1 hd]
  rfl

theorem listedAt_swap {α β : Type} [LinearOrder β] {key : α → β} {a b : α} (h : key a ≠ key b) (k : β) :
    listedAt key k [a, b] = listedAt key k [b, a] := by
  unfold listedAt
  by_cases ha : key a = k
  · have hb : key b ≠ k := fun hb => h (ha.trans hb.symm)
    simp [ha, hb]
  · simp [List.filter_cons, ha]

/-- No two of the facts are at one height, so they are listed alike height by height. -/
theorem pairReported_sameTies : SameTies ascendingReported descendingReported := by
  constructor
  · intro k
    exact congrArg (List.map LogFact.untimed) (listedAt_swap (by decide) k)
  · intro k
    exact congrArg (List.map digestedOf) (listedAt_swap (by decide +kernel) k)

theorem pairReported_inTable : ∀ t ∈ digestedTexts pairSha256 [ascendingReported], ∃ d ∈ pairDigests, d.1 = t := by
  have hlog : (logText ascendingReported.logs, _) ∈ pairDigests := List.mem_cons_self
  have hblock : (blockText ascendingReported.blocks, _) ∈ pairDigests := List.mem_cons_of_mem _ List.mem_cons_self
  have htext : (observationText pairSha256 ascendingReported,
      "5dd3f6d0029dbdc9a02a6a16fb68c75d676cb1ccd2da9bbebd17d94feb3ff400") ∈ pairDigests := by
    unfold observationText
    rw [pairSha256_eq _ hlog, pairSha256_eq _ hblock]
    exact List.mem_cons_of_mem _ (List.mem_cons_of_mem _ List.mem_cons_self)
  intro t ht
  obtain ⟨x, hx, ht⟩ := List.mem_flatMap.1 ht
  obtain rfl := List.mem_singleton.1 hx
  simp only [List.mem_cons, List.not_mem_nil, or_false] at ht
  rcases ht with rfl | rfl | rfl
  · exact ⟨_, hlog, rfl⟩
  · exact ⟨_, hblock, rfl⟩
  · exact ⟨_, htext, rfl⟩

/-- The other order has the same texts. -/
theorem pairReported_digested :
    digestedTexts pairSha256 [descendingReported] = digestedTexts pairSha256 [ascendingReported] := by
  obtain ⟨hlogs, hblocks⟩ := pairReported_sameTies.texts
  simp only [digestedTexts, List.flatMap_cons, List.flatMap_nil, observationText, hlogs, hblocks]
  rfl

theorem pairReported_plain {group : String} {heights : List (String × Int)}
    (h : heights.map (·.1) ⊆ [sampleReportHash, sampleOtherHash]) : (pairReported group heights).PlainTexts := by
  obtain ⟨hfirst, htx, haddress, hchain⟩ := plain_samples
  have hother : Plain sampleOtherHash := by
    rw [Plain, sampleOtherHash, String.toList_ofList]
    decide +kernel
  have hhash : ∀ height ∈ heights, Plain height.1 := by
    intro height hheight
    rcases List.mem_pair.1 (h (List.mem_map_of_mem hheight)) with hsame | hsame
    · exact hsame ▸ hfirst
    · exact hsame ▸ hother
  have hdata : Plain "0x" := by decide +kernel
  refine ⟨⟨hfirst, hother⟩, fun b hb => ?_, fun l hl => ?_, fun l hl topic htopic => ?_⟩
  · obtain ⟨height, hheight, rfl⟩ := List.mem_map.1 hb
    exact ⟨hchain, hhash height hheight⟩
  · obtain ⟨height, hheight, rfl⟩ := List.mem_map.1 hl
    exact ⟨hchain, hhash height hheight, htx, haddress, hdata⟩
  · obtain ⟨height, -, rfl⟩ := List.mem_map.1 hl
    exact absurd htopic List.not_mem_nil

/-- Two groups that list two blocks and their logs in opposite orders have one digest. -/
theorem rangeDigest_canonical_sample :
    rangeDigest pairSha256 ascendingReported = rangeDigest pairSha256 descendingReported := by
  have hapart : DigestsApart pairSha256 [ascendingReported, descendingReported] := by
    refine digestsApart_of_table pairSha256_eq pairDigests_table.2 (by decide +kernel) ?_
    have hboth : digestedTexts pairSha256 [ascendingReported, descendingReported] =
        digestedTexts pairSha256 [ascendingReported] ++ digestedTexts pairSha256 [descendingReported] := by
      simp [digestedTexts]
    rw [hboth, pairReported_digested, List.forall_mem_append]
    exact ⟨pairReported_inTable, pairReported_inTable⟩
  have hclassified : ∀ o ∈ [ascendingReported, descendingReported],
      classifyObservation pairSha256 o = .ok (resultOf pairSha256 o) := by
    rw [List.forall_mem_cons, List.forall_mem_singleton]
    exact ⟨by decide +kernel, by decide +kernel⟩
  have hsame : SameFacts ascendingReported descendingReported :=
    ⟨rfl, rfl, rfl, .swap _ _ _, .swap _ _ _⟩
  have hiff := rangeDigest_canonical hapart (pairReported_plain (by simp)) (pairReported_plain (by simp))
    (hclassified _ List.mem_cons_self) (hclassified _ (List.mem_cons_of_mem _ List.mem_cons_self))
  exact (hiff.2 fun _ => pairReported_sameTies).2 hsame

/-! ## Two blocks at one height -/

/-- A report of the height by two blocks, with the first log of each in some order. -/
def forkReported (hashes : List String) : RangeObservation where
  providerGroup := "alpha"
  range := { fromBlock := 7, toBlock := 7 }
  startBlockHash := sampleReportHash
  endBlockHash := sampleReportHash
  logCount := 2
  logs := hashes.map forkLog
  blocks := [sampleReportHash, sampleOtherHash].map forkBlock
  complete := true
  viaArchive := false

/-- The texts of the two orders, with their SHA-256. -/
def forkDigests : List (String × String) :=
  [(logText [forkLog sampleReportHash, forkLog sampleOtherHash],
      "307e89f5a47f299a425d73a0106fa5be584985a8de23fa53c420763b3a68442c"),
    (logText [forkLog sampleOtherHash, forkLog sampleReportHash],
      "21feeba228a6b8ca5f75a21154ac6bedf25636abb9bd12cdd954dce594f6af1e"),
    (blockText [forkBlock sampleReportHash, forkBlock sampleOtherHash],
      "89c3a1a2239e2531a0c67b7fdb0c7e26fd6986f62ad14b59a2c65214ce6d680e"),
    ("|".intercalate ["7", "7", sampleReportHash, sampleReportHash, "2",
        "307e89f5a47f299a425d73a0106fa5be584985a8de23fa53c420763b3a68442c",
        "89c3a1a2239e2531a0c67b7fdb0c7e26fd6986f62ad14b59a2c65214ce6d680e"],
      "ef3f9b0f06aaac15f97e478fe47712bf74ad93ee24d32629d7746939fb67e054"),
    ("|".intercalate ["7", "7", sampleReportHash, sampleReportHash, "2",
        "21feeba228a6b8ca5f75a21154ac6bedf25636abb9bd12cdd954dce594f6af1e",
        "89c3a1a2239e2531a0c67b7fdb0c7e26fd6986f62ad14b59a2c65214ce6d680e"],
      "947b84dee5214a9d40174c213d67f090e57021803d6054392d15ec7dfe88dbfc")]

/-- SHA-256 on the texts of the two orders. -/
def forkSha256 (text : String) : String := ((forkDigests.find? fun d => d.1 = text).map (·.2)).getD ""

/-- The texts of the two orders are distinct, as are the hashes of the two blocks, and the digests hexadecimal. -/
theorem forkDigests_table : (forkDigests.map (·.1)).Nodup ∧ sampleReportHash ≠ sampleOtherHash ∧
    ∀ d ∈ forkDigests, d.2.toList.all isLowerHex = true := by
  refine ⟨by decide +kernel, by decide +kernel, ?_⟩
  simp only [forkDigests, List.forall_mem_cons, List.not_mem_nil, false_implies, implies_true, and_true]
  refine ⟨?_, ?_, ?_, ?_, ?_⟩
  all_goals
    rw [String.toList_ofList]
    decide +kernel

theorem forkSha256_eq (d : String × String) (hd : d ∈ forkDigests) : forkSha256 d.1 = d.2 := by
  rw [forkSha256, find?_of_nodup forkDigests_table.1 hd]
  rfl

theorem sampleReportHash_ne : sampleReportHash ≠ sampleOtherHash := forkDigests_table.2.1

theorem forkDigests_hex : ∀ d ∈ forkDigests, d.2.toList.all isLowerHex = true := forkDigests_table.2.2

theorem forkReported_plain {hashes : List String} (h : hashes ⊆ [sampleReportHash, sampleOtherHash]) :
    (forkReported hashes).PlainTexts := by
  obtain ⟨hfirst, htx, haddress, hchain⟩ := plain_samples
  have hother : Plain sampleOtherHash := by
    rw [Plain, sampleOtherHash, String.toList_ofList]
    decide +kernel
  have hhash : ∀ hash ∈ [sampleReportHash, sampleOtherHash], Plain hash := by
    rw [List.forall_mem_cons, List.forall_mem_singleton]
    exact ⟨hfirst, hother⟩
  have hdata : Plain "0x" := by decide +kernel
  refine ⟨⟨hfirst, hfirst⟩, fun b hb => ?_, fun l hl => ?_, fun l hl topic htopic => ?_⟩
  · obtain ⟨hash, hmem, rfl⟩ := List.mem_map.1 hb
    exact ⟨hchain, hhash hash hmem⟩
  · obtain ⟨hash, hmem, rfl⟩ := List.mem_map.1 hl
    exact ⟨hchain, hhash hash (h hmem), htx, haddress, hdata⟩
  · obtain ⟨hash, hmem, rfl⟩ := List.mem_map.1 hl
    exact absurd htopic List.not_mem_nil

theorem forkReported_classified {a b : String} (ha : a ∈ [sampleReportHash, sampleOtherHash])
    (hb : b ∈ [sampleReportHash, sampleOtherHash]) (hab : a ≠ b) :
    classifyObservation forkSha256 (forkReported [a, b]) = .ok (resultOf forkSha256 (forkReported [a, b])) := by
  have hcited : ((forkReported [a, b]).logs.any fun l =>
      !((forkReported [a, b]).blocks.map (·.blockHash)).contains l.blockHash) = false := by
    have hmem : ∀ x ∈ [sampleReportHash, sampleOtherHash],
        x ∈ (forkReported [a, b]).blocks.map (·.blockHash) := fun x hx => hx
    rw [List.any_eq_false]
    intro l hl
    obtain ⟨x, hx, rfl⟩ := List.mem_map.1 hl
    have hx : x ∈ [sampleReportHash, sampleOtherHash] := by
      rcases List.mem_pair.1 hx with rfl | rfl
      · exact ha
      · exact hb
    have hcontains : ((forkReported [a, b]).blocks.map (·.blockHash)).contains (forkLog x).blockHash = true :=
      List.contains_iff_mem.2 (hmem x hx)
    rw [hcontains]
    exact Bool.false_ne_true
  have hhole : findLogIndexHole (forkReported [a, b]).logs = false := by
    rw [Bool.eq_false_iff, ne_eq, findLogIndexHole_iff]
    rintro ⟨l, hl, hjumps⟩
    rcases List.mem_pair.1 hl with rfl | rfl
    · simp [forkReported, forkLog, hab.symm, jumps, sortOn] at hjumps
    · simp [forkReported, forkLog, hab, jumps, sortOn] at hjumps
  unfold classifyObservation
  rw [hhole, hcited]
  rfl

/-- The logs of two blocks at one height, reported in two orders: the observations are accepted and say the same, and
their digests differ. -/
theorem rangeDigest_order_matters :
    let o := forkReported [sampleReportHash, sampleOtherHash]
    let o' := forkReported [sampleOtherHash, sampleReportHash]
    DigestsApart forkSha256 [o, o'] ∧ o.PlainTexts ∧ o'.PlainTexts ∧
      classifyObservation forkSha256 o = .ok (resultOf forkSha256 o) ∧
      classifyObservation forkSha256 o' = .ok (resultOf forkSha256 o') ∧ SameFacts o o' ∧
      rangeDigest forkSha256 o ≠ rangeDigest forkSha256 o' := by
  intro o o'
  have hlog : (logText o.logs, _) ∈ forkDigests := List.mem_cons_self
  have hlog' : (logText o'.logs, _) ∈ forkDigests := List.mem_cons_of_mem _ List.mem_cons_self
  have hblock : (blockText o.blocks, _) ∈ forkDigests :=
    List.mem_cons_of_mem _ (List.mem_cons_of_mem _ List.mem_cons_self)
  have htext : (observationText forkSha256 o, "ef3f9b0f06aaac15f97e478fe47712bf74ad93ee24d32629d7746939fb67e054") ∈
      forkDigests := by
    unfold observationText
    rw [forkSha256_eq _ hlog, forkSha256_eq _ hblock]
    exact List.mem_cons_of_mem _ (List.mem_cons_of_mem _ (List.mem_cons_of_mem _ List.mem_cons_self))
  have htext' : (observationText forkSha256 o', "947b84dee5214a9d40174c213d67f090e57021803d6054392d15ec7dfe88dbfc") ∈
      forkDigests := by
    unfold observationText
    rw [forkSha256_eq _ hlog', forkSha256_eq (blockText o'.blocks, _) hblock]
    exact List.mem_cons_of_mem _ (List.mem_cons_of_mem _ (List.mem_cons_of_mem _ (List.mem_cons_of_mem _
      List.mem_cons_self)))
  have htexts : ∀ t ∈ digestedTexts forkSha256 [o, o'], ∃ d ∈ forkDigests, d.1 = t := by
    intro t ht
    obtain ⟨x, hx, ht⟩ := List.mem_flatMap.1 ht
    simp only [List.mem_cons, List.not_mem_nil, or_false] at hx ht
    rcases hx with rfl | rfl
    · rcases ht with rfl | rfl | rfl
      · exact ⟨_, hlog, rfl⟩
      · exact ⟨_, hblock, rfl⟩
      · exact ⟨_, htext, rfl⟩
    · rcases ht with rfl | rfl | rfl
      · exact ⟨_, hlog', rfl⟩
      · exact ⟨_, hblock, rfl⟩
      · exact ⟨_, htext', rfl⟩
  refine ⟨digestsApart_of_table forkSha256_eq forkDigests_hex (by decide +kernel) htexts, forkReported_plain (by simp),
    forkReported_plain (by simp), forkReported_classified (by simp) (by simp) sampleReportHash_ne,
    forkReported_classified (by simp) (by simp) sampleReportHash_ne.symm, ?_, ?_⟩
  · exact ⟨rfl, rfl, rfl, by decide +kernel, by decide +kernel⟩
  · rw [rangeDigest_eq, rangeDigest_eq, forkSha256_eq _ htext, forkSha256_eq _ htext']
    decide +kernel

end IcttSentinel.Replay
