/-
What `classifyObservation` of packages/replay/src/range.ts accepts. It looks for the hash of a log among the hashes of
the blocks and for jumps in the log indices under one key; the number and the chain of a log, its place in the range
and the boundary hashes are taken as they come.
-/
import IcttSentinel.Replay.Digests

namespace IcttSentinel.Replay

open IcttSentinel.Lib IcttSentinel.Storage

/-! ## Runs of log indices -/

/-- Indices without a repetition and without a hole. -/
structure UnbrokenRun (indices : List Int) : Prop where
  nodup : indices.Nodup
  convex : ∀ i ∈ indices, ∀ j ∈ indices, ∀ k, i ≤ k → k ≤ j → k ∈ indices

/-- Sorted indices that never jump are all the integers from the first on. -/
theorem mem_of_not_jumps : ∀ {a : Int} {indices : List Int}, jumps (a :: indices) = false →
    ∀ k, k ∈ a :: indices ↔ a ≤ k ∧ k ≤ a + indices.length
  | a, [], _, k => by simp; omega
  | a, b :: rest, h, k => by
    unfold jumps at h
    rw [Bool.or_eq_false_iff, decide_eq_false_iff_not, not_not] at h
    obtain ⟨rfl, hrest⟩ := h
    rw [List.mem_cons, mem_of_not_jumps hrest k, List.length_cons]
    push_cast
    omega

theorem unbrokenRun_of_not_jumps {indices : List Int} (h : jumps (sortOn id indices) = false) : UnbrokenRun indices where
  nodup := (sortOn_perm id indices).nodup_iff.mp ((pairwise_of_not_jumps h).imp fun hlt => ne_of_lt hlt)
  convex i hi j hj k hik hkj := by
    rw [← mem_sortOn (f := id)] at hi hj ⊢
    cases hsorted : sortOn id indices with
    | nil => simp [hsorted] at hi
    | cons a rest =>
      rw [hsorted] at h hi hj
      rw [mem_of_not_jumps h] at hi hj ⊢
      omega

/-! ## What a strict check would ensure -/

/-- The indices of the logs of one block. -/
def indicesOf (o : RangeObservation) (chainKey blockHash : String) : List Int :=
  (o.logs.filter fun l => l.chainKey = chainKey ∧ l.blockHash = blockHash).map (·.logIndex)

/-- The log is one of a block: of its hash, its chain and its number. -/
def LogFact.Of (l : LogFact) (b : BlockFact) : Prop :=
  b.blockHash = l.blockHash ∧ b.chainKey = l.chainKey ∧ b.blockNumber = l.blockNumber

/-- Every log belongs to a block of the observation and lies in the range, the boundary hashes are those of the boundary
blocks, and the log indices of a block run without repetition or hole. -/
structure Strict (o : RangeObservation) : Prop where
  owned : ∀ l ∈ o.logs, ∃ b ∈ o.blocks, LogFact.Of l b
  inside : ∀ l ∈ o.logs, Within o.range l.blockNumber
  start : ∃ b ∈ o.blocks, b.blockNumber = o.range.fromBlock ∧ b.blockHash = o.startBlockHash
  stop : ∃ b ∈ o.blocks, b.blockNumber = o.range.toBlock ∧ b.blockHash = o.endBlockHash
  runs : ∀ chainKey blockHash, UnbrokenRun (indicesOf o chainKey blockHash)

/-- An observation put together from the blocks of one chain. A block that shares its hash with a log shares its chain
and number and lies in the range, and the boundary hashes are read off the first blocks at the ends of the range. -/
structure Assembled (o : RangeObservation) : Prop where
  cited : ∀ l ∈ o.logs, ∀ b ∈ o.blocks, b.blockHash = l.blockHash →
    b.chainKey = l.chainKey ∧ b.blockNumber = l.blockNumber ∧ Within o.range b.blockNumber
  start : (o.blocks.find? (·.blockNumber = o.range.fromBlock)).map (·.blockHash) = some o.startBlockHash
  stop : (o.blocks.find? (·.blockNumber = o.range.toBlock)).map (·.blockHash) = some o.endBlockHash
  -- a separator in a chain key could merge the log groups of two blocks
  plain : ∀ l ∈ o.logs, '|' ∉ l.chainKey.toList

variable {sha256 : String → String} {o : RangeObservation}

theorem unbrokenRun_nil : UnbrokenRun [] := ⟨List.nodup_nil, by simp⟩

/-- The key the indices of a log are grouped under names its chain and its block. -/
theorem indexKey_inj {l l' : LogFact} (hl : '|' ∉ l.chainKey.toList) (hl' : '|' ∉ l'.chainKey.toList)
    (h : l.chainKey ++ "|" ++ l.blockHash = l'.chainKey ++ "|" ++ l'.blockHash) :
    l.chainKey = l'.chainKey ∧ l.blockHash = l'.blockHash := by
  have hchars := congrArg String.toList h
  simp only [String.toList_append] at hchars
  obtain ⟨hchain, hhash⟩ := append_cons_inj hl hl' (by simpa using hchars)
  exact ⟨String.toList_injective hchain, String.toList_injective hhash⟩

/-- Without a hole, the log indices of every block are an unbroken run. -/
theorem runs_of_not_hole (hhole : findLogIndexHole o.logs = false) (hplain : ∀ l ∈ o.logs, '|' ∉ l.chainKey.toList)
    (chainKey blockHash : String) : UnbrokenRun (indicesOf o chainKey blockHash) := by
  by_cases hlogs : ∃ l ∈ o.logs, l.chainKey = chainKey ∧ l.blockHash = blockHash
  · obtain ⟨l, hl, rfl, rfl⟩ := hlogs
    -- the code groups by the joined key, which determines the block of a plain chain key
    have hgroup : (o.logs.filter fun x => x.chainKey ++ "|" ++ x.blockHash = l.chainKey ++ "|" ++ l.blockHash) =
        o.logs.filter fun x => x.chainKey = l.chainKey ∧ x.blockHash = l.blockHash := by
      refine List.filter_congr fun x hx => ?_
      rw [decide_eq_decide]
      constructor
      · exact indexKey_inj (hplain x hx) (hplain l hl)
      · rintro ⟨hchain, hhash⟩
        rw [hchain, hhash]
    unfold indicesOf
    rw [← hgroup]
    refine unbrokenRun_of_not_jumps ?_
    rw [← Bool.not_eq_true]
    intro hjumps
    rw [← Bool.not_eq_true, findLogIndexHole_iff] at hhole
    exact hhole ⟨l, hl, hjumps⟩
  · have hnone : indicesOf o chainKey blockHash = [] := by
      unfold indicesOf
      rw [List.map_eq_nil_iff, List.filter_eq_nil_iff]
      intro l hl
      rw [decide_eq_true_eq]
      exact fun hblock => hlogs ⟨l, hl, hblock⟩
    rw [hnone]
    exact unbrokenRun_nil

/-- The boundary hash is that of a block at the boundary. -/
theorem exists_of_boundary {blocks : List BlockFact} {height : Int} {hash : String}
    (h : (blocks.find? (·.blockNumber = height)).map (·.blockHash) = some hash) :
    ∃ b ∈ blocks, b.blockNumber = height ∧ b.blockHash = hash := by
  obtain ⟨b, hfind, hhash⟩ := Option.map_eq_some_iff.1 h
  exact ⟨b, List.mem_of_find?_eq_some hfind, by simpa using List.find?_some hfind, hhash⟩

/-- An accepted observation that is put together from the blocks of one chain is strict. -/
theorem classifyObservation_strict_of_assembled {r : RangeResult} (h : classifyObservation sha256 o = .ok r)
    (hassembled : Assembled o) : Strict o := by
  -- the check looks for a block with the hash of each log, and nothing else of the block
  obtain ⟨-, -, hcited⟩ := classifyObservation_ok h
  have howned : ∀ l ∈ o.logs, ∃ b ∈ o.blocks, LogFact.Of l b ∧ Within o.range l.blockNumber := by
    intro l hl
    obtain ⟨b, hb, hhash⟩ := hcited l hl
    obtain ⟨hchain, hnumber, hwithin⟩ := hassembled.cited l hl b hb hhash
    exact ⟨b, hb, ⟨hhash, hchain, hnumber⟩, hnumber ▸ hwithin⟩
  refine ⟨fun l hl => ?_, fun l hl => ?_, exists_of_boundary hassembled.start, exists_of_boundary hassembled.stop,
    runs_of_not_hole (classifyObservation_noHole h) hassembled.plain⟩
  · obtain ⟨b, hb, hof, -⟩ := howned l hl
    exact ⟨b, hb, hof⟩
  · obtain ⟨-, -, -, hwithin⟩ := howned l hl
    exact hwithin

/-- The block at height 7 without a log and the one behind it with two, which are listed from the last. -/
def assembledReported : RangeObservation where
  providerGroup := "alpha"
  range := { fromBlock := 7, toBlock := 8 }
  startBlockHash := sampleReportHash
  endBlockHash := sampleOtherHash
  logCount := 2
  logs := [{ forkLog sampleOtherHash with blockNumber := 8, logIndex := 1 }, { forkLog sampleOtherHash with blockNumber := 8 }]
  blocks := [forkBlock sampleReportHash, { forkBlock sampleOtherHash with blockNumber := 8 }]
  complete := true
  viaArchive := false

theorem classifyObservation_strict_of_assembled_sample : Strict assembledReported := by
  have hapart : sampleReportHash ≠ sampleOtherHash := by decide +kernel
  have hcited : (assembledReported.logs.any fun l =>
      !(assembledReported.blocks.map (·.blockHash)).contains l.blockHash) = false := by
    decide +kernel
  have hhole : findLogIndexHole assembledReported.logs = false := by decide +kernel
  -- whatever the hash is, as it is only taken of what is accepted
  have haccepted : ∀ sha256, classifyObservation sha256 assembledReported = .ok (resultOf sha256 assembledReported) := by
    intro sha256
    unfold classifyObservation
    rw [hcited, hhole]
    rfl
  refine classifyObservation_strict_of_assembled (haccepted id)
    ⟨fun l hl b hb hhash => ?_, by decide +kernel, by decide +kernel, by decide +kernel⟩
  rcases List.mem_pair.1 hl with rfl | rfl <;> rcases List.mem_pair.1 hb with rfl | rfl
  · exact absurd hhash hapart
  · exact ⟨rfl, rfl, by decide⟩
  · exact absurd hhash hapart
  · exact ⟨rfl, rfl, by decide⟩

/-- Two blocks and a log that names the number of the first and the hash of the second. -/
def crossedReported : RangeObservation where
  providerGroup := "alpha"
  range := { fromBlock := 7, toBlock := 8 }
  startBlockHash := sampleReportHash
  endBlockHash := sampleOtherHash
  logCount := 1
  logs := [forkLog sampleOtherHash]
  blocks := [forkBlock sampleReportHash, { forkBlock sampleOtherHash with blockNumber := 8 }]
  complete := true
  viaArchive := false

/-- The texts of that report, with their SHA-256. -/
def crossedDigests : List (String × String) :=
  [(logText crossedReported.logs, "5b20fe3a2d0b3224d989d740093cd2f7f4ccda5beb1fe18d810584476452c315"),
    (blockText crossedReported.blocks, "658812bafbfb7c15d8b5d943601ea9fee2ade3eeec6e1b1379242f74ea08b86b"),
    ("|".intercalate ["7", "8", sampleReportHash, sampleOtherHash, "1",
        "5b20fe3a2d0b3224d989d740093cd2f7f4ccda5beb1fe18d810584476452c315",
        "658812bafbfb7c15d8b5d943601ea9fee2ade3eeec6e1b1379242f74ea08b86b"],
      "4fc5c81e9b66e64b916402489f415f8cd918d93d90488cea12b455be7e086afc")]

/-- SHA-256 on these texts. -/
def crossedSha256 (text : String) : String := ((crossedDigests.find? fun d => d.1 = text).map (·.2)).getD ""

/-- The log that belongs to no block of the observation is accepted. -/
theorem classifyObservation_crossed :
    classifyObservation crossedSha256 crossedReported = .ok (resultOf crossedSha256 crossedReported) ∧
      ¬ Strict crossedReported := by
  refine ⟨by decide +kernel, fun h => ?_⟩
  obtain ⟨b, hb, hhash, -, hnumber⟩ := h.owned (forkLog sampleOtherHash) List.mem_cons_self
  simp only [crossedReported, List.mem_cons, List.not_mem_nil, or_false] at hb
  rcases hb with rfl | rfl
  · exact absurd hhash (by decide +kernel)
  · exact absurd hnumber (by decide)

end IcttSentinel.Replay
