/-
What one provider group reports about one range, packages/replay/src/range.ts: the digest that
makes two reports comparable, the checks a report must pass before it is compared, and the heights a
set of ranges leaves uncovered.
-/
import IcttSentinel.Lib.Grouping
import IcttSentinel.Replay.Plan
import IcttSentinel.Storage.ReplayStore

namespace IcttSentinel.Replay

open IcttSentinel.Lib IcttSentinel.Storage

structure RangeObservation where
  providerGroup : String
  range : BlockRange
  startBlockHash : String
  endBlockHash : String
  logCount : Int
  logs : List LogFact
  blocks : List BlockFact
  complete : Bool
  viaArchive : Bool
  deriving DecidableEq, Repr

/-- The comparable summary, with the facts it stands for. -/
structure RangeResult where
  providerGroup : String
  range : BlockRange
  startBlockHash : String
  endBlockHash : String
  logCount : Int
  digest : String
  viaArchive : Bool
  blocks : List BlockFact
  logs : List LogFact
  deriving DecidableEq, Repr

inductive RangeOutcome where
  | ok (result : RangeResult)
  | failed (reason : ReplayReason) (providerGroup : String)
  deriving DecidableEq, Repr

/-! ## Digests -/

section Digest

variable (sha256 : String → String)

def blockLine (b : BlockFact) : String :=
  b.chainKey ++ "|" ++ toString b.blockNumber ++ "|" ++ b.blockHash ++ "|" ++ b.observedClass.text ++ "\n"

def canonicalBlockDigest (blocks : List BlockFact) : String :=
  let ordered := sortOn (fun b : BlockFact => toLex (b.blockNumber, codeUnits b.blockHash)) blocks
  sha256 (String.join (ordered.map blockLine))

def rangeDigest (o : RangeObservation) : String :=
  sha256 ("|".intercalate
    [toString o.range.fromBlock, toString o.range.toBlock, o.startBlockHash, o.endBlockHash, toString o.logCount,
      canonicalLogDigest sha256 o.logs, canonicalBlockDigest sha256 o.blocks])

/-! ## Classification -/

/-- Sorted indices of one block that are not each the successor of the one before. -/
def jumps : List Int → Bool
  | previous :: current :: rest => decide (current ≠ previous + 1) || jumps (current :: rest)
  | _ => false

def findLogIndexHole (logs : List LogFact) : Bool :=
  (groupBy (fun l : LogFact => l.chainKey ++ "|" ++ l.blockHash) logs).rows.any fun (_, group) =>
    jumps (sortOn id (group.map (·.logIndex)))

/-- The summary a classified observation turns into. -/
def resultOf (o : RangeObservation) : RangeResult where
  providerGroup := o.providerGroup
  range := o.range
  startBlockHash := o.startBlockHash
  endBlockHash := o.endBlockHash
  logCount := o.logCount
  digest := rangeDigest sha256 o
  viaArchive := o.viaArchive
  blocks := o.blocks
  logs := o.logs

def classifyObservation (o : RangeObservation) : RangeOutcome :=
  if (o.logs.length : Int) ≠ o.logCount then .failed .silentTruncation o.providerGroup
  else if o.blocks.any fun b => decide (b.observedClass ≠ .accepted) then
    .failed .noncanonicalBlockRejected o.providerGroup
  else if o.logs.any fun l => !(o.blocks.map (·.blockHash)).contains l.blockHash then
    .failed .missingBlock o.providerGroup
  else if !o.complete then
    .failed (if o.logs.length = 0 then .emptyResponseAmbiguity else .silentTruncation) o.providerGroup
  else if findLogIndexHole o.logs then .failed .missingLog o.providerGroup
  else .ok (resultOf sha256 o)

variable {sha256}

/-- A classified observation is its own summary, and each of its logs has its block among its blocks. -/
theorem classifyObservation_ok {o : RangeObservation} {r : RangeResult}
    (h : classifyObservation sha256 o = .ok r) :
    r = resultOf sha256 o ∧ (∀ b ∈ o.blocks, b.observedClass = .accepted) ∧
      ∀ l ∈ o.logs, ∃ b ∈ o.blocks, b.blockHash = l.blockHash := by
  unfold classifyObservation at h
  split at h
  · cases h
  · split at h
    · cases h
    · rename_i hclass
      split at h
      · cases h
      · rename_i hblock
        split at h
        · cases h
        · split at h
          · cases h
          · cases h
            refine ⟨rfl, fun b hb => ?_, fun l hl => ?_⟩
            · by_contra hne
              exact hclass (List.any_eq_true.2 ⟨b, hb, by simpa using hne⟩)
            · by_contra hne
              refine hblock (List.any_eq_true.2 ⟨l, hl, ?_⟩)
              simpa [List.contains_iff_mem] using hne

/-- A hole is a block of some log whose sorted indices jump. -/
theorem findLogIndexHole_iff {logs : List LogFact} :
    findLogIndexHole logs = true ↔ ∃ l ∈ logs, jumps (sortOn id ((logs.filter fun x =>
      x.chainKey ++ "|" ++ x.blockHash = l.chainKey ++ "|" ++ l.blockHash).map (·.logIndex))) = true := by
  unfold findLogIndexHole
  rw [List.any_eq_true]
  constructor
  · rintro ⟨⟨k, g⟩, hrow, hjumps⟩
    obtain ⟨rfl, l, hl, rfl⟩ := mem_rows_groupBy hrow
    exact ⟨l, hl, hjumps⟩
  · rintro ⟨l, hl, hjumps⟩
    obtain ⟨⟨k, g⟩, hrow, hk⟩ := Keyed.has_iff.1 (has_groupBy.2 (List.mem_map_of_mem hl :
      (l.chainKey ++ "|" ++ l.blockHash) ∈ logs.map fun l : LogFact => l.chainKey ++ "|" ++ l.blockHash))
    obtain rfl : k = l.chainKey ++ "|" ++ l.blockHash := hk
    obtain ⟨rfl, -⟩ := mem_rows_groupBy hrow
    exact ⟨_, hrow, hjumps⟩

end Digest

/-! ## Gaps -/

/-- The loop of `findRangeGaps` over ascending ranges, and the gap behind the last of them. -/
def scanGaps (window : BlockRange) : Int → List BlockRange → List BlockRange
  | cursor, [] => if cursor ≤ window.toBlock then [{ fromBlock := cursor, toBlock := window.toBlock }] else []
  | cursor, r :: rest =>
    (if r.fromBlock > cursor then [{ fromBlock := cursor, toBlock := r.fromBlock - 1 }] else []) ++
      scanGaps window (if r.toBlock ≥ cursor then r.toBlock + 1 else cursor) rest

def findRangeGaps (covered : List BlockRange) (window : BlockRange) : List BlockRange :=
  scanGaps window window.fromBlock (sortOn (·.fromBlock) covered)

theorem scanGaps_eq_nil {window : BlockRange} {cursor : Int} {ranges : List BlockRange}
    (hsorted : ranges.Pairwise fun a b => a.fromBlock ≤ b.fromBlock) :
    scanGaps window cursor ranges = [] ↔
      ∀ b, cursor ≤ b → (b ≤ window.toBlock ∨ ∃ r ∈ ranges, b < r.fromBlock) → Covered ranges b := by
  induction ranges generalizing cursor with
  | nil =>
    unfold scanGaps
    constructor
    · intro h b hb hle
      split at h
      · cases h
      · simp only [List.not_mem_nil, false_and, exists_false, or_false] at hle
        omega
    · intro h
      rw [if_neg]
      intro hle
      obtain ⟨r, hr, -⟩ := h cursor le_rfl (Or.inl hle)
      simp at hr
  | cons r rest ih =>
    obtain ⟨hr, hrest⟩ := List.pairwise_cons.1 hsorted
    unfold scanGaps
    by_cases hgap : r.fromBlock > cursor
    · -- the height at the cursor is in none of the ranges, which all start later
      rw [if_pos hgap]
      constructor
      · intro h
        simp at h
      · intro h
        obtain ⟨x, hx, hfrom, -⟩ := h cursor le_rfl (Or.inr ⟨r, by simp, hgap⟩)
        rcases List.mem_cons.1 hx with rfl | hx
        · omega
        · have := hr x hx
          omega
    · rw [if_neg hgap, List.nil_append, ih hrest]
      constructor
      -- a height up to the end of this range is covered by it, and one behind it by the rest
      · intro h b hb hneed
        by_cases hwithin : b ≤ r.toBlock
        · exact ⟨r, by simp, by omega, hwithin⟩
        · obtain ⟨x, hx, hxb⟩ := h b (by split <;> omega) (by
            rcases hneed with hle | ⟨x, hx, hlt⟩
            · exact Or.inl hle
            · rcases List.mem_cons.1 hx with rfl | hx
              · omega
              · exact Or.inr ⟨x, hx, hlt⟩)
          exact ⟨x, List.mem_cons_of_mem _ hx, hxb⟩
      · intro h b hb hneed
        have hcursor : cursor ≤ b := by split at hb <;> omega
        have hpast : r.toBlock < b := by split at hb <;> omega
        obtain ⟨x, hx, hxb⟩ := h b hcursor (by
          rcases hneed with hle | ⟨x, hx, hlt⟩
          · exact Or.inl hle
          · exact Or.inr ⟨x, List.mem_cons_of_mem _ hx, hlt⟩)
        rcases List.mem_cons.1 hx with rfl | hx
        · exact absurd hxb.2 (by omega)
        · exact ⟨x, hx, hxb⟩

/-- No gap is found exactly when every height of the window, and every height below the start of a
range, is covered. -/
theorem findRangeGaps_eq_nil {covered : List BlockRange} {window : BlockRange} :
    findRangeGaps covered window = [] ↔ ∀ b, window.fromBlock ≤ b →
      (b ≤ window.toBlock ∨ ∃ r ∈ covered, b < r.fromBlock) → Covered covered b := by
  unfold findRangeGaps
  rw [scanGaps_eq_nil (pairwise_sortOn _ _)]
  simp only [Covered, mem_sortOn]

end IcttSentinel.Replay
