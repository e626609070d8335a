/-
One observation under two labels. What a witness reads does not depend on its name, on the moment it
is asked, or on the endpoint that answers, when all of them answer alike; and two observations that
differ in these labels only are classified alike and have one digest.
-/
import IcttSentinel.Agent.LogSource
import IcttSentinel.Lib.Traversal
import IcttSentinel.Replay.Agreement

namespace IcttSentinel.Agent

open IcttSentinel.Config IcttSentinel.Lib IcttSentinel.Replay IcttSentinel.RpcQuorum IcttSentinel.Storage

/-- The same log, seen at another time. -/
def logSeenAt (t : Int) (l : LogFact) : LogFact := { l with observedAt := t }

/-- The same block, seen at another time. -/
def blockSeenAt (t : Int) (b : BlockFact) : BlockFact := { b with observedAt := t }

/-- The same observation by another witness, at another time. -/
def relabel (o : RangeObservation) (providerGroup : String) (t : Int) (viaArchive : Bool) : RangeObservation :=
  { o with
    providerGroup
    logs := o.logs.map (logSeenAt t)
    blocks := o.blocks.map (blockSeenAt t)
    viaArchive }

/-! ## Reading -/

section Read

variable {chainKey : String} {value : Json} {t : Int}

theorem decodeBlock_seenAt (t' : Int) : decodeBlock chainKey value t' = blockSeenAt t' <$> decodeBlock chainKey value t := by
  simp only [decodeBlock, map_bind, map_pure]
  rfl

theorem decodeLog_seenAt (t' : Int) : decodeLog chainKey value t' = logSeenAt t' <$> decodeLog chainKey value t := by
  simp only [decodeLog, map_bind, map_pure]
  rfl

/-- Another witness that is answered alike observes the same, under its own label. -/
theorem observe_relabel {ask : ReadOperation → Except SourceError Json} {maxRangeBlocks : Nat} {group : String}
    {range : BlockRange} {viaArchive : Bool} {o : RangeObservation}
    (h : observe ask chainKey maxRangeBlocks group range t viaArchive = .ok (.ok o)) (group' : String) (t' : Int)
    (viaArchive' : Bool) :
    observe ask chainKey maxRangeBlocks group' range t' viaArchive' = .ok (.ok (relabel o group' t' viaArchive')) := by
  obtain ⟨_, hrange, h⟩ := bind_eq_ok.1 h
  obtain ⟨rawLogs, hraw, h⟩ := bind_eq_ok.1 h
  obtain ⟨elements, helements, h⟩ := bind_eq_ok.1 h
  obtain ⟨logs, hlogs, h⟩ := bind_eq_ok.1 h
  obtain ⟨blocks, hblocks, h⟩ := bind_eq_ok.1 h
  have hlogs' : elements.mapM (fun l => decodeLog chainKey l t') = .ok (logs.map (logSeenAt t')) := by
    rw [mapM_map (fun l => decodeLog_seenAt t') elements, hlogs]
    rfl
  -- neither the heights asked for nor the known block hashes read the time of observation
  have hheights : heightsOf range (logs.map (logSeenAt t')) = heightsOf range logs := by
    unfold heightsOf
    rw [List.map_map]
    rfl
  have hone : ∀ height, (do
        let raw ← ask (.blockByRef (.number height))
        decodeBlock chainKey raw t') = blockSeenAt t' <$> (do
        let raw ← ask (.blockByRef (.number height))
        decodeBlock chainKey raw t) := by
    intro height
    rw [map_bind]
    exact bind_congr fun raw => decodeBlock_seenAt t'
  have hblocks' : (heightsOf range logs).mapM (fun height => do
      let raw ← ask (.blockByRef (.number height))
      decodeBlock chainKey raw t') = .ok (blocks.map (blockSeenAt t')) := by
    rw [mapM_map hone, hblocks]
    rfl
  -- and the boundary blocks are found at the same places
  have hfind : ∀ n, (blocks.map (blockSeenAt t')).find? (·.blockNumber = n) =
      (blocks.find? (·.blockNumber = n)).map (blockSeenAt t') := by
    intro n
    rw [List.find?_map]
    rfl
  refine bind_eq_ok.2 ⟨_, hrange, bind_eq_ok.2 ⟨rawLogs, hraw, bind_eq_ok.2 ⟨elements, helements,
    bind_eq_ok.2 ⟨_, hlogs', ?_⟩⟩⟩⟩
  rw [hheights]
  refine bind_eq_ok.2 ⟨_, hblocks', ?_⟩
  rw [hfind, hfind]
  have hknown : ((logs.map (logSeenAt t')).any fun l =>
      !((blocks.map (blockSeenAt t')).map (·.blockHash)).contains l.blockHash) =
      logs.any fun l => !(blocks.map (·.blockHash)).contains l.blockHash := by
    rw [List.any_map, List.map_map]
    rfl
  split at h
  · rename_i start end_ hstart hend
    rw [hstart, hend]
    simp only [Option.map_some, hknown]
    split at h
    · cases h
    · rename_i hall
      rw [if_neg hall]
      cases h
      rw [List.length_map]
      rfl
  · cases h

/-- Whoever is answered where another is observes what the other does. -/
theorem observe_of_imp {ask ask' : ReadOperation → Except SourceError Json} (hask : ∀ op v, ask op = .ok v → ask' op = .ok v)
    {maxRangeBlocks : Nat} {group : String} {range : BlockRange} {viaArchive : Bool} {outcome : FetchOutcome}
    (h : observe ask chainKey maxRangeBlocks group range t viaArchive = .ok outcome) :
    observe ask' chainKey maxRangeBlocks group range t viaArchive = .ok outcome := by
  obtain ⟨_, hrange, h⟩ := bind_eq_ok.1 h
  obtain ⟨rawLogs, hraw, h⟩ := bind_eq_ok.1 h
  obtain ⟨elements, helements, h⟩ := bind_eq_ok.1 h
  obtain ⟨logs, hlogs, h⟩ := bind_eq_ok.1 h
  obtain ⟨blocks, hblocks, h⟩ := bind_eq_ok.1 h
  have hblocks' : (heightsOf range logs).mapM (fun height => do
      let raw ← ask' (.blockByRef (.number height))
      decodeBlock chainKey raw t) = .ok blocks := by
    refine mapM_of_imp (fun height block hblock => ?_) hblocks
    obtain ⟨raw, hraw, hblock⟩ := bind_eq_ok.1 hblock
    exact bind_eq_ok.2 ⟨raw, hask _ _ hraw, hblock⟩
  exact bind_eq_ok.2 ⟨_, hrange, bind_eq_ok.2 ⟨rawLogs, hask _ _ hraw, bind_eq_ok.2 ⟨elements, helements,
    bind_eq_ok.2 ⟨logs, hlogs, bind_eq_ok.2 ⟨blocks, hblocks', h⟩⟩⟩⟩⟩

end Read

/-! ## Comparing -/

section Compare

variable {sha256 : String → String} {o : RangeObservation} {group : String} {t : Int} {viaArchive : Bool}

theorem findLogIndexHole_seenAt (logs : List LogFact) :
    findLogIndexHole (logs.map (logSeenAt t)) = findLogIndexHole logs := by
  have hgroup : ∀ l : LogFact, ((logs.map (logSeenAt t)).filter fun x =>
        x.chainKey ++ "|" ++ x.blockHash = l.chainKey ++ "|" ++ l.blockHash).map (·.logIndex) =
      (logs.filter fun x => x.chainKey ++ "|" ++ x.blockHash = l.chainKey ++ "|" ++ l.blockHash).map (·.logIndex) := by
    intro l
    rw [List.filter_map, List.map_map]
    rfl
  rw [Bool.eq_iff_iff, findLogIndexHole_iff, findLogIndexHole_iff]
  constructor
  · rintro ⟨x, hx, hjumps⟩
    obtain ⟨l, hl, rfl⟩ := List.mem_map.1 hx
    exact ⟨l, hl, (hgroup l).symm ▸ hjumps⟩
  · rintro ⟨l, hl, hjumps⟩
    exact ⟨_, List.mem_map_of_mem hl, (hgroup l) ▸ hjumps⟩

theorem rangeDigest_relabel : rangeDigest sha256 (relabel o group t viaArchive) = rangeDigest sha256 o := by
  have hlogs : canonicalLogDigest sha256 (o.logs.map (logSeenAt t)) = canonicalLogDigest sha256 o.logs := by
    unfold canonicalLogDigest
    rw [sortOn_map (fun _ => rfl), List.map_map]
    rfl
  have hblocks : canonicalBlockDigest sha256 (o.blocks.map (blockSeenAt t)) = canonicalBlockDigest sha256 o.blocks := by
    unfold canonicalBlockDigest
    simp only [sortOn_map (g := blockSeenAt t) (fun _ => rfl), List.map_map]
    rfl
  unfold rangeDigest
  show sha256 ("|".intercalate [_, _, _, _, _, canonicalLogDigest sha256 (o.logs.map (logSeenAt t)),
    canonicalBlockDigest sha256 (o.blocks.map (blockSeenAt t))]) = _
  rw [hlogs, hblocks]
  rfl

/-- Under another label an observation is classified alike. -/
theorem classifyObservation_relabel {r : RangeResult} (h : classifyObservation sha256 o = .ok r) :
    classifyObservation sha256 (relabel o group t viaArchive) =
      .ok (resultOf sha256 (relabel o group t viaArchive)) := by
  have hlength : (relabel o group t viaArchive).logs.length = o.logs.length := List.length_map _
  have hclass : ((relabel o group t viaArchive).blocks.any fun b => decide (b.observedClass ≠ .accepted)) =
      o.blocks.any fun b => decide (b.observedClass ≠ .accepted) := List.any_map
  have hknown : ((relabel o group t viaArchive).logs.any fun l =>
        !((relabel o group t viaArchive).blocks.map (·.blockHash)).contains l.blockHash) =
      o.logs.any fun l => !(o.blocks.map (·.blockHash)).contains l.blockHash := by
    show ((o.logs.map (logSeenAt t)).any fun l => !((o.blocks.map (blockSeenAt t)).map (·.blockHash)).contains l.blockHash) = _
    rw [List.any_map, List.map_map]
    rfl
  have hhole : findLogIndexHole (relabel o group t viaArchive).logs = findLogIndexHole o.logs :=
    findLogIndexHole_seenAt o.logs
  unfold classifyObservation at h ⊢
  rw [hlength, hclass, hknown, hhole]
  split at h
  · cases h
  rename_i hcount
  rw [if_neg (show ¬(o.logs.length : Int) ≠ (relabel o group t viaArchive).logCount from hcount)]
  split at h
  · cases h
  rename_i haccepted
  rw [if_neg haccepted]
  split at h
  · cases h
  rename_i hheld
  rw [if_neg hheld]
  split at h
  · cases h
  rename_i hcomplete
  rw [if_neg (show ¬(!(relabel o group t viaArchive).complete) = true from hcomplete)]
  split at h
  · cases h
  rename_i hfull
  rw [if_neg hfull]

end Compare

end IcttSentinel.Agent
