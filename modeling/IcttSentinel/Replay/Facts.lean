/-
The facts behind an agreement. A digest covers a log in every field but the time it was observed at, and a
block in its chain, height, hash and class: the parent hash and the timestamp of a block are stored without
having been compared. Witnesses of one digest carry equal facts exactly when they report these alike.
-/
import IcttSentinel.Lib.Counting
import IcttSentinel.Lib.Decimal
import IcttSentinel.Replay.Engine
import IcttSentinel.Storage.Reordering

namespace IcttSentinel.Replay

open IcttSentinel.Lib IcttSentinel.Storage

/-! ## The texts that are digested -/

def blockText (blocks : List BlockFact) : String :=
  String.join ((sortOn (fun b : BlockFact => toLex (b.blockNumber, codeUnits b.blockHash)) blocks).map blockLine)

def logText (logs : List LogFact) : String := String.join ((sortOn LogFact.position logs).map LogFact.line)

def observationText (sha256 : String → String) (o : RangeObservation) : String :=
  "|".intercalate
    [toString o.range.fromBlock, toString o.range.toBlock, o.startBlockHash, o.endBlockHash, toString o.logCount,
      sha256 (logText o.logs), sha256 (blockText o.blocks)]

theorem rangeDigest_eq (sha256 : String → String) (o : RangeObservation) :
    rangeDigest sha256 o = sha256 (observationText sha256 o) := rfl

/-- The texts a set of observations is digested by. -/
def digestedTexts (sha256 : String → String) (observations : List RangeObservation) : List String :=
  observations.flatMap fun o => [logText o.logs, blockText o.blocks, observationText sha256 o]

/-- The digests of the texts are hexadecimal, and no two texts share one. -/
structure DigestsApart (sha256 : String → String) (observations : List RangeObservation) : Prop where
  hex : ∀ t ∈ digestedTexts sha256 observations, (sha256 t).toList.all isLowerHex = true
  apart : ∀ t ∈ digestedTexts sha256 observations, ∀ u ∈ digestedTexts sha256 observations,
    sha256 t = sha256 u → t = u

/-- What a table without a repeated text has for a text. -/
theorem find?_of_nodup {table : List (String × String)} (hdistinct : (table.map (·.1)).Nodup) {d : String × String}
    (hd : d ∈ table) : (table.find? fun e => e.1 = d.1) = some d := by
  cases hfind : table.find? fun e => e.1 = d.1 with
  | none => exact absurd (List.find?_eq_none.1 hfind d hd) (by simp)
  | some e =>
    have hsame : e.1 = d.1 := by simpa using List.find?_some hfind
    rw [List.inj_on_of_nodup_map hdistinct (List.mem_of_find?_eq_some hfind) hd hsame]

/-- A hash that is read off a table of texts. -/
theorem digestsApart_of_table {table : List (String × String)} {sha256 : String → String}
    {observations : List RangeObservation} (hsha : ∀ d ∈ table, sha256 d.1 = d.2)
    (hhex : ∀ d ∈ table, d.2.toList.all isLowerHex = true) (hdistinct : (table.map (·.2)).Nodup)
    (htexts : ∀ t ∈ digestedTexts sha256 observations, ∃ d ∈ table, d.1 = t) : DigestsApart sha256 observations where
  hex t ht := by
    obtain ⟨d, hd, rfl⟩ := htexts t ht
    rw [hsha d hd]
    exact hhex d hd
  apart t ht u hu h := by
    obtain ⟨d, hd, rfl⟩ := htexts t ht
    obtain ⟨d', hd', rfl⟩ := htexts u hu
    rw [hsha d hd, hsha d' hd'] at h
    rw [List.inj_on_of_nodup_map hdistinct hd hd' h]

/-- A text without the separators of the digests. -/
def Plain (s : String) : Prop := separator ∉ s.toList ∧ '\n' ∉ s.toList

instance (s : String) : Decidable (Plain s) := inferInstanceAs (Decidable (_ ∧ _))

/-- Every field is hex or decimal, so that no separator can occur inside a value. -/
structure RangeObservation.PlainTexts (o : RangeObservation) : Prop where
  ends : Plain o.startBlockHash ∧ Plain o.endBlockHash
  blocks : ∀ b ∈ o.blocks, Plain b.chainKey ∧ Plain b.blockHash
  logs : ∀ l ∈ o.logs, Plain l.chainKey ∧ Plain l.blockHash ∧ Plain l.txHash ∧ Plain l.address ∧ Plain l.data
  topics : ∀ l ∈ o.logs, ∀ t ∈ l.topics, Plain t ∧ ',' ∉ t.toList ∧ t ≠ ""

/-! ## Lines -/

theorem plain_decimal (n : Int) : Plain (toString n) := by
  refine ⟨separator_notMem_decimal n, ?_⟩
  have hdigits := notMem_repr (c := '\n') (by decide)
  cases n with
  | ofNat m => exact hdigits m
  | negSucc m =>
    change '\n' ∉ ("-" ++ (m + 1).repr).toList
    rw [String.toList_append, List.mem_append, not_or]
    exact ⟨by decide, hdigits (m + 1)⟩

theorem plain_class (c : ObservedClass) : Plain c.text := by
  cases c <;> decide

/-- A separator of the lines is in a joined text only if it is in a part of it. -/
theorem notMem_intercalate {c : Char} {sep : String} (hsep : c ∉ sep.toList) {l : List String}
    (hl : ∀ s ∈ l, c ∉ s.toList) : c ∉ (sep.intercalate l).toList := by
  induction l with
  | nil => simp
  | cons s l ih =>
    have hs := hl s List.mem_cons_self
    cases l with
    | nil => simpa using hs
    | cons t l =>
      have hrest := ih fun u hu => hl u (List.mem_cons_of_mem _ hu)
      rw [String.toList_intercalate] at hrest ⊢
      rw [List.map_cons, List.map_cons, List.intercalate_cons_cons]
      simp only [List.mem_append, not_or]
      exact ⟨⟨hs, hsep⟩, by simpa using hrest⟩

/-- Lines whose parts hold no separator tell their parts. -/
theorem line_inj {parts parts' : List String} (hparts : ∀ s ∈ parts, Plain s) (hparts' : ∀ s ∈ parts', Plain s)
    (hne : parts ≠ []) (hne' : parts' ≠ []) (h : "|".intercalate parts = "|".intercalate parts') : parts = parts' :=
  intercalate_inj (fun s hs => (hparts s hs).1) (fun s hs => (hparts' s hs).1) hne hne' h

/-- What the line of a block says. -/
def digestedOf (b : BlockFact) : String × Int × String × ObservedClass :=
  (b.chainKey, b.blockNumber, b.blockHash, b.observedClass)

def blockParts (b : BlockFact) : List String := [b.chainKey, toString b.blockNumber, b.blockHash, b.observedClass.text]

theorem blockParts_inj {a b : BlockFact} (h : blockParts a = blockParts b) : digestedOf a = digestedOf b := by
  have hclass : ∀ c d : ObservedClass, c.text = d.text → c = d := by
    intro c d
    cases c <;> cases d <;> decide
  simp only [blockParts, List.cons.injEq, and_true] at h
  obtain ⟨hchain, hnumber, hhash, htext⟩ := h
  unfold digestedOf
  rw [hchain, decimal_injective hnumber, hhash, hclass _ _ htext]

def logParts (l : LogFact) : List String :=
  [l.chainKey, l.blockHash, l.txHash, toString l.logIndex, toString l.blockNumber, toString l.txIndex, l.address,
    ",".intercalate l.topics, l.data]

/-- Topics that are never empty can be told apart, however many there are. -/
theorem topics_inj {topics topics' : List String} (h : ∀ t ∈ topics, ',' ∉ t.toList ∧ t ≠ "")
    (h' : ∀ t ∈ topics', ',' ∉ t.toList ∧ t ≠ "") (hjoined : ",".intercalate topics = ",".intercalate topics') :
    topics = topics' := by
  have hempty : ∀ m : List String, (∀ t ∈ m, ',' ∉ t.toList ∧ t ≠ "") → ",".intercalate m = "" → m = [] := by
    intro m hm hnone
    cases m with
    | nil => rfl
    | cons t m =>
      -- the first topic alone is some text
      have hlist := congrArg String.toList hnone
      rw [String.toList_intercalate] at hlist
      have ht : t.toList ≠ [] := by simpa using (hm t List.mem_cons_self).2
      cases m with
      | nil => simp_all
      | cons u m =>
        rw [List.map_cons, List.map_cons, List.intercalate_cons_cons] at hlist
        simp_all
  by_cases hne : topics = []
  · subst hne
    exact (hempty topics' h' hjoined.symm).symm
  · by_cases hne' : topics' = []
    · subst hne'
      exact hempty topics h hjoined
    · exact intercalate_inj (fun t ht => (h t ht).1) (fun t ht => (h' t ht).1) hne hne' hjoined

/-- Two lists that are written alike, line by line, say the same. -/
theorem map_of_lines {α β γ : Type} {line : α → γ} {say : α → β} {l l' : List α}
    (hinj : ∀ a ∈ l, ∀ b ∈ l', line a = line b → say a = say b) (h : l.map line = l'.map line) :
    l.map say = l'.map say := by
  induction l generalizing l' with
  | nil =>
    rw [List.map_nil, eq_comm, List.map_eq_nil_iff] at h
    rw [h]
  | cons a l ih =>
    cases l' with
    | nil => cases h
    | cons b l' =>
      obtain ⟨hline, hrest⟩ := List.cons.inj h
      rw [List.map_cons, List.map_cons, hinj a List.mem_cons_self b List.mem_cons_self hline,
        ih (fun x hx y hy => hinj x (List.mem_cons_of_mem _ hx) y (List.mem_cons_of_mem _ hy)) hrest]

/-- Facts written line by line in some order: equal texts say the same, one after the other. -/
theorem sorted_of_text {α β γ : Type} [LinearOrder γ] {key : α → γ} {parts : α → List String} {say : α → β}
    {l l' : List α} (hplain : ∀ a ∈ l, ∀ s ∈ parts a, Plain s) (hplain' : ∀ a ∈ l', ∀ s ∈ parts a, Plain s)
    (hne : ∀ a, parts a ≠ []) (hinj : ∀ a ∈ l, ∀ b ∈ l', parts a = parts b → say a = say b)
    (h : String.join ((sortOn key l).map fun a => "|".intercalate (parts a) ++ String.singleton '\n') =
      String.join ((sortOn key l').map fun a => "|".intercalate (parts a) ++ String.singleton '\n')) :
    (sortOn key l).map say = (sortOn key l').map say := by
  have hbody : ∀ a : α, (∀ s ∈ parts a, Plain s) → '\n' ∉ ("|".intercalate (parts a)).toList := fun a ha =>
    notMem_intercalate (by decide) fun s hs => (ha s hs).2
  have hjoined : String.join (((sortOn key l).map fun a => "|".intercalate (parts a)).map (· ++ String.singleton '\n')) =
      String.join (((sortOn key l').map fun a => "|".intercalate (parts a)).map (· ++ String.singleton '\n')) := by
    rw [List.map_map, List.map_map]
    exact h
  have hlines : (sortOn key l).map (fun a => "|".intercalate (parts a)) =
      (sortOn key l').map fun a => "|".intercalate (parts a) := by
    refine join_lines_inj ?_ ?_ hjoined
    · intro s hs
      obtain ⟨a, ha, rfl⟩ := List.mem_map.1 hs
      exact hbody a (hplain a (mem_sortOn.1 ha))
    · intro s hs
      obtain ⟨a, ha, rfl⟩ := List.mem_map.1 hs
      exact hbody a (hplain' a (mem_sortOn.1 ha))
  refine map_of_lines (fun a ha b hb hline => ?_) hlines
  rw [mem_sortOn] at ha hb
  exact hinj a ha b hb (line_inj (hplain a ha) (hplain' b hb) (hne a) (hne b) hline)

/-- Two lists that say the same when sorted say the same up to order. -/
theorem perm_of_sorted {α β γ : Type} [LinearOrder γ] {key : α → γ} {say : α → β} {l l' : List α}
    (h : (sortOn key l).map say = (sortOn key l').map say) : (l.map say).Perm (l'.map say) := by
  have hsorted := (sortOn_perm key l').map say
  rw [← h] at hsorted
  exact ((sortOn_perm key l).map say).symm.trans hsorted

/-! ## What one digest says -/

section Digest

variable {sha256 : String → String} {observations : List RangeObservation} {o o' : RangeObservation}

theorem RangeObservation.PlainTexts.blockParts (h : o.PlainTexts) : ∀ b ∈ o.blocks, ∀ s ∈ blockParts b, Plain s := by
  intro b hb s hs
  simp only [Replay.blockParts, List.mem_cons, List.not_mem_nil, or_false] at hs
  rcases hs with rfl | rfl | rfl | rfl
  · exact (h.blocks b hb).1
  · exact plain_decimal _
  · exact (h.blocks b hb).2
  · exact plain_class _

theorem RangeObservation.PlainTexts.logParts (h : o.PlainTexts) : ∀ l ∈ o.logs, ∀ s ∈ logParts l, Plain s := by
  intro l hl s hs
  obtain ⟨hchain, hblock, htx, haddress, hdata⟩ := h.logs l hl
  have htopics : Plain (",".intercalate l.topics) :=
    ⟨notMem_intercalate (by decide) fun t ht => (h.topics l hl t ht).1.1,
      notMem_intercalate (by decide) fun t ht => (h.topics l hl t ht).1.2⟩
  simp only [Replay.logParts, List.mem_cons, List.not_mem_nil, or_false] at hs
  rcases hs with rfl | rfl | rfl | rfl | rfl | rfl | rfl | rfl | rfl
  · exact hchain
  · exact hblock
  · exact htx
  · exact plain_decimal _
  · exact plain_decimal _
  · exact plain_decimal _
  · exact haddress
  · exact htopics
  · exact hdata

/-- The line of a log says all of it but the time it was observed at. -/
theorem logParts_inj {l l' : LogFact} (hl : ∀ t ∈ l.topics, ',' ∉ t.toList ∧ t ≠ "")
    (hl' : ∀ t ∈ l'.topics, ',' ∉ t.toList ∧ t ≠ "") (h : logParts l = logParts l') : l.untimed = l'.untimed := by
  simp only [logParts, List.cons.injEq, and_true] at h
  obtain ⟨hchain, hblock, htx, hindex, hnumber, htxIndex, haddress, htopics, hdata⟩ := h
  unfold LogFact.untimed
  simp only [LogFact.mk.injEq, and_true]
  exact ⟨hchain, hblock, htx, decimal_injective hindex, decimal_injective hnumber, decimal_injective htxIndex,
    haddress, topics_inj hl hl' htopics, hdata⟩

theorem notMem_of_hex {s : String} (h : s.toList.all isLowerHex = true) : separator ∉ s.toList := fun hmem =>
  absurd (List.all_eq_true.1 h _ hmem) (by decide)

/-- A digest covers the range, its boundaries, the number of logs, and the two texts. -/
theorem texts_of_digest (hapart : DigestsApart sha256 observations) (ho : o ∈ observations) (ho' : o' ∈ observations)
    (hplain : o.PlainTexts) (hplain' : o'.PlainTexts) (h : rangeDigest sha256 o = rangeDigest sha256 o') :
    o.range = o'.range ∧ o.startBlockHash = o'.startBlockHash ∧ o.endBlockHash = o'.endBlockHash ∧
      o.logCount = o'.logCount ∧ logText o.logs = logText o'.logs ∧ blockText o.blocks = blockText o'.blocks := by
  have hmem : ∀ x ∈ observations, ∀ t ∈ [logText x.logs, blockText x.blocks, observationText sha256 x],
      t ∈ digestedTexts sha256 observations := fun x hx t ht => List.mem_flatMap.2 ⟨x, hx, ht⟩
  -- no part has the separator, so the joined text splits back into them
  have hparts : ∀ x ∈ observations, x.PlainTexts → ∀ s ∈ [toString x.range.fromBlock, toString x.range.toBlock,
      x.startBlockHash, x.endBlockHash, toString x.logCount, sha256 (logText x.logs), sha256 (blockText x.blocks)],
      separator ∉ s.toList := by
    intro x hx hx' s hs
    simp only [List.mem_cons, List.not_mem_nil, or_false] at hs
    rcases hs with rfl | rfl | rfl | rfl | rfl | rfl | rfl
    · exact separator_notMem_decimal _
    · exact separator_notMem_decimal _
    · exact hx'.ends.1.1
    · exact hx'.ends.2.1
    · exact separator_notMem_decimal _
    · exact notMem_of_hex (hapart.hex _ (hmem x hx _ (by simp)))
    · exact notMem_of_hex (hapart.hex _ (hmem x hx _ (by simp)))
  have htext : observationText sha256 o = observationText sha256 o' :=
    hapart.apart _ (hmem o ho _ (by simp)) _ (hmem o' ho' _ (by simp)) h
  have hjoined := intercalate_inj (hparts o ho hplain) (hparts o' ho' hplain') (by simp) (by simp) htext
  simp only [List.cons.injEq, and_true] at hjoined
  obtain ⟨hfrom, hto, hstart, hend, hcount, hlogs, hblocks⟩ := hjoined
  refine ⟨?_, hstart, hend, decimal_injective hcount,
    hapart.apart _ (hmem o ho _ (by simp)) _ (hmem o' ho' _ (by simp)) hlogs,
    hapart.apart _ (hmem o ho _ (by simp)) _ (hmem o' ho' _ (by simp)) hblocks⟩
  have hbounds := And.intro (decimal_injective hfrom) (decimal_injective hto)
  rwa [← BlockRange.mk.injEq] at hbounds

/-- Equal texts of logs say the same logs, sorted. -/
theorem sorted_of_logText (hplain : o.PlainTexts) (hplain' : o'.PlainTexts) (h : logText o.logs = logText o'.logs) :
    (sortOn LogFact.position o.logs).map LogFact.untimed = (sortOn LogFact.position o'.logs).map LogFact.untimed := by
  refine sorted_of_text hplain.logParts hplain'.logParts (fun _ => by simp [logParts]) ?_ h
  intro l hl l' hl' hsame
  exact logParts_inj (fun t ht => (hplain.topics l hl t ht).2) (fun t ht => (hplain'.topics l' hl' t ht).2) hsame

/-- The order the blocks of a range are digested in. -/
def blockOrder (b : BlockFact) : Int ×ₗ List Nat := toLex (b.blockNumber, codeUnits b.blockHash)

/-- Equal texts of blocks say the same blocks, sorted. -/
theorem sorted_of_blockText (hplain : o.PlainTexts) (hplain' : o'.PlainTexts)
    (h : blockText o.blocks = blockText o'.blocks) :
    (sortOn blockOrder o.blocks).map digestedOf = (sortOn blockOrder o'.blocks).map digestedOf :=
  sorted_of_text hplain.blockParts hplain'.blockParts (fun _ => by simp [blockParts])
    (fun b _ b' _ hsame => blockParts_inj hsame) h

/-- Two observations of one digest report the same logs up to order, the same blocks as far as these are
digested, and the same end. -/
theorem facts_of_digest (hapart : DigestsApart sha256 observations) (ho : o ∈ observations) (ho' : o' ∈ observations)
    (hplain : o.PlainTexts) (hplain' : o'.PlainTexts) (h : rangeDigest sha256 o = rangeDigest sha256 o') :
    (o.logs.map LogFact.untimed).Perm (o'.logs.map LogFact.untimed) ∧
      (o.blocks.map digestedOf).Perm (o'.blocks.map digestedOf) ∧ o.endBlockHash = o'.endBlockHash := by
  obtain ⟨-, -, hend, -, hlogs, hblocks⟩ := texts_of_digest hapart ho ho' hplain hplain' h
  exact ⟨perm_of_sorted (sorted_of_logText hplain hplain' hlogs),
    perm_of_sorted (sorted_of_blockText hplain hplain' hblocks), hend⟩

end Digest

/-! ## Logs of one observation -/

theorem pairwise_of_not_jumps : ∀ {indices : List Int}, jumps indices = false → indices.Pairwise (· < ·)
  | [], _ => List.Pairwise.nil
  | [_], _ => List.pairwise_singleton _ _
  | previous :: current :: rest, h => by
    unfold jumps at h
    rw [Bool.or_eq_false_iff, decide_eq_false_iff_not, not_not] at h
    obtain ⟨hcurrent, hrest⟩ := h
    have hsorted := pairwise_of_not_jumps hrest
    refine List.pairwise_cons.2 ⟨fun x hx => ?_, hsorted⟩
    rcases List.mem_cons.1 hx with rfl | hx
    · omega
    · have hlt := (List.pairwise_cons.1 hsorted).1 x hx
      omega

/-- Without a hole, no log index of a block repeats. -/
theorem determines_of_not_hole {logs : List LogFact} (h : findLogIndexHole logs = false) :
    Keyed.Determines LogFact.key logs := by
  intro a ha b hb hab
  simp only [LogFact.key, Prod.mk.injEq] at hab
  obtain ⟨hchain, hblock, -, hindex⟩ := hab
  have hhas : (groupBy (fun l : LogFact => l.chainKey ++ "|" ++ l.blockHash) logs).has
      (a.chainKey ++ "|" ++ a.blockHash) = true := has_groupBy.2 (List.mem_map.2 ⟨a, ha, rfl⟩)
  obtain ⟨⟨key, group⟩, hrow, hkey⟩ := Keyed.has_iff.1 hhas
  obtain rfl : key = a.chainKey ++ "|" ++ a.blockHash := hkey
  obtain ⟨rfl, -⟩ := mem_rows_groupBy hrow
  have hjumps := List.any_eq_false.1 h _ hrow
  rw [Bool.not_eq_true] at hjumps
  have hlt := pairwise_of_not_jumps hjumps
  have hindices : ((logs.filter fun l => l.chainKey ++ "|" ++ l.blockHash = a.chainKey ++ "|" ++ a.blockHash).map
      (·.logIndex)).Nodup := (sortOn_perm id _).nodup_iff.1 (hlt.imp fun hxy => ne_of_lt hxy)
  refine List.inj_on_of_nodup_map hindices (List.mem_filter.2 ⟨ha, ?_⟩) (List.mem_filter.2 ⟨hb, ?_⟩) hindex
  · exact decide_eq_true rfl
  · rw [hchain, hblock]
    exact decide_eq_true rfl

theorem classifyObservation_noHole {sha256 : String → String} {o : RangeObservation} {r : RangeResult}
    (h : classifyObservation sha256 o = .ok r) : findLogIndexHole o.logs = false := by
  by_contra hhole
  rw [Bool.not_eq_false] at hhole
  unfold classifyObservation at h
  rw [hhole] at h
  simp only [if_true] at h
  split_ifs at h

end IcttSentinel.Replay
