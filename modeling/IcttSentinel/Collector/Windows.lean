/-
The windows a chain is read in, packages/collector/src/read.ts `readChain`: a scan asks for one range of blocks after
another up to the pin, and the ranges are the blocks of the scan, each once and in order.

A reading that succeeds holds every log it was answered, each from the window that asked for it and under the hash of
its block; one log more than the policy allows, over all queries, and there is no reading.
-/
import IcttSentinel.Collector.Answers

namespace IcttSentinel.Collector

open IcttSentinel.Config IcttSentinel.Lib IcttSentinel.RpcQuorum IcttSentinel.Storage
open IcttSentinel.Evidence

/-! ## Heights -/

/-- The block heights from the first to the last, in order. -/
def heights (first last : Int) : List Int := (List.range (last + 1 - first).toNat).map fun (i : Nat) => first + i

theorem heights_of_lt {first last : Int} (h : last < first) : heights first last = [] := by
  have hnone : (last + 1 - first).toNat = 0 := by omega
  rw [heights, hnone]
  rfl

theorem heights_append {first mid last : Int} (hfirst : first ≤ mid + 1) (hlast : mid ≤ last) :
    heights first mid ++ heights (mid + 1) last = heights first last := by
  have hsum : (last + 1 - first).toNat = (mid + 1 - first).toNat + (last + 1 - (mid + 1)).toNat := by omega
  unfold heights
  rw [hsum, List.range_add, List.map_append, List.map_map]
  congr 1
  refine List.map_congr_left fun i _ => ?_
  simp only [Function.comp_apply]
  omega

/-! ## Windows -/

section Windows

variable {width : Nat} (hwidth : 0 < width)

include hwidth

/-- The scan ends: no more turns are needed than there are blocks left. -/
theorem windowsFrom_enough {last : Int} {fuel fuel' : Nat} {start : Int} (h : (last + 1 - start).toNat ≤ fuel)
    (h' : (last + 1 - start).toNat ≤ fuel') : windowsFrom width last fuel start = windowsFrom width last fuel' start := by
  induction fuel generalizing fuel' start with
  | zero =>
    have hend : ¬start ≤ last := by omega
    cases fuel' with
    | zero => rfl
    | succ fuel' => rw [windowsFrom, windowsFrom, if_neg hend]
  | succ fuel ih =>
    cases fuel' with
    | zero =>
      have hend : ¬start ≤ last := by omega
      rw [windowsFrom, windowsFrom, if_neg hend]
    | succ fuel' =>
      rw [windowsFrom, windowsFrom]
      split
      next hle =>
        dsimp only
        split
        · refine congrArg (List.cons _) (ih ?_ ?_) <;> omega
        · refine congrArg (List.cons _) (ih ?_ ?_) <;> omega
      next => rfl

theorem windowsFrom_cover {last : Int} {fuel : Nat} {start : Int} (h : (last + 1 - start).toNat ≤ fuel) :
    (windowsFrom width last fuel start).flatMap (fun window => heights window.1 window.2) = heights start last := by
  induction fuel generalizing start with
  | zero =>
    rw [heights_of_lt (by omega)]
    rfl
  | succ fuel ih =>
    rw [windowsFrom]
    split
    next hle =>
      simp only [List.flatMap_cons]
      split
      · rw [ih (by omega), heights_append (by omega) (by omega)]
      · rw [ih (by omega), heights_append (by omega) (le_refl last)]
    next hend =>
      rw [heights_of_lt (by omega)]
      rfl

theorem windowsFrom_formed {last : Int} {fuel : Nat} {start : Int} :
    ∀ window ∈ windowsFrom width last fuel start, window.1 ≤ window.2 ∧ window.2 - window.1 < width := by
  induction fuel generalizing start with
  | zero => exact fun window hwindow => absurd hwindow List.not_mem_nil
  | succ fuel ih =>
    intro window hwindow
    rw [windowsFrom] at hwindow
    split at hwindow
    next hle =>
      rcases List.mem_cons.1 hwindow with rfl | hwindow
      · dsimp only
        split <;> omega
      · exact ih window hwindow
    next => exact absurd hwindow List.not_mem_nil

end Windows

/-! ## What is answered -/

section Answered

variable (runtime : ChainReader) (endpoint : Endpoint) (pin : ChainPin) (maxRangeBlocks : Nat)

/-- How many logs an endpoint returns for one window. -/
def answeredIn (query : LogQuery) (window : Int × Int) : Nat :=
  match runtime.read endpoint (.logs window.1 window.2 (some query.address) (some query.topics)) with
  | .ok raw => (raw.elements?.getD []).length
  | .error _ => 0

def answeredTo (query : LogQuery) : Nat :=
  ((windowsOf maxRangeBlocks query.fromBlock pin.blockNumber).map (answeredIn runtime endpoint query)).sum

/-- How many logs an endpoint returns for all the queries of a reading. -/
def answeredAll (queries : List LogQuery) : Nat := (queries.map (answeredTo runtime endpoint pin maxRangeBlocks)).sum

end Answered

section Reading

variable {runtime : ChainReader} {endpoint : Endpoint} {pin : ChainPin} {maxRangeBlocks maxLogs : Nat}

theorem decodeLog_within {query : LogQuery} {start stop : Int} {value : Json} {l : RawLog}
    (h : decodeLog query start stop value = .ok l) : start ≤ l.blockNumber ∧ l.blockNumber ≤ stop := by
  obtain ⟨object, -, h⟩ := bind_eq_ok.1 h
  obtain ⟨n, -, h⟩ := bind_eq_ok.1 h
  obtain ⟨logIndex, -, h⟩ := bind_eq_ok.1 h
  obtain ⟨address, -, h⟩ := bind_eq_ok.1 h
  obtain ⟨elements, -, h⟩ := bind_eq_ok.1 h
  obtain ⟨topics, -, h⟩ := bind_eq_ok.1 h
  obtain ⟨data, -, h⟩ := bind_eq_ok.1 h
  obtain ⟨_, hbounds, h⟩ := bind_eq_ok.1 h
  obtain ⟨_, -, h⟩ := bind_eq_ok.1 h
  obtain ⟨blockHash, -, h⟩ := bind_eq_ok.1 h
  obtain ⟨transactionHash, -, h⟩ := bind_eq_ok.1 h
  cases h
  simp only [refuseIf_eq_ok, Bool.or_eq_false_iff, decide_eq_false_iff_not] at hbounds
  dsimp only
  omega

/-- The answer to a window holds what the endpoint returned, nothing from another window. -/
theorem answerWindow_ok {query : LogQuery} {window : Int × Int} {found : List RawLog}
    (h : answerWindow runtime endpoint query window = .ok found) :
    found.length = answeredIn runtime endpoint query window ∧ ∀ l ∈ found, window.1 ≤ l.blockNumber ∧ l.blockNumber ≤ window.2 := by
  obtain ⟨raw, hraw, h⟩ := bind_eq_ok.1 h
  obtain ⟨elements, helements, h⟩ := bind_eq_ok.1 h
  constructor
  · rw [answeredIn, hraw]
    simp only [orFail_eq_ok.1 helements, Option.getD_some]
    exact (mapM_eq_ok.1 h).length_eq.symm
  · intro l hl
    obtain ⟨value, -, hvalue⟩ := mem_mapM_ok h hl
    exact decodeLog_within hvalue

theorem answers_length {query : LogQuery} {windows : List (Int × Int)} {answers : List (List RawLog)}
    (h : List.Forall₂ (fun window found => answerWindow runtime endpoint query window = .ok found) windows answers) :
    answers.flatten.length = (windows.map (answeredIn runtime endpoint query)).sum := by
  induction h with
  | nil => rfl
  | cons hfirst _ ih => rw [List.flatten_cons, List.length_append, (answerWindow_ok hfirst).1, ih, List.map_cons, List.sum_cons]

theorem answerLogs_length {query : LogQuery} {logs : List RawLog}
    (h : answerLogs runtime endpoint pin maxRangeBlocks query = .ok logs) :
    logs.length = answeredTo runtime endpoint pin maxRangeBlocks query := by
  obtain ⟨answers, hanswers, h⟩ := bind_eq_ok.1 h
  cases h
  rw [length_sortOn, answers_length (mapM_eq_ok.1 hanswers)]
  rfl

/-! ## The bound -/

theorem scanWindow_total {query : LogQuery} {state state' : Nat × List RawLog} {window : Int × Int}
    (h : scanWindow runtime endpoint maxLogs query state window = .ok state') :
    state'.1 = state.1 + answeredIn runtime endpoint query window ∧ state'.1 ≤ maxLogs := by
  obtain ⟨raw, hraw, h⟩ := bind_eq_ok.1 h
  obtain ⟨elements, helements, h⟩ := bind_eq_ok.1 h
  obtain ⟨_, hbound, h⟩ := bind_eq_ok.1 h
  obtain ⟨found, -, h⟩ := bind_eq_ok.1 h
  cases h
  rw [exceedIf_eq_ok, decide_eq_false_iff_not, not_lt] at hbound
  refine ⟨?_, hbound⟩
  rw [answeredIn, hraw]
  simp only [orFail_eq_ok.1 helements, Option.getD_some]

theorem scanQueries_total {queries : List LogQuery} {state : Nat × Keyed (Prod.fst : String × List RawLog → String)}
    (h : queries.foldlM (scanQuery runtime endpoint pin maxRangeBlocks maxLogs) (0, ∅) = .ok state) :
    answeredAll runtime endpoint pin maxRangeBlocks queries ≤ maxLogs := by
  obtain ⟨hsum, hbound⟩ := count_foldlM Prod.fst (answeredTo runtime endpoint pin maxRangeBlocks) maxLogs
    (fun state query state' hstate hquery => by
      obtain ⟨⟨total, found⟩, hscan, hquery⟩ := bind_eq_ok.1 hquery
      cases hquery
      exact count_foldlM Prod.fst (answeredIn runtime endpoint query) maxLogs
        (fun _ _ _ _ hwindow => scanWindow_total hwindow) hstate hscan)
    (Nat.zero_le _) h
  have hsum : state.1 = answeredAll runtime endpoint pin maxRangeBlocks queries := by
    rw [hsum, Nat.zero_add]
    rfl
  exact hsum ▸ hbound

/-! ## Readings -/

/-- The logs read under a query are the answers to its windows, each from the window that asked for it and under the
hash of its block. -/
structure ChainReading.LogsOf (runtime : ChainReader) (endpoint : Endpoint) (pin : ChainPin) (maxRangeBlocks : Nat)
    (r : ChainReading) (query : LogQuery) (logs : List RawLog) : Prop where
  answers : ∃ answers, logs = sortOn logOrder answers.flatten ∧ List.Forall₂ (fun window found =>
    answerWindow runtime endpoint query window = .ok found ∧ ∀ l ∈ found, window.1 ≤ l.blockNumber ∧ l.blockNumber ≤ window.2)
    (windowsOf maxRangeBlocks query.fromBlock pin.blockNumber) answers
  hashes : ∀ l ∈ logs, ∃ b, r.blocks.lookup l.blockNumber = some (l.blockNumber, b) ∧
    readBlock runtime endpoint l.blockNumber = .ok b ∧ b.hash = l.blockHash

/-- A reading was checked against the blocks it holds, and against the bound on its logs. -/
theorem readChain_checked {queries : Queries} {r : ChainReading}
    (h : readChain runtime endpoint pin maxRangeBlocks maxLogs queries = .ok r) :
    (∀ row ∈ r.logs.rows, ∀ l ∈ row.2, (r.blocks.lookup l.blockNumber).map (·.2.hash) = some l.blockHash) ∧
      answeredAll runtime endpoint pin maxRangeBlocks queries.logs ≤ maxLogs := by
  obtain ⟨pinned, -, h⟩ := bind_eq_ok.1 h
  obtain ⟨_, -, h⟩ := bind_eq_ok.1 h
  obtain ⟨⟨total, logs⟩, hlogs, h⟩ := bind_eq_ok.1 h
  obtain ⟨blocks, -, h⟩ := bind_eq_ok.1 h
  obtain ⟨_, hhashes, h⟩ := bind_eq_ok.1 h
  obtain ⟨calls, -, h⟩ := bind_eq_ok.1 h
  obtain ⟨after, -, h⟩ := bind_eq_ok.1 h
  obtain ⟨_, -, h⟩ := bind_eq_ok.1 h
  cases h
  refine ⟨fun row hrow l hl => ?_, scanQueries_total hlogs⟩
  rw [refuseIf_eq_ok, List.any_eq_false] at hhashes
  have hhash := hhashes l (List.mem_flatMap.2 ⟨row, hrow, hl⟩)
  rwa [decide_eq_true_eq, ne_eq, not_not] at hhash

theorem readChain_logsOf {queries : Queries} {r : ChainReading}
    (h : readChain runtime endpoint pin maxRangeBlocks maxLogs queries = .ok r) :
    List.Forall₂ (fun query row => row.1 = query.name ∧ r.LogsOf runtime endpoint pin maxRangeBlocks query row.2)
      queries.logs r.logs.rows := by
  have hholds := readChain_holds h
  have hhashes := (readChain_checked h).1
  have hmem : ∀ row ∈ r.logs.rows, ∀ l ∈ row.2, ∃ b, r.blocks.lookup l.blockNumber = some (l.blockNumber, b) ∧
      readBlock runtime endpoint l.blockNumber = .ok b ∧ b.hash = l.blockHash := by
    intro row hrow l hl
    obtain ⟨⟨height, b⟩, hlookup, hhash⟩ := Option.map_eq_some_iff.1 (hhashes row hrow l hl)
    obtain ⟨hblock, hheight⟩ := Keyed.lookup_eq_some.1 hlookup
    obtain ⟨height', -, hsame, hread⟩ := mem_of_forall₂ hholds.blocks _ hblock
    have hheight : height = l.blockNumber := hheight
    have hsame : height = height' := hsame
    subst hheight
    subst hsame
    exact ⟨b, hlookup, hread, hhash⟩
  have hrows := hholds.logs
  clear hhashes hholds h
  generalize queries.logs = asked at hrows ⊢
  generalize r.logs.rows = rows at hrows hmem ⊢
  induction hrows with
  | nil => exact .nil
  | cons hfirst _ ih =>
    refine .cons ⟨hfirst.1, ⟨?_, hmem _ List.mem_cons_self⟩⟩ (ih fun row hrow => hmem row (List.mem_cons_of_mem _ hrow))
    obtain ⟨answers, hanswers, hsorted⟩ := bind_eq_ok.1 hfirst.2
    exact ⟨answers, (Except.ok.inj hsorted).symm, (mapM_eq_ok.1 hanswers).imp fun window found hfound => ⟨hfound, (answerWindow_ok hfound).2⟩⟩

theorem readChain_logCount {queries : Queries} {r : ChainReading}
    (h : readChain runtime endpoint pin maxRangeBlocks maxLogs queries = .ok r) :
    (r.logs.rows.flatMap (·.2)).length = answeredAll runtime endpoint pin maxRangeBlocks queries.logs := by
  have hrows := (readChain_holds h).logs
  generalize queries.logs = asked at hrows ⊢
  generalize r.logs.rows = rows at hrows ⊢
  induction hrows with
  | nil => rfl
  | cons hfirst _ ih =>
    rw [List.flatMap_cons, List.length_append, ih, answerLogs_length hfirst.2, answeredAll, answeredAll, List.map_cons,
      List.sum_cons]

/-- The windows of a scan are its blocks, each once and in order; what a reading holds is all that was answered, each
log from its window and under the hash of its block; and beyond the bound there is no reading. -/
theorem readChain_windows (runtime : ChainReader) (endpoint : Endpoint) (pin : ChainPin) (maxRangeBlocks maxLogs : Nat)
    (hwidth : 1 ≤ maxRangeBlocks) :
    (∀ start last,
      (∀ fuel, (last + 1 - start).toNat ≤ fuel →
        windowsFrom maxRangeBlocks last fuel start = windowsOf maxRangeBlocks start last) ∧
      (windowsOf maxRangeBlocks start last).flatMap (fun window => heights window.1 window.2) = heights start last ∧
      ∀ window ∈ windowsOf maxRangeBlocks start last, window.1 ≤ window.2 ∧ window.2 - window.1 < maxRangeBlocks) ∧
    (∀ queries r, readChain runtime endpoint pin maxRangeBlocks maxLogs queries = .ok r →
      List.Forall₂ (fun query row => row.1 = query.name ∧ r.LogsOf runtime endpoint pin maxRangeBlocks query row.2)
        queries.logs r.logs.rows ∧
      (r.logs.rows.flatMap (·.2)).length = answeredAll runtime endpoint pin maxRangeBlocks queries.logs) ∧
    ∀ queries : Queries, maxLogs < answeredAll runtime endpoint pin maxRangeBlocks queries.logs →
      ∃ failure, readChain runtime endpoint pin maxRangeBlocks maxLogs queries = .error failure := by
  refine ⟨fun start last => ⟨fun fuel hfuel => windowsFrom_enough hwidth hfuel (le_refl _),
    windowsFrom_cover hwidth (le_refl _), windowsFrom_formed hwidth⟩, fun queries r h => ⟨readChain_logsOf h, readChain_logCount h⟩,
    fun queries hcount => ?_⟩
  cases hread : readChain runtime endpoint pin maxRangeBlocks maxLogs queries with
  | error failure => exact ⟨failure, rfl⟩
  | ok r => exact absurd (readChain_checked hread).2 (by omega)

end Reading

/-! ### A reading in three windows -/

def plainHash : String :=
  "0x0000000000000000000000000000000000000000000000000000000000000000"

/-- Every block has one hash, and every window one log, in its first block. -/
def plainReader : ChainReader where
  read _ operation := match operation with
    | .blockByRef (.number n) => .ok (.obj [("number", .str ("0x" ++ toString n)), ("hash", .str plainHash),
        ("timestamp", .str "0x1")])
    | .logs start _ _ _ => .ok (.arr [.obj [("blockNumber", .str ("0x" ++ toString start)), ("logIndex", .str "0x0"),
        ("address", .str "0xaa"), ("topics", .arr [.str plainHash]), ("data", .str "0x"), ("removed", .bool false),
        ("blockHash", .str plainHash), ("transactionHash", .str plainHash)]])
    | _ => .error { name := "Unanswered", message := "" }
  now _ := 0

def plainEndpoint : Endpoint where
  id := ⟨"ep", by decide⟩
  trustDomain := ⟨"td", by decide⟩
  providerGroup := ⟨"pg", by decide⟩
  role := .primary
  secretRef := "RPC"
  archiveDepth := .full

def plainQueries : Queries where
  logs := [{ name := "home", address := "0xaa", topics := [none], fromBlock := 5 }]
  calls := []
  logNames_nodup := by decide
  callNames_nodup := by decide
  logNames_ascii := by simp [Ascii]
  callNames_ascii := by simp

def plainPin : ChainPin where
  blockchainId := "c"
  blockNumber := 9
  blockHash := plainHash

theorem plainReader_reads : ∃ r, readChain plainReader plainEndpoint plainPin 2 3 plainQueries = .ok r := by
  have hok : (readChain plainReader plainEndpoint plainPin 2 3 plainQueries).toOption.isSome = true := by decide +kernel
  cases hread : readChain plainReader plainEndpoint plainPin 2 3 plainQueries with
  | error failure => rw [hread] at hok; cases hok
  | ok r => exact ⟨r, rfl⟩

/-- Three logs in three windows are read whole, and with room for two there is no reading. -/
theorem readChain_windows_three :
    (windowsOf 2 5 9).flatMap (fun window => heights window.1 window.2) = heights 5 9 ∧
    (∃ r, readChain plainReader plainEndpoint plainPin 2 3 plainQueries = .ok r ∧ (r.logs.rows.flatMap (·.2)).length = 3) ∧
    ∃ failure, readChain plainReader plainEndpoint plainPin 2 2 plainQueries = .error failure := by
  have hall : answeredAll plainReader plainEndpoint plainPin 2 plainQueries.logs = 3 := by decide
  obtain ⟨r, hread⟩ := plainReader_reads
  have hcount := ((readChain_windows plainReader plainEndpoint plainPin 2 3 (by decide)).2.1 plainQueries r hread).2
  exact ⟨((readChain_windows plainReader plainEndpoint plainPin 2 3 (by decide)).1 5 9).2.1, ⟨r, hread, hcount.trans hall⟩,
    (readChain_windows plainReader plainEndpoint plainPin 2 2 (by decide)).2.2 plainQueries (by rw [hall]; decide)⟩

end IcttSentinel.Collector
