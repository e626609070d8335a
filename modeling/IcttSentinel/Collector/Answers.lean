/-
What a reading holds. A chain that was read holds, under the name of every query, exactly what the endpoint
answers to it, in plain texts; so two readings with one canonical text hold the same answers.
-/
import IcttSentinel.Collector.Read
import IcttSentinel.Lib.Traversal

namespace IcttSentinel.Collector

open IcttSentinel.Config IcttSentinel.Lib IcttSentinel.RpcQuorum IcttSentinel.Storage
open IcttSentinel.Evidence

/-! ## Answers -/

section Answers

variable (runtime : ChainReader) (endpoint : Endpoint) (pin : ChainPin) (maxRangeBlocks : Nat)

/-- The well-formed logs of one window. -/
def answerWindow (query : LogQuery) (window : Int × Int) : Except Failure (List RawLog) := do
  let raw ← runtime.read endpoint (.logs window.1 window.2 (some query.address) (some query.topics))
  let elements ← orFail "ReadingRefused" "log response is not an array" raw.elements?
  elements.mapM (decodeLog query window.1 window.2)

/-- What an endpoint answers to a log query up to the pin. -/
def answerLogs (query : LogQuery) : Except Failure (List RawLog) := do
  let found ← (windowsOf maxRangeBlocks query.fromBlock pin.blockNumber).mapM (answerWindow runtime endpoint query)
  return sortOn logOrder found.flatten

/-- What an endpoint answers to a call at the pin. -/
def answerCall (call : CallQuery) : Except Failure String := do
  let raw ← runtime.read endpoint (.call call.to_ call.data pin.blockNumber)
  orFail "ReadingRefused" "call result is not hex" (raw.string?.filter isHexData)

end Answers

theorem refuseIf_eq_ok {refused : Bool} {message : String} {u : Unit} : refuseIf refused message = .ok u ↔ refused = false := by
  cases refused
  · exact ⟨fun _ => rfl, fun _ => rfl⟩
  · exact ⟨fun h => (nomatch h), fun h => (nomatch h)⟩

theorem exceedIf_eq_ok {exceeded : Bool} {message : String} {u : Unit} : exceedIf exceeded message = .ok u ↔ exceeded = false := by
  cases exceeded
  · exact ⟨fun _ => rfl, fun _ => rfl⟩
  · exact ⟨fun h => (nomatch h), fun h => (nomatch h)⟩

theorem orFail_eq_ok {α : Type} {name message : String} {o : Option α} {a : α} : orFail name message o = .ok a ↔ o = some a := by
  cases o with
  | none => exact ⟨fun h => (nomatch h), fun h => (nomatch h)⟩
  | some b => simp only [orFail, Except.ok.injEq, Option.some.injEq]

/-! ## Plain texts -/

theorem ascii_of_isLowerHex {c : Char} (h : isLowerHex c = true) : c.toNat < 128 := by
  unfold isLowerHex at h
  rcases Bool.or_eq_true _ _ ▸ h with h | h
  · have hdigit : c.toNat ≤ '9'.toNat := (Char.isDigit_iff_toNat.1 h).2
    exact Nat.lt_of_le_of_lt hdigit (by decide)
  · rw [Bool.and_eq_true, decide_eq_true_iff, decide_eq_true_iff] at h
    have hbound : c.toNat ≤ 'f'.toNat := h.2
    exact Nat.lt_of_le_of_lt hbound (by decide)

/-- Hexadecimal digits behind a plain start are plain. -/
theorem ascii_of_hexDigits {start : List Char} {s : String} (hstart : start.isPrefixOf s.toList = true)
    (hplain : ∀ c ∈ start, c.toNat < 128) (h : (s.toList.drop start.length).all isLowerHex = true) : Ascii s := by
  obtain ⟨rest, hrest⟩ := List.isPrefixOf_iff_prefix.1 hstart
  rw [← hrest, List.drop_left, List.all_eq_true] at h
  intro c hc
  rw [← hrest, List.mem_append] at hc
  rcases hc with hc | hc
  · exact hplain c hc
  · exact ascii_of_isLowerHex (h c hc)

theorem ascii_of_hash {s : String} (h : matchesHex "0x" 64 s = true) : Ascii s := by
  unfold matchesHex at h
  rw [Bool.and_eq_true, Bool.and_eq_true] at h
  exact ascii_of_hexDigits h.1.1 (by decide) h.2

theorem ascii_of_hexData {s : String} (h : isHexData s = true) : Ascii s := by
  unfold isHexData at h
  rw [Bool.and_eq_true, Bool.and_eq_true] at h
  exact ascii_of_hexDigits h.1.1 (by decide) h.2

theorem hexDigitValue_nonneg {c : Char} (h : isLowerHex c = true) : 0 ≤ hexDigitValue c := by
  unfold hexDigitValue
  unfold isLowerHex at h
  split
  · rename_i hdigit
    have hbounds := Char.isDigit_iff_toNat.1 hdigit
    have hzero : '0'.toNat = 48 := rfl
    omega
  · rename_i hdigit
    rw [Bool.or_eq_true, Bool.and_eq_true, decide_eq_true_iff, decide_eq_true_iff] at h
    have hletter : 'a'.toNat ≤ c.toNat := (h.resolve_left hdigit).1
    omega

theorem hexValue_nonneg {s : String} (h : isHexQuantity s = true) : 0 ≤ hexValue s := by
  have hfold : ∀ (cs : List Char) (n : Int), 0 ≤ n → (∀ c ∈ cs, isLowerHex c = true) →
      0 ≤ cs.foldl (fun n c => 16 * n + hexDigitValue c) n := by
    intro cs
    induction cs with
    | nil => exact fun n hn _ => hn
    | cons c cs ih =>
      intro n hn hcs
      have hc := hexDigitValue_nonneg (hcs c List.mem_cons_self)
      have hnext : 0 ≤ 16 * n + hexDigitValue c := by omega
      exact ih _ hnext fun d hd => hcs d (List.mem_cons_of_mem _ hd)
  apply hfold _ 0 (le_refl 0)
  unfold isHexQuantity at h
  split at h
  · rename_i c cs hs
    intro d hd
    rw [hs] at hd
    have hd : d ∈ c :: cs := hd
    rcases Bool.or_eq_true _ _ ▸ h with h | h
    · rw [Bool.and_eq_true, decide_eq_true_iff, List.isEmpty_iff] at h
      rw [h.1, h.2, List.mem_singleton] at hd
      rw [hd]
      rfl
    · rw [Bool.and_eq_true, List.all_eq_true] at h
      exact h.2 d hd
  · cases h

theorem hexQuantity_nonneg {value : Option Json} {n : Int} (h : hexQuantity value = .ok n) : 0 ≤ n := by
  obtain ⟨s, hs, hn⟩ := bind_eq_ok.1 h
  cases hn
  obtain ⟨-, hs⟩ := Option.filter_eq_some_iff.1 (orFail_eq_ok.1 hs)
  rw [Bool.and_eq_true] at hs
  exact hexValue_nonneg hs.1

theorem ascii_of_bytes32 {value : Option Json} {s : String} (h : bytes32 value = .ok s) : Ascii s := by
  obtain ⟨-, hs⟩ := Option.filter_eq_some_iff.1 (orFail_eq_ok.1 h)
  exact ascii_of_hash hs

/-- The texts of a decoded log are plain, and it comes from the address that was asked for. -/
structure RawLog.Plain (query : LogQuery) (l : RawLog) : Prop where
  address : l.address = query.address
  topics : ∀ t ∈ l.topics, Ascii t
  data : Ascii l.data
  blockHash : Ascii l.blockHash
  transactionHash : Ascii l.transactionHash
  logIndex : isSafeInteger l.logIndex = true

theorem decodeLog_plain {query : LogQuery} {start stop : Int} {value : Json} {l : RawLog}
    (h : decodeLog query start stop value = .ok l) : l.Plain query := by
  obtain ⟨object, -, h⟩ := bind_eq_ok.1 h
  obtain ⟨n, -, h⟩ := bind_eq_ok.1 h
  obtain ⟨logIndex, hindex, h⟩ := bind_eq_ok.1 h
  obtain ⟨address, haddress, h⟩ := bind_eq_ok.1 h
  obtain ⟨elements, -, h⟩ := bind_eq_ok.1 h
  obtain ⟨topics, htopics, h⟩ := bind_eq_ok.1 h
  obtain ⟨data, hdata, h⟩ := bind_eq_ok.1 h
  obtain ⟨_, hbounds, h⟩ := bind_eq_ok.1 h
  obtain ⟨_, -, h⟩ := bind_eq_ok.1 h
  obtain ⟨blockHash, hblock, h⟩ := bind_eq_ok.1 h
  obtain ⟨transactionHash, htransaction, h⟩ := bind_eq_ok.1 h
  cases h
  refine ⟨?_, ?_, ?_, ascii_of_bytes32 hblock, ascii_of_bytes32 htransaction, ?_⟩
  · obtain ⟨-, haddress⟩ := Option.filter_eq_some_iff.1 (orFail_eq_ok.1 haddress)
    exact of_decide_eq_true haddress
  · intro t ht
    obtain ⟨element, -, helement⟩ := mem_mapM_ok htopics ht
    exact ascii_of_hash (Option.filter_eq_some_iff.1 (orFail_eq_ok.1 helement)).2
  · obtain ⟨-, hdata⟩ := Option.filter_eq_some_iff.1 (orFail_eq_ok.1 hdata)
    exact ascii_of_hexData hdata
  · have hnonneg := hexQuantity_nonneg hindex
    rw [refuseIf_eq_ok, Bool.or_eq_false_iff, decide_eq_false_iff_not] at hbounds
    have hsafe : logIndex.natAbs < 2 ^ 53 := by omega
    exact decide_eq_true hsafe

/-! ## Readings -/

/-- The heights whose blocks a reading holds. -/
def heightsOf (logs : Keyed (Prod.fst : String × List RawLog → String)) : List Int :=
  sortOn id ((logs.rows.flatMap (·.2)).map (·.blockNumber)).eraseDups

/-- A reading holds what one endpoint answers. -/
structure ChainReading.Holds (runtime : ChainReader) (endpoint : Endpoint) (pin : ChainPin) (maxRangeBlocks : Nat)
    (queries : Queries) (r : ChainReading) : Prop where
  atPin : r.pin.blockNumber = pin.blockNumber ∧ r.pin.blockHash = pin.blockHash
  pinned : ∃ b, readBlock runtime endpoint pin.blockNumber = .ok b ∧ b.hash = pin.blockHash
  logs : List.Forall₂ (fun query row => row.1 = query.name ∧ answerLogs runtime endpoint pin maxRangeBlocks query = .ok row.2)
    queries.logs r.logs.rows
  blocks : List.Forall₂ (fun height row => row.1 = height ∧ readBlock runtime endpoint height = .ok row.2)
    (heightsOf r.logs) r.blocks.rows
  calls : List.Forall₂ (fun call row => row.1 = call.name ∧ answerCall runtime endpoint pin call = .ok row.2)
    queries.calls r.calls.rows

section Holds

variable {runtime : ChainReader} {endpoint : Endpoint} {pin : ChainPin} {maxRangeBlocks maxLogs : Nat}

/-- A scan that is not cut off collects the answers of its windows. -/
theorem scanWindows_ok {query : LogQuery} {windows : List (Int × Int)} {state state' : Nat × List RawLog}
    (h : windows.foldlM (scanWindow runtime endpoint maxLogs query) state = .ok state') :
    ∃ answers, windows.mapM (answerWindow runtime endpoint query) = .ok answers ∧ state'.2 = state.2 ++ answers.flatten := by
  induction windows generalizing state with
  | nil =>
    cases h
    exact ⟨[], rfl, (List.append_nil _).symm⟩
  | cons window windows ih =>
    rw [List.foldlM_cons] at h
    obtain ⟨state₁, hwindow, h⟩ := bind_eq_ok.1 h
    obtain ⟨raw, hraw, hwindow⟩ := bind_eq_ok.1 hwindow
    obtain ⟨elements, helements, hwindow⟩ := bind_eq_ok.1 hwindow
    obtain ⟨_, -, hwindow⟩ := bind_eq_ok.1 hwindow
    obtain ⟨found, hfound, hwindow⟩ := bind_eq_ok.1 hwindow
    cases hwindow
    obtain ⟨answers, hanswers, hstate⟩ := ih h
    have hanswer : answerWindow runtime endpoint query window = .ok found :=
      bind_eq_ok.2 ⟨raw, hraw, bind_eq_ok.2 ⟨elements, helements, hfound⟩⟩
    refine ⟨found :: answers, ?_, ?_⟩
    · rw [List.mapM_cons]
      exact bind_eq_ok.2 ⟨found, hanswer, bind_eq_ok.2 ⟨answers, hanswers, rfl⟩⟩
    · rw [hstate, List.flatten_cons, List.append_assoc]

theorem scanQuery_ok {query : LogQuery} {state state' : Nat × Keyed (Prod.fst : String × List RawLog → String)}
    (h : scanQuery runtime endpoint pin maxRangeBlocks maxLogs state query = .ok state') :
    ∃ row : String × List RawLog, row.1 = query.name ∧ answerLogs runtime endpoint pin maxRangeBlocks query = .ok row.2 ∧
      state'.2 = state.2.upsert row := by
  obtain ⟨⟨total, found⟩, hscan, h⟩ := bind_eq_ok.1 h
  cases h
  obtain ⟨answers, hanswers, hfound⟩ := scanWindows_ok hscan
  refine ⟨(query.name, sortOn logOrder found), rfl, ?_, rfl⟩
  have hflat : found = answers.flatten := hfound
  exact bind_eq_ok.2 ⟨answers, hanswers, by rw [hflat]; rfl⟩

theorem readChain_holds {queries : Queries} {r : ChainReading}
    (h : readChain runtime endpoint pin maxRangeBlocks maxLogs queries = .ok r) :
    r.Holds runtime endpoint pin maxRangeBlocks queries := by
  obtain ⟨pinned, hpinned, h⟩ := bind_eq_ok.1 h
  obtain ⟨_, hhash, h⟩ := bind_eq_ok.1 h
  obtain ⟨⟨total, logs⟩, hlogs, h⟩ := bind_eq_ok.1 h
  obtain ⟨blocks, hblocks, h⟩ := bind_eq_ok.1 h
  obtain ⟨_, -, h⟩ := bind_eq_ok.1 h
  obtain ⟨calls, hcalls, h⟩ := bind_eq_ok.1 h
  obtain ⟨after, -, h⟩ := bind_eq_ok.1 h
  obtain ⟨_, -, h⟩ := bind_eq_ok.1 h
  cases h
  -- each of the three loops fills a table with one row for each query
  obtain ⟨logRows, hlogRows, hlogs⟩ := Keyed.rows_foldlM Prod.snd LogQuery.name
    (fun query row => answerLogs runtime endpoint pin maxRangeBlocks query = .ok row.2)
    (fun _ _ _ hstep => scanQuery_ok hstep) (by simpa using queries.logNames_nodup) hlogs
  obtain ⟨blockRows, hblockRows, hblocks⟩ := Keyed.rows_foldlM id id
    (fun height row => readBlock runtime endpoint height = .ok row.2)
    (fun blocks height blocks' hstep => by
      obtain ⟨b, hb, hstep⟩ := bind_eq_ok.1 hstep
      cases hstep
      exact ⟨(height, b), rfl, hb, rfl⟩)
    (by simpa using (sortOn_perm _ _).nodup_iff.2 (nodup_eraseDups _)) hblocks
  obtain ⟨callRows, hcallRows, hcalls⟩ := Keyed.rows_foldlM id CallQuery.name
    (fun call row => answerCall runtime endpoint pin call = .ok row.2)
    (fun calls call calls' hstep => by
      obtain ⟨raw, hraw, hstep⟩ := bind_eq_ok.1 hstep
      obtain ⟨result, hresult, hstep⟩ := bind_eq_ok.1 hstep
      cases hstep
      exact ⟨(call.name, result), rfl, bind_eq_ok.2 ⟨raw, hraw, hresult⟩, rfl⟩)
    (by simpa using queries.callNames_nodup) hcalls
  have hlogRows : logs.rows = logRows := hlogRows
  have hblockRows : blocks.rows = blockRows := hblockRows
  have hcallRows : calls.rows = callRows := hcallRows
  refine ⟨⟨rfl, rfl⟩, ⟨pinned, hpinned, ?_⟩, ?_, ?_, ?_⟩
  · rw [refuseIf_eq_ok, decide_eq_false_iff_not, ne_eq, not_not] at hhash
    exact hhash
  · rw [hlogRows]
    exact hlogs
  · rw [hblockRows]
    exact hblocks
  · rw [hcallRows]
    exact hcalls

/-- What is answered to a log query is plain. -/
theorem answerLogs_plain {query : LogQuery} {logs : List RawLog}
    (h : answerLogs runtime endpoint pin maxRangeBlocks query = .ok logs) : ∀ l ∈ logs, l.Plain query := by
  obtain ⟨answers, hanswers, h⟩ := bind_eq_ok.1 h
  cases h
  intro l hl
  rw [mem_sortOn, List.mem_flatten] at hl
  obtain ⟨found, hfound, hl⟩ := hl
  obtain ⟨window, -, hwindow⟩ := mem_mapM_ok hanswers hfound
  obtain ⟨raw, -, hwindow⟩ := bind_eq_ok.1 hwindow
  obtain ⟨elements, -, hwindow⟩ := bind_eq_ok.1 hwindow
  obtain ⟨value, -, hvalue⟩ := mem_mapM_ok hwindow hl
  exact decodeLog_plain hvalue

theorem answerCall_ascii {call : CallQuery} {result : String} (h : answerCall runtime endpoint pin call = .ok result) :
    Ascii result := by
  obtain ⟨raw, -, h⟩ := bind_eq_ok.1 h
  exact ascii_of_hexData (Option.filter_eq_some_iff.1 (orFail_eq_ok.1 h)).2

theorem readBlock_ascii {number : Int} {b : BlockRecord} (h : readBlock runtime endpoint number = .ok b) : Ascii b.hash := by
  obtain ⟨_, -, h⟩ := bind_eq_ok.1 h
  obtain ⟨_, -, h⟩ := bind_eq_ok.1 h
  obtain ⟨_, -, h⟩ := bind_eq_ok.1 h
  obtain ⟨hash, hhash, h⟩ := bind_eq_ok.1 h
  obtain ⟨_, -, h⟩ := bind_eq_ok.1 h
  cases h
  exact ascii_of_bytes32 hhash

end Holds

/-! ## Texts of readings -/

section Texts

variable {nfc : Nfc}

variable (nfc) in
theorem RawLog.Plain.form {query : LogQuery} {l : RawLog} (h : l.Plain query) : ∃ c, canon nfc l.toJs = some c :=
  exists_canon_record ["address", "topics", "data", "blockNumber", "blockHash", "transactionHash", "logIndex"] rfl
    (by decide) (by decide)
    ⟨⟨_, rfl⟩, exists_canon_array fun _ _ => ⟨_, rfl⟩, ⟨_, rfl⟩, ⟨_, rfl⟩, ⟨_, rfl⟩, ⟨_, rfl⟩, _, if_pos h.logIndex⟩

/-- Plain logs can be told apart by their form. -/
theorem RawLog.Plain.inj {query : LogQuery} {l l' : RawLog} (h : l.Plain query) (h' : l'.Plain query)
    (hform : canon nfc l.toJs = canon nfc l'.toJs) : l = l' := by
  obtain ⟨c, hc⟩ := h.form nfc
  have hc' : canon nfc l'.toJs = some c := hform ▸ hc
  have htopics : canon nfc (.array .str l.topics) = canon nfc (.array .str l'.topics) :=
    canon_field hc hc' (k := "topics") (by simp) (by simp) rfl rfl
  obtain ⟨ts, hts⟩ : ∃ ts, canon nfc (.array .str l.topics) = some ts := exists_canon_array fun _ _ => ⟨_, rfl⟩
  have htexts : l.topics = l'.topics := by
    refine eq_of_map_eq (fun t ht t' ht' htt => ?_) (canon_array hts (htopics ▸ hts))
    rw [canon_ascii (h.topics t ht), canon_ascii (h'.topics t' ht')] at htt
    exact JsValue.str.inj (Option.some.inj htt)
  have hdata : l.data = l'.data := h.data.inj h'.data (canon_text hc hc' "data" (by simp) (by simp))
  have hnumber : l.blockNumber = l'.blockNumber := canon_number hc hc' "blockNumber" (by simp) (by simp)
  have hblock : l.blockHash = l'.blockHash := h.blockHash.inj h'.blockHash (canon_text hc hc' "blockHash" (by simp) (by simp))
  have htransaction : l.transactionHash = l'.transactionHash :=
    h.transactionHash.inj h'.transactionHash (canon_text hc hc' "transactionHash" (by simp) (by simp))
  have hindex : l.logIndex = l'.logIndex := by
    have hforms : canon nfc (.integer l.logIndex) = canon nfc (.integer l'.logIndex) :=
      canon_field hc hc' (k := "logIndex") (by simp) (by simp) rfl rfl
    rw [canon, canon, if_pos h.logIndex, if_pos h'.logIndex] at hforms
    exact decimal_injective (JsValue.str.inj (Option.some.inj hforms))
  exact RawLog.ext (h.address.trans h'.address.symm) htexts hdata hnumber hblock htransaction hindex

variable (nfc) in
theorem BlockRecord.form (b : BlockRecord) : ∃ c, canon nfc b.toJs = some c :=
  exists_canon_record ["hash", "timestamp"] rfl (by decide) (by decide) ⟨⟨_, rfl⟩, _, rfl⟩

theorem BlockRecord.inj {b b' : BlockRecord} (h : Ascii b.hash) (h' : Ascii b'.hash)
    (hform : canon nfc b.toJs = canon nfc b'.toJs) : b = b' := by
  obtain ⟨c, hc⟩ := b.form nfc
  have hc' : canon nfc b'.toJs = some c := hform ▸ hc
  have hhash : b.hash = b'.hash := h.inj h' (canon_text hc hc' "hash" (by simp) (by simp))
  have htimestamp : b.timestamp = b'.timestamp := canon_number hc hc' "timestamp" (by simp) (by simp)
  exact BlockRecord.ext hhash htimestamp

namespace ChainReading.Holds

variable {runtime : ChainReader} {endpoint endpoint' : Endpoint} {pin : ChainPin} {maxRangeBlocks : Nat} {queries : Queries}
  {r r' : ChainReading}

theorem logs_plain (h : r.Holds runtime endpoint pin maxRangeBlocks queries) {row : String × List RawLog}
    (hrow : row ∈ r.logs.rows) : ∃ query ∈ queries.logs, row.1 = query.name ∧ ∀ l ∈ row.2, l.Plain query := by
  obtain ⟨query, hquery, hname, hanswer⟩ := mem_of_forall₂ h.logs row hrow
  exact ⟨query, hquery, hname, answerLogs_plain hanswer⟩

theorem blocks_ascii (h : r.Holds runtime endpoint pin maxRangeBlocks queries) {row : Int × BlockRecord}
    (hrow : row ∈ r.blocks.rows) : Ascii row.2.hash := by
  obtain ⟨height, -, -, hblock⟩ := mem_of_forall₂ h.blocks row hrow
  exact readBlock_ascii hblock

theorem calls_ascii (h : r.Holds runtime endpoint pin maxRangeBlocks queries) {row : String × String}
    (hrow : row ∈ r.calls.rows) : Ascii row.2 := by
  obtain ⟨call, -, -, hresult⟩ := mem_of_forall₂ h.calls row hrow
  exact answerCall_ascii hresult

variable (nfc) in
theorem logs_form (h : r.Holds runtime endpoint pin maxRangeBlocks queries) :
    ∃ c, canon nfc (.obj (r.logs.rows.map fun row => (row.1, .array RawLog.toJs row.2))) = some c := by
  refine exists_canon_rows id (fun row hrow => ?_) r.logs.nodup fun row hrow => exists_canon_array fun l hl => ?_
  · obtain ⟨query, hquery, hname, -⟩ := h.logs_plain hrow
    rw [hname]
    exact (queries.logNames_ascii query hquery).normalize
  · obtain ⟨query, -, -, hplain⟩ := h.logs_plain hrow
    exact (hplain l hl).form nfc

variable (nfc) in
theorem blocks_form (r : ChainReading) : ∃ c, canon nfc (.obj (r.blocks.rows.map fun row => (toString row.1, row.2.toJs))) = some c := by
  refine exists_canon_rows toString (fun row _ => normalize_decimal row.1) ?_ fun row _ => row.2.form nfc
  have hnames := r.blocks.nodup.map fun a b (hab : toString a = toString b) => decimal_injective hab
  rwa [List.map_map] at hnames

variable (nfc) in
theorem calls_form (h : r.Holds runtime endpoint pin maxRangeBlocks queries) :
    ∃ c, canon nfc (.obj (r.calls.rows.map fun row => (row.1, JsValue.str row.2))) = some c := by
  refine exists_canon_rows id (fun row hrow => ?_) r.calls.nodup fun row _ => ⟨_, rfl⟩
  obtain ⟨call, hcall, hname, -⟩ := mem_of_forall₂ h.calls row hrow
  rw [hname]
  exact (queries.callNames_ascii call hcall).normalize

variable (nfc) in
theorem form (h : r.Holds runtime endpoint pin maxRangeBlocks queries) : ∃ c, canon nfc r.toJs = some c :=
  exists_canon_record ["pin", "logs", "blocks", "calls"] rfl (by decide) (by decide)
    ⟨exists_canon_record ["blockNumber", "blockHash", "timestamp"] rfl (by decide) (by decide) ⟨⟨_, rfl⟩, ⟨_, rfl⟩, _, rfl⟩,
      h.logs_form nfc, blocks_form nfc r, h.calls_form nfc⟩

/-- Readings of one form, of the same queries at one pin, are the same. -/
theorem inj_form (h : r.Holds runtime endpoint pin maxRangeBlocks queries)
    (h' : r'.Holds runtime endpoint' pin maxRangeBlocks queries) (hform : canon nfc r.toJs = canon nfc r'.toJs) : r = r' := by
  obtain ⟨c, hc⟩ := h.form nfc
  have hc' : canon nfc r'.toJs = some c := hform ▸ hc
  -- only the timestamp of the pin is read from the form: number and hash are those asked for
  have hpin : r.pin = r'.pin := by
    have hforms : canon nfc r.pin.toJs = canon nfc r'.pin.toJs := canon_field hc hc' (k := "pin") (by simp) (by simp) rfl rfl
    obtain ⟨d, hd⟩ : ∃ d, canon nfc r.pin.toJs = some d :=
      exists_canon_record ["blockNumber", "blockHash", "timestamp"] rfl (by decide) (by decide) ⟨⟨_, rfl⟩, ⟨_, rfl⟩, _, rfl⟩
    have htimestamp : r.pin.timestamp = r'.pin.timestamp :=
      canon_number hd (hforms ▸ hd) "timestamp" (by simp) (by simp)
    have hnumber : r.pin.blockNumber = r'.pin.blockNumber := h.atPin.1.trans h'.atPin.1.symm
    have hhash : r.pin.blockHash = r'.pin.blockHash := h.atPin.2.trans h'.atPin.2.symm
    exact ReadingPin.ext hnumber hhash htimestamp
  have hlogs : r.logs = r'.logs := by
    have hforms : canon nfc (.obj (r.logs.rows.map fun row => (row.1, .array RawLog.toJs row.2))) =
        canon nfc (.obj (r'.logs.rows.map fun row => (row.1, .array RawLog.toJs row.2))) :=
      canon_field hc hc' (k := "logs") (by simp) (by simp) rfl rfl
    obtain ⟨d, hd⟩ := h.logs_form nfc
    refine Keyed.ext (rows_of_canon id hd (hforms ▸ hd) ?_ (fun _ => rfl) fun name logs logs' hl hl' hcanon => ?_)
    · exact (keys_of_forall₂ h.logs).trans (keys_of_forall₂ h'.logs).symm
    · obtain ⟨query, hquery, hname, hplain⟩ := h.logs_plain hl
      obtain ⟨query', hquery', hname', hplain'⟩ := h'.logs_plain hl'
      -- a name belongs to one query
      obtain rfl : query = query' :=
        List.inj_on_of_nodup_map queries.logNames_nodup hquery hquery' (hname.symm.trans hname')
      obtain ⟨e, he⟩ : ∃ e, canon nfc (.array RawLog.toJs logs) = some e := exists_canon_array fun l hl => (hplain l hl).form nfc
      exact eq_of_map_eq (fun l hl l' hl' hll => (hplain l hl).inj (hplain' l' hl') hll) (canon_array he (hcanon ▸ he))
  have hblocks : r.blocks = r'.blocks := by
    have hforms : canon nfc (.obj (r.blocks.rows.map fun row => (toString row.1, row.2.toJs))) =
        canon nfc (.obj (r'.blocks.rows.map fun row => (toString row.1, row.2.toJs))) :=
      canon_field hc hc' (k := "blocks") (by simp) (by simp) rfl rfl
    obtain ⟨d, hd⟩ := blocks_form nfc r
    refine Keyed.ext (rows_of_canon toString hd (hforms ▸ hd) ?_ (fun _ => rfl) fun height b b' hb hb' hcanon => ?_)
    · -- the same logs name the same heights
      have hheights : heightsOf r.logs = heightsOf r'.logs := by rw [hlogs]
      have hkeys := keys_of_forall₂ h.blocks
      rw [hheights] at hkeys
      exact hkeys.trans (keys_of_forall₂ h'.blocks).symm
    · exact BlockRecord.inj (h.blocks_ascii hb) (h'.blocks_ascii hb') hcanon
  have hcalls : r.calls = r'.calls := by
    have hforms : canon nfc (.obj (r.calls.rows.map fun row => (row.1, JsValue.str row.2))) =
        canon nfc (.obj (r'.calls.rows.map fun row => (row.1, JsValue.str row.2))) :=
      canon_field hc hc' (k := "calls") (by simp) (by simp) rfl rfl
    obtain ⟨d, hd⟩ := h.calls_form nfc
    refine Keyed.ext (rows_of_canon id hd (hforms ▸ hd) ?_ (fun _ => rfl) fun name result result' hr hr' hcanon => ?_)
    · exact (keys_of_forall₂ h.calls).trans (keys_of_forall₂ h'.calls).symm
    · rw [canon_ascii (h.calls_ascii hr), canon_ascii (h'.calls_ascii hr')] at hcanon
      exact JsValue.str.inj (Option.some.inj hcanon)
  exact ChainReading.ext hpin hlogs hblocks hcalls

end ChainReading.Holds

theorem dense_rawLog (l : RawLog) : Dense l.toJs :=
  dense_obj ⟨dense_str _, dense_array dense_str _, dense_str _, dense_str _, dense_str _, dense_str _, dense_integer _⟩

theorem dense_reading (r : ChainReading) : Dense r.toJs := by
  have hrows : ∀ {β : Type} (rows : List β) (f : β → String × JsValue), (∀ b, Dense (f b).2) → Dense (.obj (rows.map f)) := by
    intro β rows f hf
    refine .obj fun e he => ?_
    obtain ⟨b, -, rfl⟩ := List.mem_map.1 he
    exact hf b
  refine dense_obj ⟨dense_obj ⟨dense_str _, dense_str _, dense_str _⟩, ?_, ?_, ?_⟩
  · exact hrows _ _ fun row => dense_array dense_rawLog _
  · exact hrows _ _ fun row => dense_obj ⟨dense_str _, dense_str _⟩
  · exact hrows _ _ fun row => dense_str _

namespace ChainReading.Holds

variable {runtime : ChainReader} {endpoint endpoint' : Endpoint} {pin : ChainPin} {maxRangeBlocks : Nat} {queries : Queries}
  {r r' : ChainReading}

theorem exists_text (h : r.Holds runtime endpoint pin maxRangeBlocks queries) :
    ∃ text, canonicalStringify nfc r.toJs = .ok text := by
  obtain ⟨c, hc⟩ := h.form nfc
  exact ⟨c.text, canonicalStringify_ok_iff.2 ⟨c, hc, rfl⟩⟩

/-- Readings of the same queries at one pin that have one text are the same. -/
theorem inj_text (h : r.Holds runtime endpoint pin maxRangeBlocks queries)
    (h' : r'.Holds runtime endpoint' pin maxRangeBlocks queries) {text : String}
    (htext : canonicalStringify nfc r.toJs = .ok text) (htext' : canonicalStringify nfc r'.toJs = .ok text) : r = r' := by
  have halike := (text_eq_iff_of_dense htext htext' (dense_reading r) (dense_reading r')).1 rfl
  exact h.inj_form h' halike.canon_eq.1

end ChainReading.Holds

end Texts

end IcttSentinel.Collector
