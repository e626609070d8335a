/-
Interrupted discovery is one full scan: whatever invocations are run one after the other, each afresh or from the
checkpoint that is there, and wherever each of them ends, one that finds the census complete lists the registrations from
the census's first block up to the pin in chain order, and the checkpoint has passed only blocks on which enough
independent witnesses had the same logs.
-/
import IcttSentinel.Cli.Agreement

namespace IcttSentinel.Cli

open IcttSentinel.Collector IcttSentinel.Config IcttSentinel.Lib IcttSentinel.RpcQuorum
open IcttSentinel.Evidence (JsValue decimalValue decimalValue_toString isDecimal jsonParse property sampleNfc tokenHomeAddress)
open IcttSentinel.Storage (matchesHex)

/-! ## The checkpoint is read back as it was written -/

theorem readRow_json {start next : Int} {r r' : Registration} (h : readRow start next (JsValue.ofJson r.json) = .ok r') : r' = r := by
  rw [Registration.value_eq] at h
  obtain ⟨entries, hentries, h⟩ := bind_eq_ok.1 h
  cases hentries
  obtain ⟨address, haddress, h⟩ := bind_eq_ok.1 h
  obtain ⟨blockchainId, hchain, h⟩ := bind_eq_ok.1 h
  obtain ⟨blockHash, hblock, h⟩ := bind_eq_ok.1 h
  obtain ⟨txHash, htx, h⟩ := bind_eq_ok.1 h
  obtain ⟨collateral, hcollateral, h⟩ := bind_eq_ok.1 h
  obtain ⟨decimals, hdecimals, h⟩ := bind_eq_ok.1 h
  obtain ⟨blockNumber, hnumber, h⟩ := bind_eq_ok.1 h
  obtain ⟨n, -, h⟩ := bind_eq_ok.1 h
  obtain ⟨_, -, h⟩ := bind_eq_ok.1 h
  obtain ⟨logIndex, hindex, h⟩ := bind_eq_ok.1 h
  cases h
  have hfilter : ∀ {α : Type} {name message : String} {o : Option α} {p : α → Bool} {a b : α},
      orFail name message (o.filter p) = .ok a → o = some b → a = b := by
    intro α name message o p a b ha hb
    have hmem := (Option.filter_eq_some_iff.1 (orFail_eq_ok.1 ha)).1
    exact Option.some.inj (hmem.symm.trans hb)
  refine Registration.ext (hfilter hchain ?_) (hfilter haddress ?_) (hfilter hcollateral ?_) (hfilter hdecimals ?_)
    (Option.some.inj ((orFail_eq_ok.1 hnumber).symm.trans ?_)) (hfilter hblock ?_) (hfilter htx ?_)
    (Option.some.inj ((orFail_eq_ok.1 hindex).symm.trans ?_)) <;> simp [property, jsString?, jsInteger?]

theorem nonneg_of_isDecimal {n : Int} (h : isDecimal (toString n) = true) : 0 ≤ n := by
  cases n with
  | ofNat m => exact Int.natCast_nonneg m
  | negSucc m =>
    have htext : (toString (Int.negSucc m)).toList = '-' :: (m + 1).repr.toList := by
      show ("-" ++ (m + 1).repr).toList = _
      rw [String.toList_append]
      rfl
    unfold isDecimal at h
    rw [htext] at h
    cases h

namespace Survey

variable {s : Survey} {call : Invocation} {pin : ChainPin}

theorem inputUnless_eq_ok {ok : Bool} {message : String} {u : Unit} : inputUnless ok message = .ok u ↔ ok = true := by
  cases ok
  · exact ⟨fun h => (nomatch h), fun h => (nomatch h)⟩
  · exact ⟨fun _ => rfl, fun _ => rfl⟩

/-- The members of a checkpoint that was written. -/
def writtenEntries (binding contentHash : String) (p : Progress Registration) : List (String × JsValue) :=
  [("schemaVersion", .str checkpointVersion), ("binding", .str binding), ("next", .str (toString p.next)),
    ("registrations", .arr (JsValue.ofElements (p.found.map Registration.json))), ("contentHash", .str contentHash)]

theorem jsonParse_written (binding contentHash : String) (p : Progress Registration) :
    jsonParse (Json.stringify (.obj (checkpointFields binding p ++ [("contentHash", .str contentHash)]))) =
      some (.obj (writtenEntries binding contentHash p)) := by
  rw [jsonParse, Json.parse_stringify, Option.map_some]
  simp [checkpointFields, writtenEntries, JsValue.ofJson, JsValue.ofFields, IcttSentinel.Evidence.setProperty]

theorem ofElements_eq (js : List Json) : JsValue.ofElements js = (js.map JsValue.ofJson).map some := by
  induction js with
  | nil => rfl
  | cons j js ih => rw [JsValue.ofElements, ih, List.map_cons, List.map_cons]

theorem checkpointParts_written {binding binding' contentHash contentHash' next : String} {p : Progress Registration}
    {rows : List JsValue}
    (h : checkpointParts binding contentHash (writtenEntries binding' contentHash' p)
      ((writtenEntries binding' contentHash' p).filter fun e => e.1 ≠ "contentHash") = some (next, rows)) :
    decimalValue next = p.next ∧ rows = p.found.map fun r => JsValue.ofJson r.json := by
  obtain ⟨next', hnext, h⟩ := Option.bind_eq_some_iff.1 h
  obtain ⟨rows', hrows, h⟩ := Option.bind_eq_some_iff.1 h
  split at h
  · cases h
    obtain ⟨hnext, hdecimal⟩ := Option.filter_eq_some_iff.1 hnext
    have htext : next = toString p.next := by
      have hread : some (toString p.next) = some next := hnext
      exact (Option.some.inj hread).symm
    have hread : some (JsValue.ofElements (p.found.map Registration.json)).reduceOption = some rows := hrows
    refine ⟨?_, ?_⟩
    · rw [htext] at hdecimal ⊢
      exact decimalValue_toString (nonneg_of_isDecimal hdecimal)
    · rw [← Option.some.inj hread, ofElements_eq, List.reduceOption, List.filterMap_map, List.map_map]
      exact List.filterMap_some
  · cases h

/-- What is resumed from is the progress that was stored. -/
theorem readCheckpoint_text {binding text : String} {p q : Progress Registration} (htext : s.checkpointText p = .ok text)
    (h : s.readCheckpoint pin binding text = .ok q) : q = p := by
  obtain ⟨binding', -, htext⟩ := bind_eq_ok.1 htext
  obtain ⟨contentHash, -, htext⟩ := bind_eq_ok.1 htext
  cases htext
  obtain ⟨value, hvalue, h⟩ := bind_eq_ok.1 h
  rw [jsonParse_written] at hvalue
  cases hvalue
  obtain ⟨entries, hentries, h⟩ := bind_eq_ok.1 h
  cases hentries
  obtain ⟨contentHash', -, h⟩ := bind_eq_ok.1 h
  obtain ⟨⟨next, rows⟩, hparts, h⟩ := bind_eq_ok.1 h
  obtain ⟨_, -, h⟩ := bind_eq_ok.1 h
  obtain ⟨found, hfound, h⟩ := bind_eq_ok.1 h
  cases h
  obtain ⟨hnext, hrows⟩ := checkpointParts_written (orFail_eq_ok.1 hparts)
  rw [hrows] at hfound
  have hsame : found = p.found := by
    have hpairs := mapM_eq_ok.1 hfound
    rw [List.forall₂_map_left_iff] at hpairs
    exact (List.forall₂_eq_eq_eq ▸ hpairs.imp fun r r' hr => (readRow_json hr).symm : p.found = found).symm
  rw [hnext, hsame]

/-! ## One invocation -/

/-- The checkpoint holds the progress that is stored, or there is none. -/
def Holds (s : Survey) : Option (Progress Registration) → Option String → Prop
  | none, file => file = none
  | some p, file => ∃ text, s.checkpointText p = .ok text ∧ file = some text

theorem readDocument_ok {text text' : String} (h : readDocument call text = .ok text') : text' = text := by
  obtain ⟨_, -, h⟩ := bind_eq_ok.1 h
  cases hunreadable : call.unreadable <;> rw [hunreadable] at h
  · exact (Except.ok.inj h).symm
  · cases h

/-- An invocation goes on from the start or from what is stored. -/
theorem opening_ok {stored : Option (Progress Registration)} {file : Option String} {p : Progress Registration}
    (hholds : s.Holds stored file) (h : s.opening call file = .ok (pin, p)) :
    s.homePin = some pin ∧ (p = .start s.censusFromBlock ∨ stored = some p) := by
  obtain ⟨pin', hpin, h⟩ := bind_eq_ok.1 h
  obtain ⟨binding, -, h⟩ := bind_eq_ok.1 h
  obtain ⟨p', hp, h⟩ := bind_eq_ok.1 h
  obtain ⟨_, -, h⟩ := bind_eq_ok.1 h
  cases h
  refine ⟨orFail_eq_ok.1 hpin, ?_⟩
  unfold resumed at hp
  split at hp
  · obtain ⟨text, htext, hp⟩ := bind_eq_ok.1 hp
    obtain ⟨text', hread, hp⟩ := bind_eq_ok.1 hp
    have htext := orFail_eq_ok.1 htext
    rw [readDocument_ok hread] at hp
    cases stored with
    | none =>
      rw [show file = none from hholds] at htext
      cases htext
    | some q =>
      obtain ⟨written, hwritten, hfile⟩ := hholds
      rw [hfile] at htext
      cases htext
      rw [readCheckpoint_text hwritten hp]
      exact Or.inr rfl
  · cases hp
    exact Or.inl rfl

/-- The last two files are written beside the checkpoint. -/
theorem publish_checkpoint (s : Survey) (call : Invocation) (pin : ChainPin) (p : Progress Registration) (disk : Disk) :
    (s.publish call pin p disk).1.checkpoint = disk.checkpoint := by
  unfold publish
  split
  · rfl
  · cases call.writes .candidate
    · rfl
    · rfl
    · cases call.writes .discovery <;> rfl

theorem publish_scanned {p : Progress Registration} {disk : Disk} {result : DiscoveryResult}
    (h : (s.publish call pin p disk).2 = .ok (.scanned result)) :
    ∃ candidate, s.assembled call pin p = .ok (candidate, result) := by
  unfold publish at h
  split at h
  · cases h
  · rename_i candidate result' hfiles
    obtain ⟨files, hassembled, hfiles⟩ := bind_eq_ok.1 hfiles
    obtain ⟨_, -, hfiles⟩ := bind_eq_ok.1 hfiles
    cases hfiles
    cases hcandidate : call.writes .candidate <;> rw [hcandidate] at h
    · cases h
    · cases h
    · cases hdiscovery : call.writes .discovery <;> rw [hdiscovery] at h
      · cases h
      · cases h
      · cases h
        exact ⟨candidate, hassembled⟩

/-- A result lists what was found, and is complete where that goes up to the pin. -/
structure Lists (pin : ChainPin) (p : Progress Registration) (result : DiscoveryResult) : Prop where
  complete : result.complete = true → pin.blockNumber < p.next
  candidates : result.candidateRemotes.map (·.registration) = p.found

theorem assembled_lists {p : Progress Registration} {candidate : Candidate} {result : DiscoveryResult}
    (h : s.assembled call pin p = .ok (candidate, result)) : Lists pin p result := by
  obtain ⟨_, hlength, h⟩ := bind_eq_ok.1 h
  obtain ⟨_, -, h⟩ := bind_eq_ok.1 h
  cases h
  refine ⟨fun h => of_decide_eq_true h, ?_⟩
  have hlength := of_decide_eq_true (inputUnless_eq_ok.1 hlength)
  show ((byRemote p.found).rows.map _).map _ = p.found
  rw [List.map_map]
  exact (List.map_id _).trans (Keyed.rows_upsertAll_of_length hlength)

/-- What is committed is stored, if anything is. -/
theorem commit_cases (s : Survey) (call : Invocation) (pin : ChainPin) (p : Progress Registration) {disk : Disk}
    {stored : Option (Progress Registration)} (hholds : s.Holds stored disk.checkpoint) :
    ∃ stored', s.Holds stored' (s.commit call pin p disk).1.checkpoint ∧ (stored' = stored ∨ stored' = some p) ∧
      ∀ result, (s.commit call pin p disk).2 = .ok (.scanned result) → stored' = some p ∧ Lists pin p result := by
  unfold commit
  split
  · exact ⟨stored, hholds, Or.inl rfl, fun result h => (nomatch h)⟩
  · rename_i text htext
    obtain ⟨_, -, htext⟩ := bind_eq_ok.1 htext
    have hwritten : s.Holds (some p) (some text) := ⟨text, htext, rfl⟩
    cases call.writes .checkpoint
    · exact ⟨stored, hholds, Or.inl rfl, fun result h => (nomatch h)⟩
    · exact ⟨some p, hwritten, Or.inr rfl, fun result h => (nomatch h)⟩
    · refine ⟨some p, ?_, Or.inr rfl, fun result h => ⟨rfl, ?_⟩⟩
      · show s.Holds (some p) (s.publish call pin p _).1.checkpoint
        rw [publish_checkpoint]
        exact hwritten
      · obtain ⟨candidate, hassembled⟩ := publish_scanned h
        exact assembled_lists hassembled

/-- What becomes of the stored progress in an invocation, and what a result it ends with lists. -/
theorem discoverConfigured_step (call : Invocation) {stored : Option (Progress Registration)} {disk : Disk}
    (hpin : s.homePin = some pin) (hholds : s.Holds stored disk.checkpoint) :
    ∃ stored', s.Holds stored' (s.discoverConfigured call disk).1.checkpoint ∧
      ScanStep (fun lo hi logs => s.Agreed call pin lo (hi - 1) logs) s.censusFromBlock (pin.blockNumber + 1) stored stored' ∧
      ∀ result, (s.discoverConfigured call disk).2 = .ok (.scanned result) →
        ∃ p, (p = .start s.censusFromBlock ∨ stored' = some p) ∧ Lists pin p result := by
  unfold discoverConfigured
  split
  · exact ⟨stored, hholds, .keep, fun result h => (nomatch h)⟩
  · rename_i pin' p hopening
    obtain ⟨hpin', hfrom⟩ := opening_ok hholds hopening
    obtain rfl : pin' = pin := Option.some.inj (hpin'.symm.trans hpin)
    split
    · exact ⟨stored, hholds, .keep, fun result h => (nomatch h)⟩
    · refine ⟨stored, ?_, .keep, fun result h => ?_⟩
      · rw [publish_checkpoint]
        exact hholds
      · obtain ⟨candidate, hassembled⟩ := publish_scanned h
        exact ⟨p, hfrom, assembled_lists hassembled⟩
    · exact ⟨stored, hholds, .keep, fun result h => (nomatch h)⟩
    · rename_i p' hscan
      obtain ⟨hnext, logs, hagreed, rfl⟩ := scan_agreed hscan
      obtain ⟨hforward, hwithin⟩ := windowEnd_bounds (s := s) hnext
      have hwindow : Extends (fun lo hi logs => s.Agreed call pin' lo (hi - 1) logs) (pin'.blockNumber + 1) p
          ⟨s.windowEnd pin' p.next + 1, p.found ++ logs⟩ := by
        refine .window hforward (by omega) ?_
        show s.Agreed call pin' p.next (s.windowEnd pin' p.next + 1 - 1) logs
        rw [add_sub_cancel_right]
        exact hagreed
      -- the window extends what the file held, or starts the scan afresh
      have hstep : ScanStep (fun lo hi logs => s.Agreed call pin' lo (hi - 1) logs) s.censusFromBlock
          (pin'.blockNumber + 1) stored (some ⟨s.windowEnd pin' p.next + 1, p.found ++ logs⟩) := by
        rcases hfrom with hstart | hstored
        · rw [hstart] at hwindow ⊢
          exact .fresh hwindow
        · exact .resume hstored hwindow
      obtain ⟨stored', hholds', hcases, hresult⟩ :=
        commit_cases s call pin' ⟨s.windowEnd pin' p.next + 1, p.found ++ logs⟩ hholds
      refine ⟨stored', hholds', ?_, fun result h => ?_⟩
      · rcases hcases with rfl | rfl
        · exact .keep
        · exact hstep
      · obtain ⟨hstored', hlists⟩ := hresult result h
        exact ⟨_, Or.inr hstored', hlists⟩

/-! ## Runs -/

/-- The registrations of a history from one block to another. -/
def registered (history : List Registration) (start stop : Int) : List Registration :=
  history.filter fun r => start ≤ r.number && r.number ≤ stop

theorem registered_eq (history : List Registration) (start stop : Int) :
    registered history start stop = between Registration.number history start (stop + 1) := by
  unfold registered between
  refine List.filter_congr fun r _ => ?_
  rw [decide_eq_decide.2 Int.lt_add_one_iff]

/-- Registrations in chain order are in the order of their blocks. -/
theorem number_le_of_order {a b : Registration} (h : a.order ≤ b.order) : a.number ≤ b.number := by
  rcases Prod.Lex.le_iff.1 h with hlt | ⟨heq, -⟩
  · exact le_of_lt hlt
  · exact le_of_eq heq

/-- The logs that are agreed on are in chain order, so they are those of the chain if they are the same but for order. -/
theorem agreed_eq {history logs : List Registration} {start stop : Int} (hordered : history.Pairwise fun a b => a.order < b.order)
    (hagreed : s.Agreed call pin start stop logs) (hperm : logs.Perm (registered history start stop)) :
    logs = registered history start stop := by
  obtain ⟨e, he⟩ := hagreed.exists_witness
  have hordered : (registered history start stop).Pairwise fun a b => a.order < b.order := hordered.filter _
  have hnodup : ((registered history start stop).map Registration.order).Nodup :=
    List.pairwise_map.2 (hordered.imp ne_of_lt)
  refine List.Perm.eq_of_pairwise (fun a b ha hb hab hba => ?_) (logsOf_pairwise he) (hordered.imp le_of_lt) hperm
  exact List.inj_on_of_nodup_map hnodup (hperm.mem_iff.1 ha) hb (le_antisymm hab hba)

/-- Over a run, what is stored stays exact, and every complete result lists the whole census. -/
theorem run_exact {history : List Registration} {reads : Int → Int → List Registration → Prop} {calls : List Invocation}
    (hpin : s.homePin = some pin) (hordered : history.Pairwise fun a b => a.number ≤ b.number)
    (hreads : ∀ lo hi logs, reads lo hi logs → logs = between Registration.number history lo hi)
    (hcalls : ∀ call ∈ calls, ∀ lo hi logs, s.Agreed call pin lo (hi - 1) logs → reads lo hi logs)
    {stored : Option (Progress Registration)} {disk : Disk} (hholds : s.Holds stored disk.checkpoint)
    (hstored : ∀ p ∈ stored, p.Exact reads s.censusFromBlock (pin.blockNumber + 1) Registration.number history) :
    (∃ stored', s.Holds stored' (s.run disk calls).1.checkpoint ∧
      ∀ p ∈ stored', p.Exact reads s.censusFromBlock (pin.blockNumber + 1) Registration.number history) ∧
    ∀ result, .ok (.scanned result) ∈ (s.run disk calls).2 → result.complete = true →
      result.candidateRemotes.map (·.registration) =
        between Registration.number history s.censusFromBlock (pin.blockNumber + 1) := by
  induction calls generalizing stored disk with
  | nil => exact ⟨⟨stored, hholds, hstored⟩, fun result h => absurd h List.not_mem_nil⟩
  | cons call calls ih =>
    obtain ⟨stored', hholds', hstep, hresult⟩ := discoverConfigured_step call hpin hholds
    have hexact := ScanStep.exact hordered hreads hstored (hstep.mono (hcalls call List.mem_cons_self))
    obtain ⟨hrest, hresults⟩ := ih (fun c hc => hcalls c (List.mem_cons_of_mem _ hc)) hholds' hexact
    refine ⟨hrest, fun result h hcomplete => ?_⟩
    rcases List.mem_cons.1 h with h | h
    · obtain ⟨p, hp, hlists⟩ := hresult result h.symm
      have hp : p.Exact reads s.censusFromBlock (pin.blockNumber + 1) Registration.number history := by
        rcases hp with rfl | hp
        · exact .start
        · exact hexact p hp
      rw [hlists.candidates, hp.complete (Int.add_one_le_iff.2 (hlists.complete hcomplete))]
    · exact hresults result h hcomplete

end Survey

/-- Nothing has been written. -/
def Disk.empty : Disk := ⟨none, none, none⟩

/-- In every run of invocations, a complete result lists the registrations from the first block of the census up to the
pin, as they are in the chain, and the checkpoint has passed only blocks in windows whose logs enough independent
witnesses agreed on in some invocation. The one assumption is that what is agreed on are the registrations of the chain. -/
theorem interrupted_discovery_exact {s : Survey} {pin : ChainPin} {history : List Registration} {calls : List Invocation}
    (hpin : s.homePin = some pin) (hordered : history.Pairwise fun a b => a.order < b.order)
    (hreads : ∀ call ∈ calls, ∀ start stop logs, s.Agreed call pin start stop logs →
      logs.Perm (Survey.registered history start stop)) :
    (∀ result, .ok (.scanned result) ∈ (s.run .empty calls).2 → result.complete = true →
      result.candidateRemotes.map (·.registration) = Survey.registered history s.censusFromBlock pin.blockNumber) ∧
    ∀ text, (s.run .empty calls).1.checkpoint = some text →
      ∃ p, s.checkpointText p = .ok text ∧ p.found = Survey.registered history s.censusFromBlock (p.next - 1) ∧
        ∀ block : Int, s.censusFromBlock ≤ block → block < p.next → ∃ call ∈ calls, ∃ start stop logs,
          start ≤ block ∧ block ≤ stop ∧ stop < p.next ∧ s.Agreed call pin start stop logs := by
  have hnumbers : history.Pairwise fun a b => a.number ≤ b.number :=
    hordered.imp fun h => Survey.number_le_of_order (le_of_lt h)
  -- the providers of a window agree on what was registered in it
  have hagreed : ∀ lo hi logs, (∃ call ∈ calls, s.Agreed call pin lo (hi - 1) logs) →
      logs = between Registration.number history lo hi := by
    rintro lo hi logs ⟨call, hcall, hagreed⟩
    rw [Survey.agreed_eq hordered hagreed (hreads call hcall _ _ _ hagreed), Survey.registered_eq, sub_add_cancel]
  have hempty : s.Holds none Disk.empty.checkpoint := rfl
  obtain ⟨⟨stored, hholds, hexact⟩, hresults⟩ := Survey.run_exact hpin hnumbers hagreed
    (fun call hcall lo hi logs h => ⟨call, hcall, h⟩) hempty fun p hp => nomatch hp
  refine ⟨fun result h hcomplete => ?_, fun text htext => ?_⟩
  · rw [Survey.registered_eq]
    exact hresults result h hcomplete
  · cases stored with
    | none =>
      rw [show (s.run .empty calls).1.checkpoint = none from hholds] at htext
      cases htext
    | some p =>
      obtain ⟨text', htext', hfile⟩ := hholds
      rw [hfile] at htext
      cases htext
      have hp := hexact p rfl
      refine ⟨p, htext', ?_, fun block hfirst hnext => ?_⟩
      · rw [Survey.registered_eq, sub_add_cancel]
        exact hp.found
      · obtain ⟨lo, hi, logs, hlo, hhi, hle, call, hcall, hagreed⟩ := hp.backed block hfirst hnext
        exact ⟨call, hcall, lo, hi - 1, logs, hlo, by omega, by omega, hagreed⟩

/-! ### A run that is broken off twice -/

section Sample

/-- The hashes of the event and of the one code that there is. -/
def surveyKeccak (bytes : List Int) : String :=
  if bytes = [0x60] then "0x15a5de5d00dfc39d199ee772e89858c204d1d545de092db54a345c7303942607"
  else "0xf229b02a51a4c8d5ef03a096ae0dd727d7b48b710d21b50ebebb560eef739b90"

/-- The home of two remotes, with the code that is approved. -/
def surveyHome : Deployment where
  chain := homeDeployment.chain
  contract := {
    homeDeployment.contract with
    fingerprint := {
      runtimeCodeHash := some (surveyKeccak [0x60])
      allowedImplementationHashes := []
      sourceRef := some ⟨pinnedCommitSha, "icm-contracts/avalanche/ictt/TokenHome/ERC20TokenHome.sol"⟩ } }

def surveyPin : ChainPin := ⟨words 'a', 4, words '4'⟩

/-- Windows of two blocks, from the first one to the fourth. -/
def sampleSurvey : Survey where
  nfc := sampleNfc
  sha256 := fun text => String.ofList (text.toList.reverse.take 6)
  keccak256 := surveyKeccak
  manifest := { twoRemotes with home := surveyHome, blockchainIds := by decide +kernel }
  censusFromBlock := 1
  policy := { twoPolicy.value with maxLogRangeBlocks := 2 }
  policyDocument := .obj [("maxLogRangeBlocks", .integer 2)]
  pins := [surveyPin]
  loadManifest := fun _ => .ok ()

def surveyBlock (number : Int) (digit : Char) : Json :=
  .obj [("number", .str ("0x" ++ toString number)), ("hash", .str (words digit)), ("timestamp", .str "0x64")]

/-- The registration of the first remote, of eighteen decimals, as the log of the second block. -/
def surveyLog : Json :=
  .obj [("address", .str tokenHomeAddress),
    ("topics", .arr [.str (surveyKeccak []), .str firstRemote.chain.blockchainId,
      .str ("0x" ++ String.ofList (List.replicate 24 '0' ++ firstRemote.contract.address.toList.drop 2))]),
    ("data", .str ("0x" ++ String.ofList (List.replicate 126 '0' ++ ['1', '2']))), ("blockNumber", .str "0x2"),
    ("blockHash", .str (words '2')), ("transactionHash", .str (words 'e')), ("logIndex", .str "0x0"), ("removed", .bool false)]

/-- Both endpoints answer alike, and know the logs of the two windows only. -/
def surveyAnswer : ReadOperation → Except Failure Json
  | .evmChainId => .ok (.str "0x1")
  | .networkVersion => .ok (.str "1")
  | .warpBlockchainId _ => .ok (.str (words 'a'))
  | .blockByRef .finalized => .ok (surveyBlock 4 '4')
  | .blockByRef (.number n) =>
    .ok (surveyBlock n (if n = 0 then 'a' else if n = 1 then '1' else if n = 2 then '2' else if n = 3 then '3' else '4'))
  | .code _ _ => .ok (.str "0x60")
  | .storageSlot _ _ _ => .ok (.str (words '0'))
  | .logs _ _ _ none => .ok (.arr [])
  | .logs start stop _ (some _) =>
    if start = 1 ∧ stop = 2 then .ok (.arr [surveyLog])
    else if start = 3 ∧ stop = 4 then .ok (.arr [])
    else .error { name := "ReadFailure", message := "RPC unavailable." }
  | _ => .error { name := "ReadFailure", message := "RPC unavailable." }

def surveyCall (resume : Bool) (aborted : Point → Bool) (writes : Written → WriteFate) : Invocation where
  resume := resume
  maxFacts := 10
  runtime := fun _ => { read := fun _ => surveyAnswer, now := fun _ => 100000 }
  hostnameOf := fun _ => none
  resolveHost := fun _ => .ok ()
  aborted := aborted
  unreadable := none
  writes := writes
  discoveredAt := "1970-01-01T00:01:40.000Z"

/-- The first invocation fails behind the write of its checkpoint, the second is aborted before the second endpoint, and
the third goes on. -/
def surveyCalls : List Invocation :=
  [surveyCall false (fun _ => false) fun
      | .checkpoint => .unsettled { name := "Error", message := "fsync" }
      | _ => .done,
   surveyCall true (fun
      | .endpoint e => e.id.val = "ep-2"
      | _ => false) fun _ => .done,
   surveyCall true (fun _ => false) fun _ => .done]

def surveyRegistration : Registration where
  blockchainId := firstRemote.chain.blockchainId
  address := firstRemote.contract.address
  collateral := "0"
  decimals := 18
  blockNumber := "2"
  blockHash := words '2'
  txHash := words 'e'
  logIndex := "0"

theorem decode_surveyLog :
    decode sampleSurvey.topic sampleSurvey.home.contract.address 1 2 surveyLog = .ok surveyRegistration := by
  decide +kernel

/-- What either endpoint has is the part of the history that was asked for. -/
theorem survey_logsOf {call : Invocation} (hcall : call ∈ surveyCalls) {start stop : Int} {e : Endpoint} {logs : List Registration}
    (h : sampleSurvey.logsOf call surveyPin start stop e = .ok (some logs)) :
    logs = Survey.registered [surveyRegistration] start stop := by
  obtain ⟨raw, elements, decoded, hraw, helements, hdecoded, rfl⟩ := Survey.logsOf_answer h
  have hanswer : surveyAnswer (.logs start stop (some sampleSurvey.home.contract.address) (some [some sampleSurvey.topic])) =
      .ok raw := by
    simp only [surveyCalls, List.mem_cons, List.not_mem_nil, or_false] at hcall
    rcases hcall with rfl | rfl | rfl <;> exact hraw
  rw [surveyAnswer] at hanswer
  split at hanswer
  · rename_i hwindow
    obtain ⟨rfl, rfl⟩ := hwindow
    cases hanswer
    cases helements
    rw [List.mapM_cons, decode_surveyLog] at hdecoded
    cases hdecoded
    decide +kernel
  · split at hanswer
    · rename_i hwindow
      obtain ⟨rfl, rfl⟩ := hwindow
      cases hanswer
      cases helements
      cases hdecoded
      decide +kernel
    · cases hanswer

theorem survey_agreed : ∀ call ∈ surveyCalls, ∀ start stop logs, sampleSurvey.Agreed call surveyPin start stop logs →
    logs.Perm (Survey.registered [surveyRegistration] start stop) := by
  intro call hcall start stop logs hagreed
  obtain ⟨e, he⟩ := hagreed.exists_witness
  rw [← survey_logsOf hcall he]

/-- One remote is registered, in the first of the two windows. -/
theorem interrupted_discovery_exact_sample :
    (∀ result, .ok (.scanned result) ∈ (sampleSurvey.run .empty surveyCalls).2 → result.complete = true →
      result.candidateRemotes.map (·.registration) = Survey.registered [surveyRegistration] 1 4) ∧
    ∀ text, (sampleSurvey.run .empty surveyCalls).1.checkpoint = some text →
      ∃ p, sampleSurvey.checkpointText p = .ok text ∧ p.found = Survey.registered [surveyRegistration] 1 (p.next - 1) ∧
        ∀ block : Int, 1 ≤ block → block < p.next → ∃ call ∈ surveyCalls, ∃ start stop logs,
          start ≤ block ∧ block ≤ stop ∧ stop < p.next ∧ sampleSurvey.Agreed call surveyPin start stop logs :=
  interrupted_discovery_exact rfl (List.pairwise_singleton _ surveyRegistration) survey_agreed

end Sample

end IcttSentinel.Cli
