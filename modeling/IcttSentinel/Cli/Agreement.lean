/-
What the witnesses of a window agree on. The texts of decoded registrations are plain, so that logs with one canonical
text are the same logs, and a window is committed only when enough independent endpoints had them.
-/
import IcttSentinel.Cli.Discovery
import IcttSentinel.Collector.Majority

namespace IcttSentinel.Cli

open IcttSentinel.Collector IcttSentinel.Config IcttSentinel.Lib IcttSentinel.RpcQuorum
open IcttSentinel.Evidence (JsValue Nfc Ascii Dense canon canonicalStringify canonicalStringify_ok_iff canon_array canon_arr_eq_some
  canonElements_eq_some canon_field canon_obj_eq_some canon_text dense_array dense_obj dense_str dense_integer elementForm eq_of_map_eq
  form_of_entry text_eq_iff_of_dense)
open IcttSentinel.Storage (matchesHex isLowerHex)

/-! ## Plain texts -/

/-- The texts of a registration are plain. -/
structure Registration.Plain (r : Registration) : Prop where
  blockchainId : Ascii r.blockchainId
  address : Ascii r.address
  collateral : Ascii r.collateral
  blockNumber : Ascii r.blockNumber
  blockHash : Ascii r.blockHash
  txHash : Ascii r.txHash
  logIndex : Ascii r.logIndex

theorem ascii_of_bytes {value : Option String} {s : String} (h : bytes32 value = .ok s) : Ascii s := by
  obtain ⟨-, hs⟩ := Option.filter_eq_some_iff.1 (orFail_eq_ok.1 h)
  exact ascii_of_hash hs

theorem ascii_toString (n : Int) : Ascii (toString n) := by
  intro c hc
  by_cases hsign : c = '-'
  · rw [hsign]
    decide
  · by_contra hplain
    refine notMem_decimal (c := c) ?_ hsign n hc
    rw [← Bool.not_eq_true, Char.isDigit_iff_toNat]
    have hnine : '9'.toNat = 57 := rfl
    omega

theorem registrationParts_third {topic home : String} {start stop n : Int} {log : Json} {second : Option String} {third data : String}
    (h : registrationParts topic home start stop n log = some (second, third, data)) :
    matchesHex ("0x" ++ String.ofList (List.replicate 24 '0')) 40 third = true := by
  unfold registrationParts at h
  obtain ⟨topics, -, h⟩ := Option.bind_eq_some_iff.1 h
  obtain ⟨third', hthird, h⟩ := Option.bind_eq_some_iff.1 h
  obtain ⟨data', -, h⟩ := Option.bind_eq_some_iff.1 h
  split at h
  · cases h
    exact (Option.filter_eq_some_iff.1 hthird).2
  · cases h

theorem decode_plain {topic home : String} {start stop : Int} {value : Json} {r : Registration}
    (h : decode topic home start stop value = .ok r) : r.Plain := by
  obtain ⟨log, -, h⟩ := bind_eq_ok.1 h
  obtain ⟨n, -, h⟩ := bind_eq_ok.1 h
  obtain ⟨⟨second, third, data⟩, hparts, h⟩ := bind_eq_ok.1 h
  obtain ⟨_, -, h⟩ := bind_eq_ok.1 h
  obtain ⟨blockchainId, hchain, h⟩ := bind_eq_ok.1 h
  obtain ⟨blockHash, hblock, h⟩ := bind_eq_ok.1 h
  obtain ⟨txHash, htx, h⟩ := bind_eq_ok.1 h
  obtain ⟨logIndex, -, h⟩ := bind_eq_ok.1 h
  cases h
  refine ⟨ascii_of_bytes hchain, ?_, ascii_toString _, ascii_toString _, ascii_of_bytes hblock, ascii_of_bytes htx,
    ascii_toString _⟩
  have hthird : (third.toList.drop 26).all isLowerHex = true :=
    (Bool.and_eq_true_iff.1 (registrationParts_third (orFail_eq_ok.1 hparts))).2
  intro c hc
  rw [String.toList_append, String.toList_ofList, List.mem_append] at hc
  rcases hc with hc | hc
  · have hstart : ∀ c ∈ "0x".toList, c.toNat < 128 := by decide
    exact hstart c hc
  · rw [String.toList_ofList] at hc
    exact ascii_of_isLowerHex (List.all_eq_true.1 hthird c hc)

/-- A registration as the value that is compared. -/
theorem Registration.value_eq (r : Registration) : JsValue.ofJson r.json =
    .obj [("blockchainId", .str r.blockchainId), ("address", .str r.address), ("collateral", .str r.collateral),
      ("decimals", .integer r.decimals), ("blockNumber", .str r.blockNumber), ("blockHash", .str r.blockHash),
      ("txHash", .str r.txHash), ("logIndex", .str r.logIndex)] := by
  simp [Registration.json, JsValue.ofJson, JsValue.ofFields, IcttSentinel.Evidence.setProperty]

/-- A member that is there has a form where the object has one. -/
theorem exists_canon_of_mem {nfc : Nfc} {entries : List (String × JsValue)} {c v : JsValue} {k : String}
    (h : canon nfc (.obj entries) = some c) (hv : (k, v) ∈ entries) (hdefined : v.isUndefined = false) :
    ∃ d, canon nfc v = some d := by
  obtain ⟨cs, hcs, -⟩ := canon_obj_eq_some.1 h
  obtain ⟨d, hd, -⟩ := form_of_entry hcs hv hdefined
  exact ⟨d, hd⟩

/-- Plain registrations of one form are the same. -/
theorem Registration.Plain.inj {nfc : Nfc} {r r' : Registration} (h : r.Plain) (h' : r'.Plain) {c : JsValue}
    (hc : canon nfc (JsValue.ofJson r.json) = some c) (hc' : canon nfc (JsValue.ofJson r'.json) = some c) : r = r' := by
  rw [Registration.value_eq] at hc hc'
  have hdecimals : r.decimals = r'.decimals := by
    have hforms : canon nfc (.integer r.decimals) = canon nfc (.integer r'.decimals) :=
      canon_field hc hc' (k := "decimals") (by simp) (by simp) rfl rfl
    obtain ⟨d, hd⟩ := exists_canon_of_mem hc (k := "decimals") (v := .integer r.decimals) (by simp) rfl
    have hd' := hforms ▸ hd
    rw [canon] at hd hd'
    split at hd
    · split at hd'
      · exact decimal_injective (JsValue.str.inj (Option.some.inj (hd.trans hd'.symm)))
      · cases hd'
    · cases hd
  refine Registration.ext (h.blockchainId.inj h'.blockchainId (canon_text hc hc' "blockchainId" (by simp) (by simp)))
    (h.address.inj h'.address (canon_text hc hc' "address" (by simp) (by simp)))
    (h.collateral.inj h'.collateral (canon_text hc hc' "collateral" (by simp) (by simp))) hdecimals
    (h.blockNumber.inj h'.blockNumber (canon_text hc hc' "blockNumber" (by simp) (by simp)))
    (h.blockHash.inj h'.blockHash (canon_text hc hc' "blockHash" (by simp) (by simp)))
    (h.txHash.inj h'.txHash (canon_text hc hc' "txHash" (by simp) (by simp)))
    (h.logIndex.inj h'.logIndex (canon_text hc hc' "logIndex" (by simp) (by simp)))

theorem dense_logsValue (logs : List Registration) : Dense (Survey.logsValue logs) := by
  refine dense_array (fun r => ?_) logs
  rw [Registration.value_eq]
  exact dense_obj ⟨dense_str _, dense_str _, dense_str _, dense_integer _, dense_str _, dense_str _, dense_str _, dense_str _⟩

theorem exists_canon_of_element {nfc : Nfc} {α : Type} {encode : α → JsValue} {l : List α} {c : JsValue} {a : α}
    (h : canon nfc (.array encode l) = some c) (ha : a ∈ l) : ∃ d, canon nfc (encode a) = some d := by
  obtain ⟨cs, hcs, -⟩ := canon_arr_eq_some.1 h
  have hform : elementForm nfc (some (encode a)) ∈ cs.map some := by
    rw [← canonElements_eq_some.1 hcs]
    exact List.mem_map_of_mem (List.mem_map_of_mem (f := fun a => some (encode a)) ha)
  obtain ⟨d, -, hd⟩ := List.mem_map.1 hform
  obtain ⟨d, hd, -⟩ := Option.map_eq_some_iff.1 hd.symm
  exact ⟨d, hd⟩

/-- Plain logs with one text are the same. -/
theorem logs_eq_of_text {nfc : Nfc} {logs logs' : List Registration} (h : ∀ r ∈ logs, r.Plain) (h' : ∀ r ∈ logs', r.Plain)
    {text : String} (htext : canonicalStringify nfc (Survey.logsValue logs) = .ok text)
    (htext' : canonicalStringify nfc (Survey.logsValue logs') = .ok text) : logs = logs' := by
  have hforms := ((text_eq_iff_of_dense htext htext' (dense_logsValue _) (dense_logsValue _)).1 rfl).canon_eq.1
  obtain ⟨c, hc, -⟩ := canonicalStringify_ok_iff.1 htext
  have hc' := hforms ▸ hc
  refine eq_of_map_eq (fun r hr r' hr' heq => ?_) (canon_array hc hc')
  obtain ⟨d, hd⟩ := exists_canon_of_element hc hr
  exact (h r hr).inj (h' r' hr') hd (heq ▸ hd)

/-! ## What agreement means -/

namespace Survey

variable {s : Survey} {call : Invocation} {pin : ChainPin} {start stop : Int}

theorem checkLogs_eq_some {e : Endpoint} {logs logs' : List Registration}
    (h : checkLogs call pin e logs = .ok (some logs')) : logs' = logs := by
  unfold checkLogs at h
  split at h
  · obtain ⟨_, -, h⟩ := bind_eq_ok.1 h
    obtain ⟨_, -, h⟩ := bind_eq_ok.1 h
    obtain ⟨_, -, h⟩ := bind_eq_ok.1 h
    obtain ⟨_, -, h⟩ := bind_eq_ok.1 h
    have h := Except.ok.inj h
    split at h
    · exact (Option.some.inj h).symm
    · cases h
  · cases h

/-- The logs of an endpoint are what it answers, decoded and sorted. -/
theorem logsOf_answer {e : Endpoint} {logs : List Registration} (h : s.logsOf call pin start stop e = .ok (some logs)) :
    ∃ raw elements decoded,
      (call.runtime .logs).read e (.logs start stop (some s.home.contract.address) (some [some s.topic])) = .ok raw ∧
        raw.elements? = some elements ∧ elements.mapM (decode s.topic s.home.contract.address start stop) = .ok decoded ∧
        logs = sortOn Registration.order decoded := by
  obtain ⟨probe, -, h⟩ := bind_eq_ok.1 h
  split at h
  · obtain ⟨raw, hraw, h⟩ := bind_eq_ok.1 h
    split at h
    · cases h
    · rename_i elements helements
      obtain ⟨decoded, hdecoded, h⟩ := bind_eq_ok.1 h
      exact ⟨raw, elements, decoded, hraw, (Option.filter_eq_some_iff.1 helements).1, hdecoded, checkLogs_eq_some h⟩
  · cases h

theorem logsOf_plain {e : Endpoint} {logs : List Registration} (h : s.logsOf call pin start stop e = .ok (some logs)) :
    ∀ r ∈ logs, r.Plain := by
  obtain ⟨raw, elements, decoded, -, -, hdecoded, rfl⟩ := logsOf_answer h
  intro r hr
  obtain ⟨value, -, hvalue⟩ := mem_mapM_ok hdecoded (mem_sortOn.1 hr)
  exact decode_plain hvalue

theorem logsOf_pairwise {e : Endpoint} {logs : List Registration} (h : s.logsOf call pin start stop e = .ok (some logs)) :
    logs.Pairwise fun a b => a.order ≤ b.order := by
  obtain ⟨raw, elements, decoded, -, -, -, rfl⟩ := logsOf_answer h
  exact pairwise_sortOn _ _

theorem triedLogs_ok {e : Endpoint} {tried : Except Failure (Option (List Registration))}
    {found : List (Endpoint × List Registration)} (h : triedLogs call e tried = .ok found) :
    (found.map (·.1)).Sublist [e] ∧ ∀ w ∈ found, w.1 = e ∧ tried = .ok (some w.2) := by
  cases tried with
  | ok logs =>
    cases h
    cases logs with
    | none => exact ⟨List.nil_sublist _, fun w hw => absurd hw List.not_mem_nil⟩
    | some logs =>
      refine ⟨List.Sublist.refl _, fun w hw => ?_⟩
      rw [List.mem_singleton.1 hw]
      exact ⟨rfl, rfl⟩
  | error _ =>
    unfold triedLogs at h
    cases hsignal : call.throwIfAborted (.caught e) with
    | error _ =>
      rw [hsignal] at h
      cases h
    | ok _ =>
      rw [hsignal] at h
      cases h
      exact ⟨List.nil_sublist _, fun w hw => absurd hw List.not_mem_nil⟩

/-- Witnesses are endpoints that have the logs they are listed with. -/
theorem witnessesOf_ok {endpoints : List Endpoint} {witnesses : List (Endpoint × List Registration)}
    (h : s.witnessesOf call pin start stop endpoints = .ok witnesses) :
    (witnesses.map (·.1)).Sublist endpoints ∧ ∀ w ∈ witnesses, s.logsOf call pin start stop w.1 = .ok (some w.2) := by
  induction endpoints generalizing witnesses with
  | nil =>
    cases h
    exact ⟨List.Sublist.slnil, fun w hw => absurd hw List.not_mem_nil⟩
  | cons e endpoints ih =>
    obtain ⟨_, -, h⟩ := bind_eq_ok.1 h
    obtain ⟨found, hfound, h⟩ := bind_eq_ok.1 h
    obtain ⟨rest, hrest, h⟩ := bind_eq_ok.1 h
    cases h
    obtain ⟨hsub, hall⟩ := ih hrest
    obtain ⟨hone, hhere⟩ := triedLogs_ok hfound
    refine ⟨?_, fun w hw => ?_⟩
    · rw [List.map_append]
      exact hone.append hsub
    · rcases List.mem_append.1 hw with hw | hw
      · obtain ⟨he, htried⟩ := hhere w hw
        rw [he]
        exact htried
      · exact hall w hw

theorem canonicalText_eq_ok {value : JsValue} {text : String} :
    s.canonicalText value = .ok text ↔ canonicalStringify s.nfc value = .ok text := by
  unfold canonicalText
  cases canonicalStringify s.nfc value with
  | error e => exact ⟨fun h => (nomatch h), fun h => (nomatch h)⟩
  | ok _ => rw [Except.ok.injEq, Except.ok.injEq]

/-- Witnesses of one text have the logs that are agreed on. -/
theorem agreedLogs_eq_some {witnesses : List (Endpoint × List Registration)} {logs : List Registration}
    (h : s.agreedLogs witnesses = .ok (some logs)) (hplain : ∀ w ∈ witnesses, ∀ r ∈ w.2, r.Plain) :
    ∀ w ∈ witnesses, w.2 = logs := by
  obtain ⟨texts, htexts, h⟩ := bind_eq_ok.1 h
  have h := Except.ok.inj h
  split at h
  · cases h
  · rename_i hone
    have hsame : ∀ a ∈ texts, ∀ b ∈ texts, a = b :=
      SideArgs.length_eraseDups_le_one.1 (le_of_eq (not_not.1 hone))
    have hpair : ∀ w ∈ witnesses, ∀ w' ∈ witnesses, w.2 = w'.2 := by
      intro w hw w' hw'
      obtain ⟨a, ha, hwa⟩ := mapM_ok_mem htexts hw
      obtain ⟨b, hb, hwb⟩ := mapM_ok_mem htexts hw'
      rw [hsame b hb a ha] at hwb
      exact logs_eq_of_text (hplain w hw) (hplain w' hw') (canonicalText_eq_ok.1 hwa) (canonicalText_eq_ok.1 hwb)
    intro w hw
    cases witnesses with
    | nil => cases hw
    | cons first rest =>
      rw [← Option.some.inj h]
      exact hpair w hw first List.mem_cons_self

/-- Enough independent endpoints of the home chain have the same logs for a window. -/
def Agreed (s : Survey) (call : Invocation) (pin : ChainPin) (start stop : Int) (logs : List Registration) : Prop :=
  ∃ witnesses : List Endpoint, witnesses.Sublist s.home.chain.endpoints ∧ s.required ≤ s.independent call witnesses ∧
    ∀ e ∈ witnesses, s.logsOf call pin start stop e = .ok (some logs)

/-- Some endpoint has what is agreed on: no agreement is without a witness. -/
theorem Agreed.exists_witness {logs : List Registration} (h : s.Agreed call pin start stop logs) :
    ∃ e, s.logsOf call pin start stop e = .ok (some logs) := by
  obtain ⟨witnesses, -, henough, hall⟩ := h
  cases witnesses with
  | nil =>
    have hrequired : 2 ≤ s.required := le_max_of_le_left s.home.chain.quorum_bounds.1
    have hnone : s.independent call [] = 0 := rfl
    omega
  | cons e rest => exact ⟨e, hall e List.mem_cons_self⟩

theorem quorumLogs_eq_some {witnesses : List (Endpoint × List Registration)} {logs : List Registration}
    (h : s.quorumLogs call witnesses = .ok (some logs)) :
    s.required ≤ s.independent call (witnesses.map (·.1)) ∧ s.agreedLogs witnesses = .ok (some logs) := by
  unfold quorumLogs at h
  split at h
  · cases h
  · rename_i henough
    exact ⟨Nat.le_of_not_lt henough, h⟩

/-- A window is committed only when it is agreed on. -/
theorem scan_agreed {p p' : Progress Registration} (h : s.scan call pin p = .ok (.agreed p')) :
    p.next ≤ pin.blockNumber ∧ ∃ logs, s.Agreed call pin p.next (s.windowEnd pin p.next) logs ∧
      p' = ⟨s.windowEnd pin p.next + 1, p.found ++ logs⟩ := by
  unfold scan at h
  split at h
  · rename_i hnext
    obtain ⟨witnesses, hwitnesses, h⟩ := bind_eq_ok.1 h
    obtain ⟨_, -, h⟩ := bind_eq_ok.1 h
    obtain ⟨logs, hlogs, h⟩ := bind_eq_ok.1 h
    obtain ⟨hsub, hall⟩ := witnessesOf_ok hwitnesses
    cases logs with
    | none => cases h
    | some logs =>
      cases h
      obtain ⟨henough, hagreed⟩ := quorumLogs_eq_some hlogs
      have hsame := agreedLogs_eq_some hagreed fun w hw => logsOf_plain (hall w hw)
      have hagreed : s.Agreed call pin p.next (s.windowEnd pin p.next) logs := by
        refine ⟨witnesses.map (·.1), ?_, ?_, ?_⟩
        · exact hsub
        · exact henough
        · intro e he
          obtain ⟨w, hw, rfl⟩ := List.mem_map.1 he
          rw [← hsame w hw]
          exact hall w hw
      exact ⟨hnext, logs, hagreed, rfl⟩
  · cases h

theorem windowEnd_bounds {next : Int} (h : next ≤ pin.blockNumber) :
    next ≤ s.windowEnd pin next + 1 ∧ s.windowEnd pin next ≤ pin.blockNumber := by
  unfold windowEnd
  split <;> omega

end Survey

end IcttSentinel.Cli
