/-
What a collected side rests on: the readings of its witnesses, one for each failure domain that can be read,
all the same. Two witnesses that disagree keep a side from being agreed on; endpoints that are not witnesses have no
say, and a side is agreed on against one that reports another block.
-/
import IcttSentinel.Collector.Answers
import IcttSentinel.Collector.Side
import IcttSentinel.Lib.Distinct

namespace IcttSentinel.Collector

open IcttSentinel.Config IcttSentinel.Lib IcttSentinel.RpcQuorum IcttSentinel.Storage
open IcttSentinel.Evidence

namespace SideArgs

/-! ## Witnesses -/

section Witnesses

variable (args : SideArgs)

/-- The chain can be read through the endpoint. -/
def reads (e : Endpoint) : Bool := (args.readingOf e).isOk

/-- The endpoint is the first of its failure domain that can be read. -/
def IsWitness (e : Endpoint) : Prop :=
  args.reads e = true ∧ ∃ unit ∈ args.units, ∃ before after, unit = before ++ e :: after ∧ ∀ x ∈ before, args.reads x = false

variable {args}

theorem readUnit_eq_some {unit : List Endpoint} {e : Endpoint} {r : ChainReading} : args.readUnit unit = some (e, r) ↔
    args.readingOf e = .ok r ∧ ∃ before after, unit = before ++ e :: after ∧ ∀ x ∈ before, args.reads x = false := by
  have hone : ∀ x, (args.readingOf x).toOption.map (x, ·) = some (e, r) ↔ x = e ∧ args.readingOf x = .ok r := by
    intro x
    cases args.readingOf x with
    | error _ => exact ⟨fun h => (nomatch h), fun h => (nomatch h.2)⟩
    | ok r' =>
      show some (x, r') = some (e, r) ↔ _
      rw [Option.some_inj, Prod.mk.injEq, Except.ok.injEq]
  have hnone : ∀ x, (args.readingOf x).toOption.map (x, ·) = none ↔ args.reads x = false := by
    intro x
    unfold reads
    cases args.readingOf x with
    | error _ => exact ⟨fun _ => rfl, fun _ => rfl⟩
    | ok r' => exact ⟨fun h => (nomatch h), fun h => (nomatch h)⟩
  unfold readUnit
  rw [List.findSome?_eq_some_iff]
  constructor
  · rintro ⟨before, x, after, hunit, hx, hbefore⟩
    obtain ⟨rfl, hread⟩ := (hone x).1 hx
    exact ⟨hread, before, after, hunit, fun y hy => (hnone y).1 (hbefore y hy)⟩
  · rintro ⟨hread, before, after, hunit, hbefore⟩
    exact ⟨before, e, after, hunit, (hone e).2 ⟨rfl, hread⟩, fun y hy => (hnone y).2 (hbefore y hy)⟩

/-- The readings are those of the witnesses. -/
theorem mem_readings {e : Endpoint} {r : ChainReading} :
    (e, r) ∈ args.readings ↔ args.IsWitness e ∧ args.readingOf e = .ok r := by
  unfold readings
  rw [List.mem_filterMap]
  constructor
  · rintro ⟨unit, hunit, hread⟩
    obtain ⟨hread, hfirst⟩ := readUnit_eq_some.1 hread
    refine ⟨⟨?_, unit, hunit, hfirst⟩, hread⟩
    unfold reads
    rw [hread]
    rfl
  · rintro ⟨⟨-, unit, hunit, hfirst⟩, hread⟩
    exact ⟨unit, hunit, readUnit_eq_some.2 ⟨hread, hfirst⟩⟩

/-- A witness passed the probe. -/
theorem mem_eligible_of_witness {e : Endpoint} (h : args.IsWitness e) : ∃ probe, (e, probe) ∈ args.eligible := by
  obtain ⟨-, unit, hunit, before, after, rfl, -⟩ := h
  have hcomponents : Components (Linked _) (args.eligible.map (·.1)) args.units := independenceGroups_components _
  have hmem : e ∈ args.eligible.map (·.1) := hcomponents.mem hunit (by simp)
  obtain ⟨⟨_, probe⟩, hprobe, rfl⟩ := List.mem_map.1 hmem
  exact ⟨probe, hprobe⟩

end Witnesses

/-! ## Agreement -/

section Agreement

variable {args : SideArgs}

theorem holds_of_mem {e : Endpoint} {r : ChainReading} (h : (e, r) ∈ args.readings) :
    r.Holds args.runtime e args.pin args.maxRangeBlocks args.queries :=
  readChain_holds (mem_readings.1 h).2

theorem length_eraseDups_le_one {α : Type} [DecidableEq α] {l : List α} :
    l.eraseDups.length ≤ 1 ↔ ∀ a ∈ l, ∀ b ∈ l, a = b := by
  constructor
  · intro h a ha b hb
    rw [← List.mem_eraseDups] at ha hb
    match hl : l.eraseDups, h with
    | [], _ =>
      rw [hl] at ha
      cases ha
    | [x], _ =>
      rw [hl, List.mem_singleton] at ha hb
      rw [ha, hb]
  · intro h
    by_contra hlong
    have hnodup := nodup_eraseDups l
    match hl : l.eraseDups, hlong with
    | [], hlong => exact hlong (Nat.zero_le 1)
    | [x], hlong => exact hlong (le_refl 1)
    | x :: y :: rest, _ =>
      rw [hl] at hnodup
      have hx : x ∈ l := List.mem_eraseDups.1 (hl ▸ List.mem_cons_self)
      have hy : y ∈ l := List.mem_eraseDups.1 (hl ▸ List.mem_cons_of_mem _ List.mem_cons_self)
      exact (List.nodup_cons.1 hnodup).1 (h x hx y hy ▸ List.mem_cons_self)

/-- Every reading has a text, and the texts are as different as the readings. -/
theorem exists_texts (args : SideArgs) : ∃ texts, args.readings.mapM (fun r => canonicalStringify args.nfc r.2.toJs) = .ok texts ∧
    (texts.eraseDups.length ≤ 1 ↔ ∀ x ∈ args.readings, ∀ y ∈ args.readings, x.2 = y.2) := by
  have htext : ∀ x ∈ args.readings, ∃ text, canonicalStringify args.nfc x.2.toJs = .ok text := fun x hx =>
    (holds_of_mem hx).exists_text
  obtain ⟨texts, htexts⟩ := exists_mapM_ok htext
  refine ⟨texts, htexts, ?_⟩
  rw [length_eraseDups_le_one]
  constructor
  · intro hsame x hx y hy
    obtain ⟨s, hs, hxs⟩ := mapM_ok_mem htexts hx
    obtain ⟨t, ht, hyt⟩ := mapM_ok_mem htexts hy
    rw [hsame t ht s hs] at hyt
    exact (holds_of_mem hx).inj_text (holds_of_mem hy) hxs hyt
  · intro hsame s hs t ht
    obtain ⟨x, hx, hxs⟩ := mem_mapM_ok htexts hs
    obtain ⟨y, hy, hyt⟩ := mem_mapM_ok htexts ht
    rw [hsame x hx y hy, hyt] at hxs
    exact (Except.ok.inj hxs).symm

theorem agreeOnReadings_cons {nfc : Nfc} {first : Endpoint × ChainReading} {rest : List (Endpoint × ChainReading)}
    {texts : List String} (h : (first :: rest).mapM (fun r => canonicalStringify nfc r.2.toJs) = .ok texts) (required : Nat) :
    agreeOnReadings nfc (first :: rest) required =
      .ok (if texts.eraseDups.length > 1 then .divergent
        else if (first :: rest).length < required then .insufficient
        else .ok first.2 ((first :: rest).map (·.1))) := by
  unfold agreeOnReadings
  rw [h]
  rfl

/-- A side is agreed on exactly when enough failure domains can be read, and all witnesses read the same. -/
theorem agreed_iff : (∃ side, collectSide args = .agreed side) ↔
    args.required ≤ args.readings.length ∧ ∀ x ∈ args.readings, ∀ y ∈ args.readings, x.2 = y.2 := by
  obtain ⟨texts, htexts, hsame⟩ := exists_texts args
  have hrequired := args.required_bound
  unfold collectSide
  cases hreadings : args.readings with
  | nil =>
    constructor
    · rintro ⟨side, h⟩
      cases h
    · rintro ⟨henough, -⟩
      rw [List.length_nil] at henough
      omega
  | cons first rest =>
    rw [hreadings] at htexts hsame
    rw [agreeOnReadings_cons htexts]
    by_cases hdivergent : texts.eraseDups.length > 1
    · rw [if_pos hdivergent]
      constructor
      · rintro ⟨side, h⟩
        cases h
      · rintro ⟨-, hall⟩
        exact absurd (hsame.2 hall) (Nat.not_le.2 hdivergent)
    · rw [if_neg hdivergent]
      have hall := hsame.1 (Nat.not_lt.1 hdivergent)
      by_cases hfew : (first :: rest).length < args.required
      · rw [if_pos hfew]
        constructor
        · rintro ⟨side, h⟩
          cases h
        · rintro ⟨henough, -⟩
          exact absurd henough (Nat.not_le.2 hfew)
      · rw [if_neg hfew]
        refine iff_of_true ?_ ⟨Nat.not_lt.1 hfew, hall⟩
        -- the first witness is among the endpoints that passed the probe
        have hmem : (first.1, first.2) ∈ args.readings := hreadings ▸ List.mem_cons_self
        obtain ⟨probe, hprobe⟩ := mem_eligible_of_witness (mem_readings.1 hmem).1
        have hfound : ∃ e, args.eligible.find? (fun e => ((first :: rest).map (·.1)).head?.map (·.id) = some e.1.id) = some e := by
          rw [← Option.isSome_iff_exists, List.find?_isSome]
          exact ⟨_, hprobe, decide_eq_true rfl⟩
        obtain ⟨e, he⟩ := hfound
        dsimp only
        rw [he]
        exact ⟨_, rfl⟩

end Agreement

end SideArgs

/-! ## Disagreement -/

/-- Two endpoints that one failure domain cannot be told from. -/
def SharesDomain (hostnameOf : Endpoint → Option String) (a b : Endpoint) : Prop :=
  Linked endpointClaim a b ∨ (correlationInput hostnameOf a).conclusive (correlationInput hostnameOf b) = true

namespace SideArgs

variable (args : SideArgs)

/-- The endpoint answers with the ids of the chain. -/
def OwnIds (e : Endpoint) : Prop := namesChain args.deployment args.runtime e args.pin true = .ok true

/-- Nothing that is declared or observed puts the endpoints into one failure domain. -/
def Apart (a b : Endpoint) : Prop := ¬ Connected (SharesDomain args.hostnameOf) args.endpoints a b

/-- The endpoints report different blocks at the pin, or answer a query with different well-formed results. -/
def Disagree (a b : Endpoint) : Prop :=
  (∃ block block', readBlock args.runtime a args.pin.blockNumber = .ok block ∧
    readBlock args.runtime b args.pin.blockNumber = .ok block' ∧ block.hash ≠ block'.hash) ∨
  (∃ query ∈ args.queries.logs, ∃ logs logs', answerLogs args.runtime a args.pin args.maxRangeBlocks query = .ok logs ∧
    answerLogs args.runtime b args.pin args.maxRangeBlocks query = .ok logs' ∧ logs ≠ logs') ∨
  ∃ call ∈ args.queries.calls, ∃ result result', answerCall args.runtime a args.pin call = .ok result ∧
    answerCall args.runtime b args.pin call = .ok result' ∧ result ≠ result'

variable {args}

/-- Endpoints that disagree are not read alike. -/
theorem Disagree.readings_ne {a b : Endpoint} (h : args.Disagree a b) {r r' : ChainReading} (hr : (a, r) ∈ args.readings)
    (hr' : (b, r') ∈ args.readings) : r ≠ r' := by
  rintro rfl
  have hholds := holds_of_mem hr
  have hholds' := holds_of_mem hr'
  rcases h with ⟨block, block', hblock, hblock', hne⟩ | ⟨query, hquery, logs, logs', hlogs, hlogs', hne⟩ |
    ⟨call, hcall, result, result', hresult, hresult', hne⟩
  -- the blocks differ: both readings passed the check of the pinned hash
  · obtain ⟨pinned, hpinned, hhash⟩ := hholds.pinned
    obtain ⟨pinned', hpinned', hhash'⟩ := hholds'.pinned
    rw [hpinned] at hblock
    rw [hpinned'] at hblock'
    cases hblock
    cases hblock'
    exact hne (hhash.trans hhash'.symm)
  · obtain ⟨row, hrow, hname, hanswer⟩ := exists_row_of_forall₂ hholds.logs hquery
    obtain ⟨row', hrow', hname', hanswer'⟩ := exists_row_of_forall₂ hholds'.logs hquery
    rw [hanswer] at hlogs
    rw [hanswer'] at hlogs'
    cases hlogs
    cases hlogs'
    exact hne (congrArg Prod.snd (r.logs.eq_of_key hrow hrow' (hname.trans hname'.symm)))
  · obtain ⟨row, hrow, hname, hanswer⟩ := exists_row_of_forall₂ hholds.calls hcall
    obtain ⟨row', hrow', hname', hanswer'⟩ := exists_row_of_forall₂ hholds'.calls hcall
    rw [hanswer] at hresult
    rw [hanswer'] at hresult'
    cases hresult
    cases hresult'
    exact hne (congrArg Prod.snd (r.calls.eq_of_key hrow hrow' (hname.trans hname'.symm)))

theorem IsWitness.exists_reading {e : Endpoint} (h : args.IsWitness e) : ∃ r, (e, r) ∈ args.readings := by
  have hok := h.1
  unfold reads at hok
  cases hreading : args.readingOf e with
  | error failure =>
    rw [hreading] at hok
    cases hok
  | ok r => exact ⟨r, mem_readings.2 ⟨h, hreading⟩⟩

/-- "Byte-identical or nothing", among witnesses: no side is agreed on where two of them disagree, however many others
are read alike. -/
theorem disagreement_refuses_of_witnesses (args : SideArgs) (a b : Endpoint) (hwitness : args.IsWitness a)
    (hwitness' : args.IsWitness b) (hdisagree : args.Disagree a b) (side : AgreedSide) : collectSide args ≠ .agreed side := by
  intro hside
  obtain ⟨r, hr⟩ := hwitness.exists_reading
  obtain ⟨r', hr'⟩ := hwitness'.exists_reading
  have hsame : r = r' := (agreed_iff.1 ⟨side, hside⟩).2 _ hr _ hr'
  exact hdisagree.readings_ne hr hr' hsame

end SideArgs

/-! ## Two against one -/

def sampleWord (digit : Char) : String := "0x" ++ String.ofList (List.replicate 64 digit)

def sampleEndpoint (id : Slug) (secretRef : String) : Endpoint where
  id := id
  trustDomain := id
  providerGroup := id
  role := .primary
  secretRef := secretRef
  archiveDepth := .full

def nodeA : Endpoint := sampleEndpoint ⟨"node-a", isSlug_nodeA⟩ "ICTT_SENTINEL_RPC_A"
def nodeB : Endpoint := sampleEndpoint ⟨"node-b", isSlug_nodeB⟩ "ICTT_SENTINEL_RPC_B"
def nodeC : Endpoint := sampleEndpoint ⟨"node-c", isSlug_nodeC⟩ "ICTT_SENTINEL_RPC_C"

def sampleBlock (number hash : String) : Json :=
  .obj [("hash", .str hash), ("number", .str number), ("timestamp", .str "0x64")]

/-- Every endpoint is on the chain, and node-c reports another block at height 16 than the others. -/
def sampleReads (e : Endpoint) (op : ReadOperation) : Except Failure Json :=
  match op with
  | .evmChainId => .ok (.str "0x3e8")
  | .networkVersion => .ok (.str "5")
  | .warpBlockchainId _ => .ok (.str (sampleWord '2'))
  | .blockByRef (.number 0) => .ok (sampleBlock "0x0" (sampleWord '1'))
  | .blockByRef _ => .ok (sampleBlock "0x10" (sampleWord (if e = nodeC then 'c' else 'a')))
  | .logs _ _ _ _ => .ok (.arr [])
  | .storageSlot _ _ _ => .ok (.str (sampleWord '0'))
  | .headBlockNumber => .ok (.str "0x10")
  | .call _ _ _ => .ok (.str "0x01")
  | .code _ _ => .ok (.str "0x6000")

def sampleSide : SideArgs where
  label := "home"
  deployment := {
    chain := {
      blockchainId := sampleWord '2'
      evmChainId := 1000
      networkId := 5
      subnetId := sampleWord '9'
      genesisHash := some (sampleWord '1')
      trustedCheckpoint := none
      finality := { mode := .settledQuorum, acceptedStateQueries := .unknown, maxLagSeconds := 60 }
      endpoints := [nodeA, nodeB, nodeC]
      independentTrustDomains := 2
      endpoints_bounds := by decide
      quorum_bounds := two_quorum_bounds }
    contract := {
      role := .erc20TokenHome
      address := "0x00000000000000000000000000000000000000aa"
      deploymentBlock := 0
      proxy := { kind := .none, implementation := none, admin := none }
      fingerprint := {
        runtimeCodeHash := some (sampleWord 'f')
        allowedImplementationHashes := []
        sourceRef := some ⟨pinnedCommitSha, "icm-contracts/avalanche/ictt/TokenHome/ERC20TokenHome.sol"⟩ } } }
  pin := { blockchainId := sampleWord '2', blockNumber := 16, blockHash := sampleWord 'a' }
  queries := {
    logs := []
    calls := [{ name := "home.decimals", to_ := "0x00000000000000000000000000000000000000aa", data := "0x313ce567" }]
    logNames_nodup := by decide
    callNames_nodup := by decide
    logNames_ascii := by decide
    callNames_ascii := by decide }
  required := 2
  hostnameOf := fun _ => none
  runtime := { read := sampleReads, now := fun _ => 110000 }
  keccak256 := fun _ => sampleWord 'f'
  nfc := sampleNfc
  maxRangeBlocks := 10
  maxLogs := 100
  required_bound := le_refl 2

/-- All report the same block, and node-c answers the call with another word. -/
def contestedReads (e : Endpoint) (op : ReadOperation) : Except Failure Json :=
  match op with
  | .blockByRef (.number 0) => .ok (sampleBlock "0x0" (sampleWord '1'))
  | .blockByRef _ => .ok (sampleBlock "0x10" (sampleWord 'a'))
  | .call _ _ _ => .ok (.str (if e = nodeC then "0x02" else "0x01"))
  | op => sampleReads e op

def contestedSide : SideArgs := { sampleSide with runtime := { read := contestedReads, now := fun _ => 110000 } }

/-- The call that node-c answers otherwise keeps the side from being agreed on. -/
theorem disagreement_refuses_of_witnesses_contested : ¬ ∃ side, collectSide contestedSide = .agreed side := by
  rintro ⟨side, hagreed⟩
  have hunits : contestedSide.units = [[nodeA], [nodeB], [nodeC]] := by decide +kernel
  have hreads : contestedSide.reads nodeA = true ∧ contestedSide.reads nodeC = true := by decide +kernel
  have hdisagree : contestedSide.Disagree nodeA nodeC := by
    refine Or.inr (Or.inr ⟨_, List.mem_singleton_self _, "0x01", "0x02", ?_, ?_, by decide⟩)
    · decide +kernel
    · decide +kernel
  exact SideArgs.disagreement_refuses_of_witnesses contestedSide nodeA nodeC
    ⟨hreads.1, [nodeA], by rw [hunits]; decide, [], [], rfl, fun x hx => absurd hx List.not_mem_nil⟩
    ⟨hreads.2, [nodeC], by rw [hunits]; decide, [], [], rfl, fun x hx => absurd hx List.not_mem_nil⟩ hdisagree side hagreed

theorem sampleSide_apart {a b : Endpoint} (hne : a ≠ b) : sampleSide.Apart a b := by
  have hown : ∀ x ∈ sampleSide.endpoints, ∀ y ∈ sampleSide.endpoints,
      ((endpointClaim x).trustDomain = (endpointClaim y).trustDomain ∨ (endpointClaim x).providerGroup = (endpointClaim y).providerGroup) ∨
        (correlationInput sampleSide.hostnameOf x).conclusive (correlationInput sampleSide.hostnameOf y) = true → x = y := by
    decide +kernel
  intro hconnected
  apply hne
  clear hne
  -- a chain of links never leaves the endpoint it starts from
  induction hconnected with
  | refl => rfl
  | tail _ hlast ih => exact ih.trans (hown _ hlast.1 _ hlast.2.1 hlast.2.2)

/-- Two endpoints outvote the third: the side is agreed on. -/
theorem two_against_one_agree : ¬ ∀ (args : SideArgs), ∀ a ∈ args.endpoints, ∀ b ∈ args.endpoints,
    args.OwnIds a → args.OwnIds b → args.Apart a b → args.Disagree a b → ∀ side, collectSide args ≠ .agreed side := by
  intro hclaim
  have hids : ∀ e, e = nodeA ∨ e = nodeC → sampleSide.OwnIds e := by
    rintro e (rfl | rfl)
    · exact (by decide +kernel : namesChain sampleSide.deployment sampleSide.runtime nodeA sampleSide.pin true = .ok true)
    · exact (by decide +kernel : namesChain sampleSide.deployment sampleSide.runtime nodeC sampleSide.pin true = .ok true)
  have hdisagree : sampleSide.Disagree nodeA nodeC := by
    refine Or.inl ⟨⟨sampleWord 'a', 100⟩, ⟨sampleWord 'c', 100⟩, ?_, ?_, ?_⟩
    · decide +kernel
    · decide +kernel
    · decide +kernel
  have hpair : sampleSide.readings.length = 2 ∧
      (sampleSide.readings.head?.map (·.2) = sampleSide.readings.getLast?.map (·.2)) := by
    decide +kernel
  obtain ⟨x, y, hreadings⟩ := List.length_eq_two.1 hpair.1
  have hsame : x.2 = y.2 := by
    have hends := hpair.2
    rw [hreadings] at hends
    exact Option.some_inj.1 hends
  obtain ⟨side, hside⟩ : ∃ side, collectSide sampleSide = .agreed side := by
    refine SideArgs.agreed_iff.2 ⟨by rw [hreadings]; exact le_rfl, ?_⟩
    rw [hreadings]
    simp [hsame]
  have hmember : nodeA ∈ sampleSide.endpoints := List.mem_cons_self
  have hother : nodeC ∈ sampleSide.endpoints := by decide +kernel
  exact hclaim sampleSide nodeA hmember nodeC hother (hids _ (Or.inl rfl)) (hids _ (Or.inr rfl))
    (sampleSide_apart (by decide)) hdisagree side hside

end IcttSentinel.Collector
