/-
What a tick observed, apps/agent/src/runtime.ts `observationDigest`: "Two ticks that observed the same thing produce the
same digest". The text that is hashed names the chains in one order, whatever order they were replayed in, and tells
apart what they came back with: the checkpoint, the status and the reasons, and nothing else of a report.
-/
import IcttSentinel.Agent.Tick
import IcttSentinel.Replay.Facts

namespace IcttSentinel.Agent

open IcttSentinel.Lib IcttSentinel.Replay IcttSentinel.Storage

/-! ## What is observed of a chain -/

/-- What the digest covers of a chain; the reasons are in the order of their texts. -/
structure ChainView where
  chainKey : String
  checkpoint : Option Int
  status : ReplayStatus
  reasons : List String
  deriving DecidableEq, Repr

def ChainReport.view (c : ChainReport) : ChainView where
  chainKey := c.chainKey
  checkpoint := c.report.checkpointAfter
  status := c.report.status
  reasons := sortStrings (c.report.reasons.map (·.text))

def checkpointText (checkpoint : Option Int) : String := (checkpoint.map toString).getD "none"

/-- The four fields of a line. -/
def ChainView.fields (v : ChainView) : List String :=
  [v.chainKey, checkpointText v.checkpoint, statusText v.status, ",".intercalate v.reasons]

theorem observationPart_eq (c : ChainReport) : observationPart c = ":".intercalate c.view.fields := by
  simp only [ChainView.fields, ChainReport.view, String.intercalate_cons_cons, String.intercalate_singleton,
    observationPart, checkpointText, String.append_assoc]

/-- The reasons of a view are reasons of a replay. -/
def ChainView.Reasoned (v : ChainView) : Prop := ∀ s ∈ v.reasons, ∃ reason : ReplayReason, s = reason.text

theorem ChainReport.view_reasoned (c : ChainReport) : c.view.Reasoned := by
  intro s hs
  obtain ⟨reason, -, rfl⟩ := List.mem_map.1 (mem_sortStrings.1 hs)
  exact ⟨reason, rfl⟩

/-! ## The characters of a line -/

/-- None of the characters that separate what is digested. -/
def isPlain (s : String) : Bool := !s.toList.contains ':' && !s.toList.contains '|' && !s.toList.contains ','

theorem notMem_of_isPlain {s : String} (h : isPlain s = true) :
    ':' ∉ s.toList ∧ '|' ∉ s.toList ∧ ',' ∉ s.toList := by
  simpa [isPlain, and_assoc] using h

theorem isPlain_reason (reason : ReplayReason) : isPlain reason.text = true ∧ reason.text.toList ≠ [] := by
  cases reason <;> decide

theorem isPlain_status (status : ReplayStatus) : isPlain (statusText status) = true := by
  cases status <;> decide

theorem statusText_injective : Function.Injective statusText := by
  intro a b
  cases a <;> cases b <;> decide

theorem isPlain_checkpoint (checkpoint : Option Int) : isPlain (checkpointText checkpoint) = true := by
  cases checkpoint with
  | none => decide
  | some n =>
    have hnot : ∀ c : Char, c.isDigit = false → c ≠ '-' → c ∉ (toString n).toList := fun c hdigit hsign => notMem_decimal hdigit hsign n
    have hcolon := hnot ':' (by decide) (by decide)
    have hbar := hnot '|' (by decide) (by decide)
    have hcomma := hnot ',' (by decide) (by decide)
    have htext : checkpointText (some n) = toString n := rfl
    simp only [isPlain, htext, List.contains_eq_mem, hcolon, hbar, hcomma, decide_false, Bool.not_false, Bool.and_self]

theorem checkpointText_injective : Function.Injective checkpointText := by
  have hnone : ∀ n : Int, checkpointText (some n) ≠ checkpointText none := fun n h => by
    have hn : 'n' ∉ (toString n).toList := notMem_decimal (by decide) (by decide) n
    have htext : toString n = "none" := h
    rw [htext] at hn
    exact hn (by decide)
  intro a b h
  cases a with
  | none =>
    cases b with
    | none => rfl
    | some n => exact absurd h.symm (hnone n)
  | some m =>
    cases b with
    | none => exact absurd h (hnone m)
    | some n => exact congrArg some (decimal_injective h)

/-- The reasons of a line can be read back from their join. -/
theorem joined_reasons_inj {l l' : List String} (hl : ∀ s ∈ l, ∃ reason : ReplayReason, s = reason.text)
    (hl' : ∀ s ∈ l', ∃ reason : ReplayReason, s = reason.text) (h : ",".intercalate l = ",".intercalate l') : l = l' := by
  have hcomma : ∀ m : List String, (∀ s ∈ m, ∃ reason : ReplayReason, s = reason.text) → ∀ s ∈ m, ',' ∉ s.toList := by
    intro m hm s hs
    obtain ⟨reason, rfl⟩ := hm s hs
    exact (notMem_of_isPlain (isPlain_reason reason).1).2.2
  have hempty : ∀ m : List String, (∀ s ∈ m, ∃ reason : ReplayReason, s = reason.text) → ",".intercalate m = "" → m = [] := by
    intro m hm htext
    by_contra hne
    obtain ⟨s, hs⟩ := List.exists_mem_of_ne_nil m hne
    obtain ⟨reason, rfl⟩ := hm s hs
    obtain ⟨c, hc⟩ := List.exists_mem_of_ne_nil _ (isPlain_reason reason).2
    have hmem : c ∈ (",".intercalate m).toList := mem_toList_intercalate hs hc
    rw [htext] at hmem
    cases hmem
  by_cases hnil : l = []
  · rw [hnil] at h ⊢
    exact (hempty l' hl' h.symm).symm
  · by_cases hnil' : l' = []
    · rw [hnil'] at h
      exact absurd (hempty l hl h) hnil
    · exact intercalate_inj (hcomma l hl) (hcomma l' hl') hnil hnil' h

theorem notMem_joined_reasons {l : List String} (hl : ∀ s ∈ l, ∃ reason : ReplayReason, s = reason.text) :
    ':' ∉ (",".intercalate l).toList ∧ '|' ∉ (",".intercalate l).toList := by
  have hplain : ∀ s ∈ l, ':' ∉ s.toList ∧ '|' ∉ s.toList := by
    intro s hs
    obtain ⟨reason, rfl⟩ := hl s hs
    obtain ⟨hcolon, hbar, -⟩ := notMem_of_isPlain (isPlain_reason reason).1
    exact ⟨hcolon, hbar⟩
  exact ⟨notMem_intercalate (by decide) fun s hs => (hplain s hs).1, notMem_intercalate (by decide) fun s hs => (hplain s hs).2⟩

/-! ## Lines and texts -/

def ChainView.text (v : ChainView) : String := ":".intercalate v.fields

theorem ChainView.fields_plain {v : ChainView} (hkey : isPlain v.chainKey = true) (hreasons : v.Reasoned) :
    ∀ s ∈ v.fields, ':' ∉ s.toList ∧ '|' ∉ s.toList := by
  have hof : ∀ s : String, isPlain s = true → ':' ∉ s.toList ∧ '|' ∉ s.toList :=
    fun s h => ⟨(notMem_of_isPlain h).1, (notMem_of_isPlain h).2.1⟩
  intro s hs
  simp only [ChainView.fields, List.mem_cons, List.not_mem_nil, or_false] at hs
  rcases hs with rfl | rfl | rfl | rfl
  · exact hof _ hkey
  · exact hof _ (isPlain_checkpoint v.checkpoint)
  · exact hof _ (isPlain_status v.status)
  · exact notMem_joined_reasons hreasons

/-- A line tells what was observed of its chain. -/
theorem ChainView.text_inj {v w : ChainView} (hv : isPlain v.chainKey = true) (hw : isPlain w.chainKey = true)
    (hvr : v.Reasoned) (hwr : w.Reasoned) (h : v.text = w.text) : v = w := by
  have hfields : v.fields = w.fields :=
    intercalate_inj (fun s hs => (fields_plain hv hvr s hs).1) (fun s hs => (fields_plain hw hwr s hs).1)
      (List.cons_ne_nil _ _) (List.cons_ne_nil _ _) h
  simp only [ChainView.fields, List.cons.injEq, and_true] at hfields
  obtain ⟨hkey, hcheckpoint, hstatus, hreasons⟩ := hfields
  have hlist := joined_reasons_inj hvr hwr hreasons
  obtain ⟨chainKey, checkpoint, status, reasons⟩ := v
  obtain ⟨chainKey', checkpoint', status', reasons'⟩ := w
  dsimp only at hkey hcheckpoint hstatus hlist
  rw [hkey, checkpointText_injective hcheckpoint, statusText_injective hstatus, hlist]

theorem map_inj_of_mem {α β : Type} {f : α → β} {l l' : List α} (hf : ∀ a ∈ l, ∀ b ∈ l', f a = f b → a = b)
    (h : l.map f = l'.map f) : l = l' := by
  induction l generalizing l' with
  | nil => exact (List.map_eq_nil_iff.1 h.symm).symm
  | cons a l ih =>
    cases l' with
    | nil => cases h
    | cons b l' =>
      obtain ⟨hab, hrest⟩ := List.cons.inj h
      rw [hf a List.mem_cons_self b List.mem_cons_self hab,
        ih (fun c hc d hd => hf c (List.mem_cons_of_mem _ hc) d (List.mem_cons_of_mem _ hd)) hrest]

section Texts

variable {κ : Type} [LinearOrder κ] {collate : String → κ} {sha256 : String → String} {deploymentId : String}
  {chains chains' : List ChainReport}

/-- The reports have plain chain keys that the collation keeps apart. -/
structure Separated (collate : String → κ) (chains : List ChainReport) : Prop where
  plain : ∀ c ∈ chains, isPlain c.chainKey = true
  apart : ∀ c ∈ chains, ∀ d ∈ chains, collate c.chainKey = collate d.chainKey → c = d

/-- The views in the order they are digested in. -/
def viewsOf (collate : String → κ) (chains : List ChainReport) : List ChainView :=
  sortOn (fun v => collate v.chainKey) (chains.map ChainReport.view)

theorem observationText_eq : observationText collate deploymentId chains =
    "|".intercalate (deploymentId :: (viewsOf collate chains).map ChainView.text) := by
  have hsort : viewsOf collate chains = (sortOn (fun c => collate c.chainKey) chains).map ChainReport.view :=
    sortOn_map (fun c => rfl) chains
  have hlines : ((sortOn (fun c => collate c.chainKey) chains).map ChainReport.view).map ChainView.text =
      (sortOn (fun c => collate c.chainKey) chains).map observationPart := by
    rw [List.map_map]
    exact List.map_congr_left fun c _ => (observationPart_eq c).symm
  rw [observationText, hsort, hlines]

theorem viewsOf_perm (collate : String → κ) (chains : List ChainReport) :
    (viewsOf collate chains).Perm (chains.map ChainReport.view) :=
  sortOn_perm _ _

theorem mem_viewsOf {v : ChainView} (h : v ∈ viewsOf collate chains) : ∃ c ∈ chains, c.view = v := by
  simpa using (viewsOf_perm collate chains).mem_iff.1 h

theorem Separated.viewsOf_eq (h : Separated collate chains)
    (hperm : (chains.map ChainReport.view).Perm (chains'.map ChainReport.view)) :
    viewsOf collate chains = viewsOf collate chains' := by
  refine sortOn_eq_of_perm (fun v hv w hw hkey => ?_) hperm
  obtain ⟨c, hc, rfl⟩ := List.mem_map.1 hv
  obtain ⟨d, hd, rfl⟩ := List.mem_map.1 hw
  rw [h.apart c hc d hd hkey]

/-- A text tells the views it lists. -/
theorem texts_inj (hdeployment : '|' ∉ deploymentId.toList) (h : Separated collate chains)
    (h' : Separated collate chains')
    (htext : observationText collate deploymentId chains = observationText collate deploymentId chains') :
    viewsOf collate chains = viewsOf collate chains' := by
  have hplain : ∀ {cs : List ChainReport}, Separated collate cs → ∀ v ∈ viewsOf collate cs,
      isPlain v.chainKey = true ∧ v.Reasoned := by
    intro cs hcs v hv
    obtain ⟨c, hc, rfl⟩ := mem_viewsOf hv
    exact ⟨hcs.plain c hc, c.view_reasoned⟩
  have hbar : ∀ {cs : List ChainReport}, Separated collate cs →
      ∀ s ∈ deploymentId :: (viewsOf collate cs).map ChainView.text, '|' ∉ s.toList := by
    intro cs hcs s hs
    rcases List.mem_cons.1 hs with rfl | hs
    · exact hdeployment
    · obtain ⟨v, hv, rfl⟩ := List.mem_map.1 hs
      obtain ⟨hkey, hreasons⟩ := hplain hcs v hv
      exact notMem_intercalate (by decide) fun f hf => (ChainView.fields_plain hkey hreasons f hf).2
  rw [observationText_eq, observationText_eq] at htext
  have hlines := (List.cons.inj (intercalate_inj (hbar h) (hbar h') (List.cons_ne_nil _ _) (List.cons_ne_nil _ _) htext)).2
  refine map_inj_of_mem (fun v hv w hw heq => ?_) hlines
  obtain ⟨hkey, hreasons⟩ := hplain h v hv
  obtain ⟨hkey', hreasons'⟩ := hplain h' w hw
  exact ChainView.text_inj hkey hkey' hreasons hreasons' heq

/-- "Content-addressed over the committed checkpoints, per-chain statuses and reasons - never over the clock": the texts
of two ticks are one exactly when the chains came back with the same checkpoint, status and reasons, in whatever order
they and their reasons are listed, and whatever else their reports say. -/
theorem observationText_eq_iff (collate : String → κ) (deploymentId : String) (chains chains' : List ChainReport)
    (hdeployment : '|' ∉ deploymentId.toList) (h : Separated collate chains) (h' : Separated collate chains') :
    observationText collate deploymentId chains = observationText collate deploymentId chains' ↔
      (chains.map ChainReport.view).Perm (chains'.map ChainReport.view) := by
  constructor
  · intro htext
    refine (viewsOf_perm collate chains).symm.trans ?_
    rw [texts_inj hdeployment h h' htext]
    exact viewsOf_perm collate chains'
  · intro hperm
    rw [observationText_eq, observationText_eq, h.viewsOf_eq hperm]

end Texts

/-- A lane that was not replayed to its end, for the given reasons. -/
def sampleGap (chainKey : String) (reasons : List ReplayReason) (acceptedHead : Int) : ChainReport where
  chainKey
  report :=
    { ranges := []
      acceptedHead
      checkpointBefore := none
      checkpointAfter := some 7
      gapCount := 1
      status := .gap
      verdict := .unknown
      reasons
      integrityConflict := false }

/-- The ticks of two replays that met the same gap, at other heads and in another order. -/
def sampleGaps : List ChainReport × List ChainReport :=
  ([sampleGap "bridge/home" [.missingLog, .missingBlock] 9, sampleGap "bridge/remote" [] 4],
    [sampleGap "bridge/remote" [] 5, sampleGap "bridge/home" [.missingBlock, .missingLog] 12])

theorem observationText_of_gaps :
    observationText codeUnits "bridge" sampleGaps.1 = observationText codeUnits "bridge" sampleGaps.2 :=
  (observationText_eq_iff codeUnits "bridge" sampleGaps.1 sampleGaps.2 (by decide) ⟨by decide, by decide⟩
    ⟨by decide, by decide⟩).2 (by decide)

end IcttSentinel.Agent
