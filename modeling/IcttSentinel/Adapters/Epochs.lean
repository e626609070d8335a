/-
Implementation epochs, packages/ictt-adapters/src/fingerprint.ts `epochAt`: the epoch that governs a log position is
the last one that has started there, unless it has ended.

An epoch starts at a block, transaction and log index, compared in that order; the bounded search is the floor of the
position among the starts, whatever order the epochs are listed in.
-/
import IcttSentinel.Lib.Sorting

namespace IcttSentinel.Adapters

open IcttSentinel.Lib

/-- The block range over which one implementation was in force. -/
structure AdapterEpoch where
  adapterId : String
  implementationCodeHash : String
  fromBlock : Int
  fromTxIndex : Int
  fromLogIndex : Int
  toBlock : Option Int
  deriving DecidableEq, Repr

/-- A place in the log of a chain: block, transaction index and log index, in this order. -/
abbrev LogPosition := Int ×ₗ Int ×ₗ Int

def positionAt (blockNumber txIndex logIndex : Int) : LogPosition := toLex (blockNumber, toLex (txIndex, logIndex))

def AdapterEpoch.startsAt (e : AdapterEpoch) : LogPosition := positionAt e.fromBlock e.fromTxIndex e.fromLogIndex

theorem positionAt_le {b t l b' t' l' : Int} :
    positionAt b t l ≤ positionAt b' t' l' ↔ b < b' ∨ b = b' ∧ (t < t' ∨ t = t' ∧ l ≤ l') := by
  simp [positionAt, Prod.Lex.toLex_le_toLex]

/-! ## The lookup -/

/-- The comparison the epochs are sorted by. -/
def compareStarts (a b : AdapterEpoch) : Int :=
  if a.fromBlock = b.fromBlock then
    if a.fromTxIndex = b.fromTxIndex then a.fromLogIndex - b.fromLogIndex
    else a.fromTxIndex - b.fromTxIndex
  else if a.fromBlock < b.fromBlock then -1
  else 1

def ordered (epochs : List AdapterEpoch) : List AdapterEpoch := epochs.insertionSort fun a b => compareStarts a b ≤ 0

def AdapterEpoch.hasStarted (e : AdapterEpoch) (blockNumber txIndex logIndex : Int) : Bool :=
  blockNumber > e.fromBlock ||
    (blockNumber == e.fromBlock &&
      (txIndex > e.fromTxIndex || (txIndex == e.fromTxIndex && logIndex ≥ e.fromLogIndex)))

/-- The last epoch before the first that has not started. -/
def lastStarted (started : AdapterEpoch → Bool) : Option AdapterEpoch → List AdapterEpoch → Option AdapterEpoch
  | found, [] => found
  | found, e :: rest => if started e then lastStarted started (some e) rest else found

def precedes : String := "the position precedes every adapter epoch; the range is not interpretable"

def inGap : String := "the position falls in a gap after an epoch ended; the range is not interpretable"

/-- Which epoch governs a log position. -/
def epochAt (epochs : List AdapterEpoch) (blockNumber txIndex logIndex : Int) : Except String AdapterEpoch :=
  match lastStarted (fun e => e.hasStarted blockNumber txIndex logIndex) none (ordered epochs) with
  | none => .error precedes
  | some found =>
    match found.toBlock with
    | some toBlock => if blockNumber > toBlock then .error inGap else .ok found
    | none => .ok found

/-! ## The order of the starts -/

theorem compareStarts_nonpos {a b : AdapterEpoch} : compareStarts a b ≤ 0 ↔ a.startsAt ≤ b.startsAt := by
  rw [AdapterEpoch.startsAt, AdapterEpoch.startsAt, positionAt_le, compareStarts]
  split
  · split <;> omega
  · split <;> omega

theorem ordered_eq (epochs : List AdapterEpoch) : ordered epochs = sortOn AdapterEpoch.startsAt epochs := by
  simp only [ordered, sortOn, compareStarts_nonpos]

theorem hasStarted_iff {e : AdapterEpoch} {b t l : Int} :
    e.hasStarted b t l = true ↔ e.startsAt ≤ positionAt b t l := by
  rw [AdapterEpoch.startsAt, positionAt_le, AdapterEpoch.hasStarted]
  simp only [Bool.or_eq_true, Bool.and_eq_true, decide_eq_true_eq, beq_iff_eq]
  omega

/-! ## The floor of a position -/

/-- The epoch has the greatest start at or before the position. -/
structure Governs (epochs : List AdapterEpoch) (position : LogPosition) (e : AdapterEpoch) : Prop where
  mem : e ∈ epochs
  started : e.startsAt ≤ position
  greatest : ∀ e' ∈ epochs, e'.startsAt ≤ position → e'.startsAt ≤ e.startsAt

/-- The epoch has not ended at the block. -/
def InForce (e : AdapterEpoch) (blockNumber : Int) : Prop := ∀ toBlock, e.toBlock = some toBlock → blockNumber ≤ toBlock

theorem Governs.unique {epochs : List AdapterEpoch} {position : LogPosition} {e e' : AdapterEpoch}
    (hdistinct : (epochs.map AdapterEpoch.startsAt).Nodup) (h : Governs epochs position e)
    (h' : Governs epochs position e') : e = e' :=
  List.inj_on_of_nodup_map hdistinct h.mem h'.mem
    (le_antisymm (h'.greatest e h.mem h.started) (h.greatest e' h'.mem h'.started))

/-- The search over epochs in order: what it started from, or the last of them at or before the position. -/
theorem lastStarted_cases {started : AdapterEpoch → Bool} {position : LogPosition}
    (hstarted : ∀ e, started e = true ↔ e.startsAt ≤ position) {epochs : List AdapterEpoch}
    (hsorted : epochs.Pairwise fun a b => a.startsAt ≤ b.startsAt) (found : Option AdapterEpoch) :
    (lastStarted started found epochs = found ∧ ∀ e ∈ epochs, ¬e.startsAt ≤ position) ∨
      ∃ e, lastStarted started found epochs = some e ∧ Governs epochs position e := by
  induction epochs generalizing found with
  | nil => exact .inl ⟨rfl, by simp⟩
  | cons e rest ih =>
    obtain ⟨hfirst, hrest⟩ := List.pairwise_cons.1 hsorted
    rw [lastStarted]
    split
    next h =>
      have hle : e.startsAt ≤ position := (hstarted e).1 h
      refine .inr ?_
      rcases ih hrest (some e) with ⟨hlast, hnone⟩ | ⟨e', hlast, hgoverns⟩
      · refine ⟨e, hlast, ⟨List.mem_cons_self, hle, fun e' he' hpos => ?_⟩⟩
        rcases List.mem_cons.1 he' with rfl | he'
        · exact le_rfl
        · exact absurd hpos (hnone e' he')
      · refine ⟨e', hlast, ⟨List.mem_cons_of_mem _ hgoverns.mem, hgoverns.started, fun c hc hpos => ?_⟩⟩
        rcases List.mem_cons.1 hc with rfl | hc
        · exact hfirst e' hgoverns.mem
        · exact hgoverns.greatest c hc hpos
    next h =>
      -- the search stops here, and what follows starts later still
      have hlt : ¬e.startsAt ≤ position := fun hle => h ((hstarted e).2 hle)
      refine .inl ⟨rfl, fun e' he' => ?_⟩
      rcases List.mem_cons.1 he' with rfl | he'
      · exact hlt
      · exact fun hle => hlt ((hfirst e' he').trans hle)

/-- The three outcomes of the lookup: no epoch has started, the last one to start has ended, or it is in force. -/
theorem epochAt_cases (epochs : List AdapterEpoch) (b t l : Int) :
    (epochAt epochs b t l = .error precedes ∧ ∀ e ∈ epochs, ¬e.startsAt ≤ positionAt b t l) ∨
      ∃ e, Governs epochs (positionAt b t l) e ∧
        (epochAt epochs b t l = .error inGap ∧ ¬InForce e b ∨ epochAt epochs b t l = .ok e ∧ InForce e b) := by
  have hsorted : (ordered epochs).Pairwise fun a b => a.startsAt ≤ b.startsAt := by
    rw [ordered_eq]
    exact pairwise_sortOn _ _
  have hmem : ∀ e, e ∈ ordered epochs ↔ e ∈ epochs := fun e => List.mem_insertionSort _
  have hstarted : ∀ e, (fun e : AdapterEpoch => e.hasStarted b t l) e = true ↔ e.startsAt ≤ positionAt b t l :=
    fun e => hasStarted_iff
  unfold epochAt
  rcases lastStarted_cases hstarted hsorted none with ⟨hlast, hnone⟩ | ⟨e, hlast, hgoverns⟩
  · rw [hlast]
    exact .inl ⟨rfl, fun e he => hnone e ((hmem e).2 he)⟩
  · rw [hlast]
    refine .inr ⟨e, ⟨(hmem e).1 hgoverns.mem, hgoverns.started, fun e' he' => hgoverns.greatest e' ((hmem e').2 he')⟩, ?_⟩
    cases hend : e.toBlock with
    | none => exact .inr ⟨by simp only [hend], fun toBlock h => by rw [hend] at h; cases h⟩
    | some toBlock =>
      simp only [hend]
      split
      next hafter => exact .inl ⟨rfl, fun hforce => absurd (hforce toBlock hend) (by omega)⟩
      next hafter =>
        refine .inr ⟨rfl, fun to' h => ?_⟩
        rw [hend] at h
        cases h
        omega

/-! ## The lookup is exact -/

theorem epochAt_refuses {epochs : List AdapterEpoch} {b t l : Int}
    (h : ¬∃ e, Governs epochs (positionAt b t l) e ∧ InForce e b) :
    ∃ reason, epochAt epochs b t l = .error reason := by
  rcases epochAt_cases epochs b t l with ⟨hresult, _⟩ | ⟨e, hgoverns, ⟨hresult, _⟩ | ⟨hresult, hforce⟩⟩
  · exact ⟨_, hresult⟩
  · exact ⟨_, hresult⟩
  · exact absurd ⟨e, hgoverns, hforce⟩ h

section Exact

variable {epochs : List AdapterEpoch} (hdistinct : (epochs.map AdapterEpoch.startsAt).Nodup)

include hdistinct

theorem epochAt_eq_ok {b t l : Int} {e : AdapterEpoch} :
    epochAt epochs b t l = .ok e ↔ Governs epochs (positionAt b t l) e ∧ InForce e b := by
  rcases epochAt_cases epochs b t l with ⟨hresult, hnone⟩ | ⟨found, hgoverns, ⟨hresult, hended⟩ | ⟨hresult, hforce⟩⟩
  · rw [hresult]
    exact ⟨fun h => (by cases h), fun ⟨h, _⟩ => absurd h.started (hnone e h.mem)⟩
  · rw [hresult]
    refine ⟨fun h => (by cases h), fun ⟨h, hforce⟩ => ?_⟩
    rw [h.unique hdistinct hgoverns] at hforce
    exact absurd hforce hended
  · rw [hresult]
    constructor
    · intro h
      cases h
      exact ⟨hgoverns, hforce⟩
    · rintro ⟨h, _⟩
      rw [h.unique hdistinct hgoverns]

/-- The lookup returns the one epoch with the greatest start at or before the position, if it has not ended there, and
refuses otherwise; an upgrade inside a block parts the positions of the block. -/
theorem epochAt_exact :
    (∀ b t l, (∃! e, Governs epochs (positionAt b t l) e ∧ InForce e b ∧ epochAt epochs b t l = .ok e) ∨
      (¬∃ e, Governs epochs (positionAt b t l) e ∧ InForce e b) ∧ ∃ reason, epochAt epochs b t l = .error reason) ∧
    (∀ b t l e, epochAt epochs b t l = .ok e ↔ Governs epochs (positionAt b t l) e ∧ InForce e b) ∧
    ∀ upgrade ∈ epochs, ∀ b t l t' l' e e', positionAt b t l < upgrade.startsAt → upgrade.startsAt ≤ positionAt b t' l' →
      epochAt epochs b t l = .ok e → epochAt epochs b t' l' = .ok e' →
      e ≠ e' ∧ e.startsAt < upgrade.startsAt ∧ upgrade.startsAt ≤ e'.startsAt := by
  refine ⟨fun b t l => ?_, fun b t l e => epochAt_eq_ok hdistinct, ?_⟩
  · by_cases h : ∃ e, Governs epochs (positionAt b t l) e ∧ InForce e b
    · obtain ⟨e, hgoverns, hforce⟩ := h
      exact .inl ⟨e, ⟨hgoverns, hforce, (epochAt_eq_ok hdistinct).2 ⟨hgoverns, hforce⟩⟩,
        fun e' h' => h'.1.unique hdistinct hgoverns⟩
    · exact .inr ⟨h, epochAt_refuses h⟩
  · intro upgrade hupgrade b t l t' l' e e' hbefore hafter he he'
    have hearlier : e.startsAt < upgrade.startsAt := ((epochAt_eq_ok hdistinct).1 he).1.started.trans_lt hbefore
    have hlater : upgrade.startsAt ≤ e'.startsAt := ((epochAt_eq_ok hdistinct).1 he').1.greatest upgrade hupgrade hafter
    refine ⟨fun heq => ?_, hearlier, hlater⟩
    rw [heq] at hearlier
    exact absurd hlater (not_le.2 hearlier)

end Exact

def upgradedEpochs : List AdapterEpoch :=
  [{ adapterId := "v2", implementationCodeHash := "0x02", fromBlock := 200, fromTxIndex := 3, fromLogIndex := 7,
     toBlock := none },
   { adapterId := "v1", implementationCodeHash := "0x01", fromBlock := 100, fromTxIndex := 0, fromLogIndex := 0,
     toBlock := none }]

/-- The log before the upgrade in its block is decoded by the old implementation, the log at the upgrade by the new. -/
theorem epochAt_exact_upgraded :
    ∃ e e', epochAt upgradedEpochs 200 3 6 = .ok e ∧ epochAt upgradedEpochs 200 3 7 = .ok e' ∧ e ≠ e' := by
  have hdistinct : (upgradedEpochs.map AdapterEpoch.startsAt).Nodup := by decide
  have hold : epochAt upgradedEpochs 200 3 6 = .ok upgradedEpochs[1] := by decide
  have hnew : epochAt upgradedEpochs 200 3 7 = .ok upgradedEpochs[0] := by decide
  exact ⟨_, _, hold, hnew, ((epochAt_exact hdistinct).2.2 upgradedEpochs[0] (by decide) 200 3 6 3 7 _ _ (by decide)
    (by decide) hold hnew).1⟩

end IcttSentinel.Adapters
