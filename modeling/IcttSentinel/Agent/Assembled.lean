/-
How an observation of a range is put together. The log source takes the boundary hashes from the
blocks it has read and gives every fact the chain it asked; what it leaves to the endpoint is that the logs lie in the
range and that a log and a block with one hash have one number.
-/
import IcttSentinel.Agent.Observation
import IcttSentinel.Replay.Strict

namespace IcttSentinel.Agent

open IcttSentinel.Config IcttSentinel.Lib IcttSentinel.Replay IcttSentinel.RpcQuorum IcttSentinel.Storage

section Endpoint

variable (ask : ReadOperation → Except SourceError Json) (chainKey : String) (range : BlockRange) (observedAt : Int)

/-- The endpoint answers a height with this block. -/
def AnswersBlock (height : Int) (b : BlockFact) : Prop :=
  ∃ raw, ask (.blockByRef (.number height)) = .ok raw ∧ decodeBlock chainKey raw observedAt = .ok b

/-- The endpoint has this log among those of the range. -/
def AnswersLog (l : LogFact) : Prop :=
  ∃ raw elements value, ask (.logs range.fromBlock range.toBlock none none) = .ok raw ∧ raw.elements? = some elements ∧
    value ∈ elements ∧ decodeLog chainKey value observedAt = .ok l

/-- The endpoint answers for one chain: its logs lie in the range it was asked for, and have the number of every block
it answers with their hash. -/
structure AnswersOneChain : Prop where
  inside : ∀ l, AnswersLog ask chainKey range observedAt l → Within range l.blockNumber
  named : ∀ l, AnswersLog ask chainKey range observedAt l → ∀ height b, AnswersBlock ask chainKey observedAt height b →
    b.blockHash = l.blockHash → b.blockNumber = l.blockNumber

variable {ask chainKey range observedAt}

theorem expect_eq_ok {α : Type} {message : String} {value : Option α} {a : α} (h : expect message value = .ok a) :
    value = some a := by
  cases value with
  | none => cases h
  | some b =>
    cases h
    rfl

theorem decodeBlock_chainKey {value : Json} {b : BlockFact} (h : decodeBlock chainKey value observedAt = .ok b) :
    b.chainKey = chainKey := by
  obtain ⟨_, -, h⟩ := bind_eq_ok.1 h
  obtain ⟨_, -, h⟩ := bind_eq_ok.1 h
  obtain ⟨_, -, h⟩ := bind_eq_ok.1 h
  obtain ⟨_, -, h⟩ := bind_eq_ok.1 h
  obtain ⟨_, -, h⟩ := bind_eq_ok.1 h
  cases h
  rfl

theorem decodeLog_chainKey {value : Json} {l : LogFact} (h : decodeLog chainKey value observedAt = .ok l) :
    l.chainKey = chainKey := by
  unfold decodeLog at h
  simp only [bind_eq_ok] at h
  obtain ⟨_, -, _, -, _, -, _, -, _, -, _, -, _, -, _, -, _, -, _, -, _, -, h⟩ := h
  cases h
  rfl

variable {maxRangeBlocks : Nat} {group : String} {viaArchive : Bool} {o : RangeObservation}

/-- What the log source observes at an endpoint that answers for one chain is put together from the blocks of it. -/
theorem observe_assembled (h : observe ask chainKey maxRangeBlocks group range observedAt viaArchive = .ok (.ok o))
    (hendpoint : AnswersOneChain ask chainKey range observedAt) (hplain : '|' ∉ chainKey.toList) : Assembled o := by
  obtain ⟨_, -, h⟩ := bind_eq_ok.1 h
  obtain ⟨raw, hraw, h⟩ := bind_eq_ok.1 h
  obtain ⟨elements, helements, h⟩ := bind_eq_ok.1 h
  obtain ⟨logs, hlogs, h⟩ := bind_eq_ok.1 h
  obtain ⟨blocks, hblocks, h⟩ := bind_eq_ok.1 h
  -- every log and every block comes from an answer of the one endpoint
  have hlog : ∀ l ∈ logs, l.chainKey = chainKey ∧ AnswersLog ask chainKey range observedAt l := by
    intro l hl
    obtain ⟨value, hvalue, hdecode⟩ := mem_mapM_ok hlogs hl
    exact ⟨decodeLog_chainKey hdecode, raw, elements, value, hraw, expect_eq_ok helements, hvalue, hdecode⟩
  have hblock : ∀ b ∈ blocks, b.chainKey = chainKey ∧ ∃ height, AnswersBlock ask chainKey observedAt height b := by
    intro b hb
    obtain ⟨height, -, hread⟩ := mem_mapM_ok hblocks hb
    obtain ⟨raw, hraw, hdecode⟩ := bind_eq_ok.1 hread
    exact ⟨decodeBlock_chainKey hdecode, height, raw, hraw, hdecode⟩
  split at h
  · rename_i start end_ hstart hend
    split at h
    · cases h
    · cases h
      refine ⟨fun l hl b hb hhash => ?_, by rw [hstart]; rfl, by rw [hend]; rfl, fun l hl => ?_⟩
      · obtain ⟨hchain, hanswered⟩ := hlog l hl
        obtain ⟨hchain', height, hread⟩ := hblock b hb
        have hnumber := hendpoint.named l hanswered height b hread hhash
        exact ⟨hchain'.trans hchain.symm, hnumber, hnumber ▸ hendpoint.inside l hanswered⟩
      · rw [(hlog l hl).1]
        exact hplain
  · cases h

end Endpoint

end IcttSentinel.Agent
