/-
Conservation of the pending total. On a PASS the reported total is the sum of the differences
`D - S` of the remotes, and counts every pending envelope once for every listed remote whose route
it is on. It is therefore the sum of all pending envelopes, each accounted for exactly once, where
every envelope is on the route of a listed remote and no remote is listed twice: envelopes are
filtered per remote, so the rule itself sees neither an orphan nor a double.
-/
import IcttSentinel.InvariantCore.Characterisation
import IcttSentinel.Lib.Counting

namespace IcttSentinel.InvariantCore

open IcttSentinel.Domain IcttSentinel.Lib

/-- The route of a remote and of a pending envelope. -/
def RemoteObservation.route (r : RemoteObservation) : String × String := (r.remoteBlockchainId, r.remoteAddress)
def PendingEnvelope.route (p : PendingEnvelope) : String × String := (p.remoteBlockchainId, p.remoteAddress)

/-- How many of the listed remotes reconcile the envelope. -/
def timesMatched (input : ProofInput) (p : PendingEnvelope) : Nat := input.remotes.countP (ofRemote · p)

/-- Every pending envelope is accounted for exactly once, and the total says so. -/
structure AccountedOnce (input : ProofInput) (total : Int) : Prop where
  pendingSum : total = (input.pending.map (·.amount)).sum
  deltaSum : total = (input.remotes.map fun r => balanceOf r - supplyOf r).sum
  once : ∀ p ∈ input.pending, timesMatched input p = 1
  listedOnce : (input.remotes.map (·.route)).Nodup

/-- No remote is listed twice, and every pending envelope is on the route of a listed remote. -/
structure RosterExact (input : ProofInput) : Prop where
  distinct : (input.remotes.map (·.route)).Nodup
  noOrphan : ∀ p ∈ input.pending, p.route ∈ input.remotes.map (·.route)

theorem timesMatched_eq (input : ProofInput) (p : PendingEnvelope) :
    timesMatched input p = input.remotes.countP fun r => p.route = r.route := by
  refine List.countP_congr fun r _ => ?_
  simp [ofRemote, PendingEnvelope.route, RemoteObservation.route]

/-- The remotes' pending amounts count each envelope as often as it is matched. -/
theorem sum_pendingOf (input : ProofInput) :
    (input.remotes.map (pendingOf input)).sum =
      (input.pending.map fun p => (timesMatched input p : Int) * p.amount).sum :=
  sum_buckets input.remotes input.pending ofRemote (·.amount)

theorem RosterExact.once {input : ProofInput} (h : RosterExact input) :
    ∀ p ∈ input.pending, timesMatched input p = 1 := by
  intro p hp
  rw [timesMatched_eq]
  exact countP_name_eq_one h.distinct (h.noOrphan p hp)

/-- On a PASS the pending breakdown is reported, and its total is that of the remotes. -/
theorem pass_total {input : ProofInput} {hash : String → String}
    (h : (evaluateCanonicalErc20 input hash).output.result = .pass) :
    ∃ b, (evaluateCanonicalErc20 input hash).output.pending = some b ∧
      b.total = (input.remotes.map (pendingOf input)).sum ∧
      b.total = (input.remotes.map fun r => balanceOf r - supplyOf r).sum := by
  rw [evaluate_result, evaluateGateA_pass] at h
  obtain ⟨⟨ha, hr⟩, -⟩ := h
  have hobs := ha.2.1.observed
  obtain ⟨hdelta, hpending⟩ := sum_reconciliations hobs
  have hfields : (evaluateGateA input).perRemote = reconciliations input ∧
      (evaluateGateA input).totalPending = ((reconciliations input).map (·.pendingTotal)).sum := by
    rw [evaluateGateA_admissible ha]
    unfold reconcile
    dsimp only
    split
    · exact ⟨rfl, rfl⟩
    · split
      · exact ⟨rfl, rfl⟩
      · split <;> exact ⟨rfl, rfl⟩
  have hlen : (reconciliations input).length > 0 := by
    obtain ⟨r, hrm⟩ := List.exists_mem_of_ne_nil _ ha.2.1.remotes
    obtain ⟨x, hx, -⟩ : ∃ x, reconcileRemote r input = some x ∧ _ := reconcileRemote_observed (hobs r hrm)
    exact List.length_pos_of_mem (mem_reconciliations.2 ⟨r, hrm, hx⟩)
  -- on a pass every difference is explained by its pending total
  have hsame : (input.remotes.map (pendingOf input)).sum =
      (input.remotes.map fun r => balanceOf r - supplyOf r).sum :=
    congrArg List.sum (List.map_congr_left fun r hrm => (hr.explained r hrm).symm)
  refine ⟨pendingBreakdown input (evaluateGateA input), ?_, ?_, ?_⟩
  · simp only [evaluateCanonicalErc20, hfields.1, if_pos hlen]
  · simp only [pendingBreakdown, hfields.2, hpending]
  · simp only [pendingBreakdown, hfields.2, hpending, hsame]

/-- For every input that ends in PASS: the reported total counts every pending envelope once per
listed remote on its route, and all envelopes are accounted for exactly once if and only if the
roster is exact. -/
theorem pass_accounts_once_iff (input : ProofInput) (hash : String → String)
    (hpass : (evaluateCanonicalErc20 input hash).output.result = .pass) :
    ∃ b, (evaluateCanonicalErc20 input hash).output.pending = some b ∧
      b.total = (input.pending.map fun p => (timesMatched input p : Int) * p.amount).sum ∧
      (AccountedOnce input b.total ↔ RosterExact input) := by
  obtain ⟨b, hb, htotal, hdelta⟩ := pass_total hpass
  rw [sum_pendingOf] at htotal
  refine ⟨b, hb, htotal, fun h => ⟨h.listedOnce, fun p hp => ?_⟩, fun h => ⟨?_, hdelta, h.once, h.distinct⟩⟩
  · have honce := h.once p hp
    rw [timesMatched_eq] at honce
    exact mem_of_countP_name_eq_one honce
  · rw [htotal]
    refine congrArg List.sum (List.map_congr_left fun p hp => ?_)
    rw [h.once p hp]
    simp

theorem pass_accounts_once_sample :
    ∃ b, (evaluateCanonicalErc20 (sampleProof [sampleRemote 10 7 1] [samplePending "0xr" 3] 10) id).output.pending =
        some b ∧
      b.total = ((sampleProof [sampleRemote 10 7 1] [samplePending "0xr" 3] 10).pending.map fun p =>
        (timesMatched (sampleProof [sampleRemote 10 7 1] [samplePending "0xr" 3] 10) p : Int) * p.amount).sum ∧
      (AccountedOnce (sampleProof [sampleRemote 10 7 1] [samplePending "0xr" 3] 10) b.total ↔
        RosterExact (sampleProof [sampleRemote 10 7 1] [samplePending "0xr" 3] 10)) :=
  pass_accounts_once_iff _ id (by rw [evaluate_result]; decide +kernel)

/-- An envelope on the route of no listed remote: the verdict is PASS with a total of zero. -/
theorem orphan_pending_passes :
    (evaluateCanonicalErc20 (sampleProof [sampleRemote 10 10 1] [samplePending "0xother" 3] 10) id).output.result =
        .pass ∧
      ((evaluateCanonicalErc20 (sampleProof [sampleRemote 10 10 1] [samplePending "0xother" 3] 10) id).output.pending.map
        (·.total)) = some 0 ∧
      ((sampleProof [sampleRemote 10 10 1] [samplePending "0xother" 3] 10).pending.map (·.amount)).sum = 3 := by
  refine ⟨by rw [evaluate_result]; decide +kernel, by decide +kernel, by decide⟩

end IcttSentinel.InvariantCore
