/-
The attempt budget of a delivery. `leaseDueAlerts` counts an attempt when it leases, so that "a
delivery that hangs forever must still consume its budget"; but only a settlement compares the count
with the budget, and a lease may expire unsettled. Where the budget holds, over every run of the
agents and the drainers.
-/
import IcttSentinel.Alerts.Isolation

namespace IcttSentinel.Alerts

open IcttSentinel.Domain IcttSentinel.Lib IcttSentinel.Storage

/-! ## Nothing is queued twice -/

section Requeue

variable {sha256 : String → String} {gates : String → Except String Unit} {outboxIdFor : String → String}

/-- A record that neither recovers nor gets worse pages nobody. -/
theorem shouldNotify_repeat {b : AlertRecord} {o : Observation}
    (hr : isRecovery (some b.currentVerdict) o.identity.toVerdict = false)
    (he : isEscalation (some b.currentVerdict) o.identity.toVerdict = false) :
    shouldNotify (some b) (foldSignal sha256 (some b) o) = false := by
  have hstate := (foldSignal_repeat sha256 hr he).1
  unfold shouldNotify
  rw [hstate]
  cases hb : b.state <;> simp [hb]

/-- In a filed store, no signal pages under a dedup key that is stored: the row under it stands at a
verdict at least as bad as the signal's, and at OK if that is OK. -/
theorem not_requeues {signals : List AlertSignal} (hids : CollisionFree sha256 signals) {db : AlertDb}
    (hfiled : AllFiled sha256 signals db) (e : OutboxEvent) (he : ∀ s ∈ e.signal?, s ∈ signals) :
    ¬ Requeues sha256 gates outboxIdFor db e := by
  cases e with
  | raised signal now dbNow ties =>
    rintro ⟨hstored, result, db', hraise, hpages⟩
    obtain ⟨existing, hmem, hkey⟩ := Keyed.has_iff.1 hstored
    have hexisting : (contextOf sha256 ties db signal).existing = some existing :=
      contextOf_existing.trans (Keyed.lookup_eq_some.2 ⟨hmem, hkey⟩)
    have hbefore : beforeOf (contextOf sha256 ties db signal) (identityOf signal) =
        some (toRecord existing (identityOf signal)) := by
      unfold beforeOf
      rw [hexisting]
    obtain ⟨-, ⟨hnone, -⟩ | ⟨-, hshaped, hnotified, -⟩⟩ := raiseAlert_ok hraise
    · cases hbefore.symm.trans hnone
    obtain ⟨s, hs, hrow⟩ := hfiled existing hmem
    -- the stored row was filed under the same identity, so it tells the same verdict
    have hidentity := hids.identity hs (he signal rfl) hrow.shaped hshaped (hrow.dedupKey.symm.trans hkey)
    have hverdict : s.verdict = signal.verdict := congrArg AlertIdentity.toVerdict hidentity
    obtain ⟨v, hv, hrank, hok⟩ := hrow.verdict
    rw [hverdict] at hrank hok
    have hcurrent : (toRecord existing (identityOf signal)).currentVerdict = v := by simp [toRecord, hv]
    have hr : isRecovery (some (toRecord existing (identityOf signal)).currentVerdict) signal.verdict = false := by
      rw [hcurrent, ← Bool.not_eq_true, isRecovery_some]
      exact fun h => h.1 (hok h.2)
    have hworse : isEscalation (some (toRecord existing (identityOf signal)).currentVerdict) signal.verdict = false := by
      rw [hcurrent, ← Bool.not_eq_true, isEscalation_some]
      omega
    -- the verdict neither recovers nor escalates, so the row is not queued again
    have hquiet : result.notified = false := by
      rw [hnotified]
      unfold afterOf
      rw [hbefore]
      exact shouldNotify_repeat hr hworse
    exact Bool.false_ne_true (hquiet.symm.trans hpages)
  | evaluated evaluationId => exact id
  | acknowledged incidentKey by_ at_ => exact id
  | tenantAcknowledged tenantId incidentKey by_ at_ => exact id
  | leased createdAt locked now limit leaseMs => exact id
  | settled outboxId deliveries status attempts nextAttemptAt => exact id

end Requeue

/-- The signal an event raises, if it raises one. -/
def DeliveryEvent.signal? : DeliveryEvent → Option AlertSignal
  | .agent e _ => e.signal?
  | _ => none

/-- The signals raised in a run. -/
def raisedIn (run : List DeliveryEvent) : List AlertSignal := run.filterMap DeliveryEvent.signal?

/-- The budget of the drainer that takes the step, if it settles. -/
def DeliveryEvent.budget? : DeliveryEvent → Option Nat
  | .agent _ _ => none
  | .leased options _ _ => some options.maxAttempts
  | .settled options _ _ => some options.maxAttempts

/-! ## The condition -/

section Run

variable (sha256 : String → String) (gates : String → Except String Unit) (outboxIdFor : String → String)
  (deployments : List String) (deploymentTenants : List (String × String))

/-- A row whose attempts are used up is not leased again after a lease of it has expired unsettled, and
no failed delivery is settled for another try once its row has been leased again. -/
structure SettledInTime (maxAttempts : Nat) (run : List DeliveryEvent) : Prop where
  expired : ∀ past options createdAt locked future, run = past ++ .leased options createdAt locked :: future →
    ∀ r ∈ dueRows createdAt locked (deliveryAfter sha256 gates outboxIdFor deployments deploymentTenants past).db
      options.now options.batchSize,
    ∀ l ∈ (deliveryAfter sha256 gates outboxIdFor deployments deploymentTenants past).unsettled,
      l.outboxId = r.outboxId → r.attempts < maxAttempts
  superseded : ∀ past options dispatch i future, run = past ++ .settled options dispatch i :: future →
    ∀ row, (deliveryAfter sha256 gates outboxIdFor deployments deploymentTenants past).unsettled[i]? = some row →
    ∀ payload, decodeNotification gates row.payload = .ok (some payload) → concluded (dispatch payload) = false →
    row.attempts < options.maxAttempts →
    ∀ l ∈ (deliveryAfter sha256 gates outboxIdFor deployments deploymentTenants past).leases,
      l.outboxId = row.outboxId → l.attempts ≤ row.attempts

end Run

/-! ## The invariant -/

/-- What a run of settled deliveries keeps: the leases of a row are numbered, a pending row has counted
them all, and one whose leases are all settled has budget left. -/
structure Budgeted (maxAttempts : Nat) (s : DeliveryState) : Prop where
  stored : ∀ l ∈ s.leases, ∃ r ∈ s.db.rows, r.outboxId = l.outboxId
  inHand : ∀ l ∈ s.unsettled, l ∈ s.leases
  numbered : ∀ l ∈ s.leases, l.attempts ≤ s.leaseCount l.outboxId
  latest : ∀ outboxId, 0 < s.leaseCount outboxId →
    ∃ l ∈ s.leases, l.outboxId = outboxId ∧ l.attempts = s.leaseCount outboxId
  counted : ∀ r ∈ s.db.rows, r.status = .pending → r.attempts = s.leaseCount r.outboxId
  left : ∀ r ∈ s.db.rows, r.status = .pending → (∀ l ∈ s.unsettled, l.outboxId ≠ r.outboxId) →
    s.leaseCount r.outboxId = 0 ∨ s.leaseCount r.outboxId < maxAttempts
  bounded : ∀ outboxId, s.leaseCount outboxId ≤ maxAttempts

theorem leaseCount_pos {s : DeliveryState} {outboxId : String} :
    0 < s.leaseCount outboxId ↔ ∃ l ∈ s.leases, l.outboxId = outboxId := by
  unfold DeliveryState.leaseCount
  rw [List.count_pos_iff, List.mem_map]

section Step

variable {sha256 : String → String} {gates : String → Except String Unit} {outboxIdFor : String → String}
  {maxAttempts : Nat} {s : DeliveryState}

/-- Transactions of agents and responders take no lease and queue no leased row. -/
theorem Budgeted.agent (h : Budgeted maxAttempts s) {e : OutboxEvent} (undrained : e.drains = false)
    (hnot : ¬ Requeues sha256 gates outboxIdFor s.db e) :
    Budgeted maxAttempts (deliveryStep sha256 gates outboxIdFor s (.agent e undrained)) := by
  obtain ⟨f, added, hrows, hf, hadded⟩ := agent_transacted sha256 gates outboxIdFor s.db e undrained
  -- a pending row was pending before with the same attempts, or is fresh
  have hmem : ∀ r ∈ (deliveryStep sha256 gates outboxIdFor s (.agent e undrained)).db.rows, r.status = .pending →
      (∃ old ∈ s.db.rows, old.outboxId = r.outboxId ∧ old.attempts = r.attempts ∧ old.status = .pending) ∨
        r.attempts = 0 ∧ s.leaseCount r.outboxId = 0 := by
    intro r hr hpending
    simp only [deliveryStep] at hr
    rw [hrows, List.mem_append] at hr
    rcases hr with hr | hr
    · obtain ⟨old, hold, rfl⟩ := List.mem_map.1 hr
      have hevolves := hf old hold
      exact Or.inl ⟨old, hold, hevolves.outboxId.symm, hevolves.attempts.symm,
        (hevolves.queued hpending).resolve_right hnot⟩
    · -- a fresh row has not been leased: the leased rows are stored
      have hfresh := hadded r hr
      refine Or.inr ⟨hfresh.attempts, ?_⟩
      by_contra hcount
      obtain ⟨l, hl, hlid⟩ := leaseCount_pos.1 (Nat.pos_of_ne_zero hcount)
      obtain ⟨old, hold, hid⟩ := h.stored l hl
      exact hfresh.outboxId old hold (hid.trans hlid)
  refine ⟨fun l hl => ?_, h.inHand, h.numbered, h.latest, fun r hr hpending => ?_, fun r hr hpending hsettled => ?_,
    h.bounded⟩
  · obtain ⟨r, hr, hid⟩ := h.stored l hl
    obtain ⟨r', hr', hid'⟩ := deliveryStep_stored hr (.agent e undrained)
    exact ⟨r', hr', hid'.trans hid⟩
  · show r.attempts = s.leaseCount r.outboxId
    rcases hmem r hr hpending with ⟨old, hold, hid, hattempts, hstatus⟩ | ⟨hattempts, hcount⟩
    · rw [← hattempts, ← hid]
      exact h.counted old hold hstatus
    · rw [hattempts, hcount]
      rfl
  · show s.leaseCount r.outboxId = 0 ∨ s.leaseCount r.outboxId < maxAttempts
    rcases hmem r hr hpending with ⟨old, hold, hid, -, hstatus⟩ | ⟨-, hcount⟩
    · rw [← hid]
      exact h.left old hold hstatus fun l hl => hid ▸ hsettled l hl
    · exact Or.inl hcount

/-- A lease within the budget counts once for each row it takes. -/
theorem Budgeted.leased (h : Budgeted maxAttempts s) (options : DrainOptions) (createdAt : String → Int)
    (locked : List String) (hbudget : 1 ≤ maxAttempts)
    (hexpired : ∀ r ∈ dueRows createdAt locked s.db options.now options.batchSize, ∀ l ∈ s.unsettled,
      l.outboxId = r.outboxId → r.attempts < maxAttempts) :
    Budgeted maxAttempts (deliveryStep sha256 gates outboxIdFor s (.leased options createdAt locked)) := by
  have hstored : ∀ r ∈ s.db.rows, ∃ r' ∈ (deliveryStep sha256 gates outboxIdFor s
      (.leased options createdAt locked)).db.rows, r'.outboxId = r.outboxId :=
    fun r hr => deliveryStep_stored hr _
  obtain hsame | ⟨db', hdb, hstep, hcount⟩ := deliveryStep_leased options createdAt locked
  · rw [hsame]
    exact h
  rw [hstep] at hstored hcount ⊢
  generalize hdueEq : dueRows createdAt locked s.db options.now options.batchSize = due at *
  -- a due row has budget left, whether a lease of it is still unsettled or not
  have hdue : ∀ r ∈ due, r ∈ s.db.rows ∧ r.attempts = s.leaseCount r.outboxId ∧
      s.leaseCount r.outboxId < maxAttempts := by
    intro r hr
    obtain ⟨hmem, hpending⟩ := mem_dueRows (hdueEq ▸ hr)
    have hcounted := h.counted r hmem hpending
    refine ⟨hmem, hcounted, ?_⟩
    by_cases hunsettled : ∃ l ∈ s.unsettled, l.outboxId = r.outboxId
    · obtain ⟨l, hl, hid⟩ := hunsettled
      have hleft := hexpired r hr l hl hid
      omega
    · push Not at hunsettled
      rcases h.left r hmem hpending hunsettled with hzero | hleft <;> omega
  have hnodup : (due.map AlertOutboxRow.outboxId).Nodup := hdueEq ▸ dueRows_nodup
  -- a row that is taken counts once more, and the others as before
  have hin : ∀ outboxId ∈ due.map AlertOutboxRow.outboxId,
      (due.map AlertOutboxRow.outboxId).count outboxId = 1 :=
    fun outboxId hmem => List.count_eq_one_of_mem hnodup hmem
  have hout : ∀ outboxId ∉ due.map AlertOutboxRow.outboxId, (due.map AlertOutboxRow.outboxId).count outboxId = 0 :=
    fun outboxId hmem => List.count_eq_zero.2 hmem
  constructor
  · intro l hl
    rcases List.mem_append.1 hl with hl | hl
    · obtain ⟨r, hr, hid⟩ := h.stored l hl
      obtain ⟨r', hr', hid'⟩ := hstored r hr
      exact ⟨r', hr', hid'.trans hid⟩
    · obtain ⟨r, hr, rfl⟩ := List.mem_map.1 hl
      exact hstored r (hdue r hr).1
  · intro l hl
    rcases List.mem_append.1 hl with hl | hl
    · exact List.mem_append_left _ (h.inHand l hl)
    · exact List.mem_append_right _ hl
  · intro l hl
    rw [hcount]
    rcases List.mem_append.1 hl with hl | hl
    · have hnumbered := h.numbered l hl
      omega
    · obtain ⟨r, hr, rfl⟩ := List.mem_map.1 hl
      have hone := hin r.outboxId (List.mem_map_of_mem hr)
      obtain ⟨-, hattempts, -⟩ := hdue r hr
      show r.attempts + 1 ≤ ((s.leaseCount r.outboxId + (due.map AlertOutboxRow.outboxId).count r.outboxId : Nat) : Int)
      omega
  · intro outboxId hpos
    rw [hcount] at hpos
    rw [hcount]
    by_cases hmem : outboxId ∈ due.map AlertOutboxRow.outboxId
    · obtain ⟨r, hr, rfl⟩ := List.mem_map.1 hmem
      refine ⟨_, List.mem_append_right _ (List.mem_map_of_mem hr), rfl, ?_⟩
      show r.attempts + 1 = _
      rw [hin r.outboxId hmem, (hdue r hr).2.1]
      rfl
    · rw [hout outboxId hmem, Nat.add_zero] at hpos ⊢
      obtain ⟨l, hl, hlatest⟩ := h.latest outboxId hpos
      exact ⟨l, List.mem_append_left _ hl, hlatest⟩
  · intro r' hr' hpending
    simp only [hdb] at hr'
    obtain ⟨r, hr, rfl⟩ := List.mem_map.1 hr'
    rw [hcount, leaseRow_outboxId]
    have hcounted := h.counted r hr ((leaseRow_isOpen _ _ r).2.symm.trans hpending)
    unfold leaseRow
    split
    · rename_i hmem
      rw [hin r.outboxId hmem]
      show r.attempts + 1 = _
      omega
    · rename_i hmem
      rw [hout r.outboxId hmem]
      exact hcounted
  · intro r' hr' hpending hsettled
    simp only [hdb] at hr'
    obtain ⟨r, hr, rfl⟩ := List.mem_map.1 hr'
    rw [leaseRow_outboxId] at hsettled ⊢
    -- every lease of the row is settled, so this drain did not take it
    have hnot : r.outboxId ∉ due.map AlertOutboxRow.outboxId := by
      intro hmem
      obtain ⟨d, hd, hid⟩ := List.mem_map.1 hmem
      exact hsettled _ (List.mem_append_right _ (List.mem_map_of_mem hd)) hid
    rw [hcount, hout r.outboxId hnot]
    exact h.left r hr ((leaseRow_isOpen _ _ r).2.symm.trans hpending) fun l hl =>
      hsettled l (List.mem_append_left _ hl)
  · intro outboxId
    rw [hcount]
    by_cases hmem : outboxId ∈ due.map AlertOutboxRow.outboxId
    · obtain ⟨r, hr, rfl⟩ := List.mem_map.1 hmem
      rw [hin r.outboxId hmem]
      exact (hdue r hr).2.2
    · rw [hout outboxId hmem]
      exact h.bounded outboxId

/-- The settlement of a row's latest lease leaves it pending only within the budget. -/
theorem Budgeted.settled (h : Budgeted maxAttempts s) (options : DrainOptions)
    (dispatch : NotificationPayload → List DeliveryReport) (i : Nat) (hoptions : options.maxAttempts ≤ maxAttempts)
    (hsuperseded : ∀ row, s.unsettled[i]? = some row →
      ∀ payload, decodeNotification gates row.payload = .ok (some payload) → concluded (dispatch payload) = false →
      row.attempts < options.maxAttempts → ∀ l ∈ s.leases, l.outboxId = row.outboxId → l.attempts ≤ row.attempts) :
    Budgeted maxAttempts (deliveryStep sha256 gates outboxIdFor s (.settled options dispatch i)) := by
  have hstored : ∀ r ∈ s.db.rows, ∃ r' ∈ (deliveryStep sha256 gates outboxIdFor s
      (.settled options dispatch i)).db.rows, r'.outboxId = r.outboxId :=
    fun r hr => deliveryStep_stored hr _
  obtain hsame | ⟨row, next, db', hrow, hnext, hdb, hstep⟩ := deliveryStep_settled options dispatch i
  · rw [hsame]
    exact h
  rw [hstep] at hstored ⊢
  have hleased : row ∈ s.leases := h.inHand row (List.mem_of_getElem? hrow)
  -- a row that is left pending has counted every lease of it, and has budget left
  have hretried : next.status = .pending →
      next.attempts = s.leaseCount row.outboxId ∧ s.leaseCount row.outboxId < maxAttempts := by
    intro hpending
    obtain ⟨hattempts, -, ⟨-, hstatus⟩ | ⟨payload, hdecoded, hstatus⟩⟩ := settlement_ok hnext
    · rw [hpending] at hstatus
      cases hstatus
    · rw [hpending] at hstatus
      split at hstatus
      · cases hstatus
      · split at hstatus
        · rename_i hconcluded hbudget
          -- the lease is not superseded, so it is the latest one and counts them all
          obtain ⟨l, hl, hid, hcount⟩ := h.latest row.outboxId (leaseCount_pos.2 ⟨row, hleased, rfl⟩)
          have hupper := h.numbered row hleased
          have hlower := hsuperseded row hrow payload hdecoded (by simpa using hconcluded) hbudget l hl hid
          constructor <;> omega
        · cases hstatus
  constructor
  · intro l hl
    obtain ⟨r, hr, hid⟩ := h.stored l hl
    obtain ⟨r', hr', hid'⟩ := hstored r hr
    exact ⟨r', hr', hid'.trans hid⟩
  · exact fun l hl => h.inHand l (List.mem_of_mem_eraseIdx hl)
  · exact h.numbered
  · exact h.latest
  · intro r' hr' hpending
    simp only [hdb] at hr'
    obtain ⟨r, hr, rfl⟩ := List.mem_map.1 hr'
    rw [settleRow_outboxId]
    unfold settleRow at hpending ⊢
    split at hpending
    · rename_i hid
      rw [if_pos hid, hid]
      exact (hretried hpending).1
    · rename_i hid
      rw [if_neg hid]
      exact h.counted r hr hpending
  · intro r' hr' hpending hsettled
    simp only [hdb] at hr'
    obtain ⟨r, hr, rfl⟩ := List.mem_map.1 hr'
    rw [settleRow_outboxId] at hsettled ⊢
    unfold settleRow at hpending
    split at hpending
    · rename_i hid
      rw [hid]
      exact Or.inr (hretried hpending).2
    · -- the lease that was settled is of another row
      rename_i hid
      refine h.left r hr hpending fun l hl hlid => ?_
      obtain ⟨j, hj⟩ := List.mem_iff_getElem?.1 hl
      by_cases hij : j = i
      · rw [hij, hrow] at hj
        obtain rfl := Option.some_inj.1 hj
        exact hid hlid.symm
      · exact hsettled l (List.mem_eraseIdx_iff_getElem?.2 ⟨j, hij, hj⟩) hlid
  · exact h.bounded

/-- Every step keeps the rows filed. -/
theorem AllFiled.deliveryStep {signals : List AlertSignal} (hids : CollisionFree sha256 signals)
    (h : AllFiled sha256 signals s.db) (e : DeliveryEvent) (he : ∀ signal ∈ e.signal?, signal ∈ signals) :
    AllFiled sha256 signals (deliveryStep sha256 gates outboxIdFor s e).db := by
  cases e with
  | agent e undrained => exact h.step hids e he
  | leased options createdAt locked =>
    obtain hsame | ⟨db', hdb, hstep, -⟩ := deliveryStep_leased options createdAt locked
    · rw [hsame]
      exact h
    · rw [hstep]
      exact h.update (leaseRow_filing _ _) hdb
  | settled options dispatch i =>
    obtain hsame | ⟨row, next, db', -, -, hdb, hstep⟩ := deliveryStep_settled options dispatch i
    · rw [hsame]
      exact h
    · rw [hstep]
      exact h.update (settleRow_filing _ _ _ _) hdb

end Step

/-! ## Runs -/

section Runs

variable {sha256 : String → String} {gates : String → Except String Unit} {outboxIdFor : String → String}
  {deployments : List String} {deploymentTenants : List (String × String)} {maxAttempts : Nat}

theorem mem_raisedIn {run : List DeliveryEvent} {signal : AlertSignal} :
    signal ∈ raisedIn run ↔ ∃ e ∈ run, e.signal? = some signal := List.mem_filterMap

theorem deliveryAfter_filed {signals : List AlertSignal} (hids : CollisionFree sha256 signals)
    (run : List DeliveryEvent) (hsub : ∀ signal ∈ raisedIn run, signal ∈ signals) :
    AllFiled sha256 signals (deliveryAfter sha256 gates outboxIdFor deployments deploymentTenants run).db := by
  induction run using List.reverseRecOn with
  | nil => exact fun r hr => nomatch hr
  | append_singleton past e ih =>
    simp only [raisedIn, List.filterMap_append, List.mem_append] at hsub
    rw [deliveryAfter_snoc]
    exact (ih fun signal hs => hsub signal (Or.inl hs)).deliveryStep hids e fun signal hs =>
      hsub signal (Or.inr (by simpa using hs))

/-- Every run of deliveries settled in time keeps the invariant. -/
theorem deliveryAfter_budgeted (run : List DeliveryEvent) (hids : CollisionFree sha256 (raisedIn run))
    (hbudget : ∀ e ∈ run, ∀ budget ∈ e.budget?, budget ≤ maxAttempts)
    (hsettled : SettledInTime sha256 gates outboxIdFor deployments deploymentTenants maxAttempts run)
    (past future : List DeliveryEvent) (hrun : run = past ++ future) :
    Budgeted maxAttempts (deliveryAfter sha256 gates outboxIdFor deployments deploymentTenants past) := by
  induction past using List.reverseRecOn generalizing future with
  | nil =>
    constructor
    · exact fun l hl => nomatch hl
    · exact fun l hl => nomatch hl
    · exact fun l hl => nomatch hl
    · exact fun outboxId hpos => absurd hpos (lt_irrefl 0)
    · exact fun r hr => nomatch hr
    · exact fun r hr => nomatch hr
    · exact fun outboxId => Nat.zero_le _
  | append_singleton past e ih =>
    rw [List.append_assoc, List.singleton_append] at hrun
    have hinv := ih (e :: future) hrun
    have he : e ∈ run := by simp [hrun]
    have hpast : ∀ signal ∈ raisedIn past, signal ∈ raisedIn run := by
      intro signal hs
      rw [mem_raisedIn] at hs ⊢
      obtain ⟨e', he', hsignal⟩ := hs
      exact ⟨e', by rw [hrun]; exact List.mem_append_left _ he', hsignal⟩
    -- what the past raised is among what the run raises, so its rows are filed
    have hfiled : AllFiled sha256 (raisedIn run)
        (deliveryAfter sha256 gates outboxIdFor deployments deploymentTenants past).db :=
      deliveryAfter_filed hids past hpast
    rw [deliveryAfter_snoc]
    cases e with
    | agent e undrained =>
      apply hinv.agent undrained
      exact not_requeues hids hfiled e fun signal hs => mem_raisedIn.2 ⟨_, he, hs⟩
    | leased options createdAt locked =>
      exact hinv.leased options createdAt locked
        (le_trans options.maxAttempts_pos (hbudget _ he _ rfl))
        (hsettled.expired past options createdAt locked future hrun)
    | settled options dispatch i =>
      exact hinv.settled options dispatch i (hbudget _ he _ rfl) (hsettled.superseded past options dispatch i future hrun)

/-- Over every run, with crashes and expired leases, in which rows out of budget are settled before their
lease expires and no superseded delivery is put up for another try: no row is leased more often than
the budget. -/
theorem leases_within_budget (run : List DeliveryEvent) (hids : CollisionFree sha256 (raisedIn run))
    (hbudget : ∀ e ∈ run, ∀ budget ∈ e.budget?, budget ≤ maxAttempts)
    (hsettled : SettledInTime sha256 gates outboxIdFor deployments deploymentTenants maxAttempts run)
    (past future : List DeliveryEvent) (hrun : run = past ++ future) (outboxId : String) :
    (deliveryAfter sha256 gates outboxIdFor deployments deploymentTenants past).leaseCount outboxId ≤ maxAttempts :=
  (deliveryAfter_budgeted run hids hbudget hsettled past future hrun).bounded outboxId

end Runs

/-! ### A delivery that is retried, and one that is cut off -/

/-- A delivery fails, is settled, and its row is leased again. -/
def sampleRetryRun : List DeliveryEvent :=
  [.agent (.raised sampleBreach 0 0 fun _ => 0) sampleBreach_undrained, .leased (sampleDrain 1000) (fun _ => 0) [],
    .settled (sampleDrain 1000) sampleUnreachable 0, .leased (sampleDrain 10000) (fun _ => 0) []]

theorem sampleRetryRun_settledInTime :
    SettledInTime sampleSha256 (fun _ => .ok ()) id ["sample"] [] 3 sampleRetryRun := by
  have hrun : (sampleDelivery (sampleRetryRun.take 1)).unsettled.length = 0 ∧
      (sampleDelivery (sampleRetryRun.take 3)).unsettled.length = 0 ∧
      ((sampleDelivery (sampleRetryRun.take 2)).unsettled.all fun row =>
        (sampleDelivery (sampleRetryRun.take 2)).leases.all fun l => l.attempts ≤ row.attempts) = true := by
    decide +kernel
  obtain ⟨hfirst, hsecond, hlatest⟩ := hrun
  -- an event of the run is known by the number of events before it
  have hevent : ∀ past e future, sampleRetryRun = past ++ e :: future →
      ∃ n, past = sampleRetryRun.take n ∧ sampleRetryRun[n]? = some e := by
    intro past e future hsplit
    refine ⟨past.length, ?_, ?_⟩ <;> simp [hsplit]
  constructor
  · intro past options createdAt locked future hsplit r _ l hl
    obtain ⟨n, rfl, he⟩ := hevent past _ future hsplit
    have hnone : (sampleDelivery (sampleRetryRun.take n)).unsettled.length = 0 := by
      rcases n with _ | _ | _ | _ | n
      · simp [sampleRetryRun] at he
      · exact hfirst
      · simp [sampleRetryRun] at he
      · exact hsecond
      · simp [sampleRetryRun] at he
    exact absurd hnone (List.length_pos_of_mem hl).ne'
  · intro past options dispatch i future hsplit row hrow payload _ _ _ l hl _
    obtain ⟨n, rfl, he⟩ := hevent past _ future hsplit
    obtain rfl : n = 2 := by
      rcases n with _ | _ | _ | _ | n
      · simp [sampleRetryRun] at he
      · simp [sampleRetryRun] at he
      · rfl
      · simp [sampleRetryRun] at he
      · simp [sampleRetryRun] at he
    exact of_decide_eq_true (List.all_eq_true.1 (List.all_eq_true.1 hlatest row (List.mem_of_getElem? hrow)) l hl)

/-- The retried delivery is leased within its budget. -/
theorem leases_within_budget_sample :
    (sampleDelivery sampleRetryRun).leaseCount (dedupKey sampleSha256 (identityOf sampleBreach)) ≤ 3 := by
  refine leases_within_budget sampleRetryRun ⟨by decide +kernel, by decide +kernel⟩ ?_ sampleRetryRun_settledInTime
    sampleRetryRun [] (List.append_nil _).symm _
  decide +kernel

/-- A drainer that is cut off after each lease: the row falls due again whenever its lease expires. -/
def sampleCrashRun : List DeliveryEvent :=
  [.agent (.raised sampleBreach 0 0 fun _ => 0) sampleBreach_undrained, .leased (sampleDrain 1000) (fun _ => 0) [],
    .leased (sampleDrain 100000) (fun _ => 0) [], .leased (sampleDrain 200000) (fun _ => 0) [],
    .leased (sampleDrain 300000) (fun _ => 0) []]

/-- The budget is three attempts, and the row is leased a fourth time. -/
theorem crashes_outrun_budget : (sampleDrain 0).maxAttempts <
    (sampleDelivery sampleCrashRun).leaseCount (dedupKey sampleSha256 (identityOf sampleBreach)) := by
  decide +kernel

end IcttSentinel.Alerts
