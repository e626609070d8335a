/-
What a recovery cancels stays cancelled, or not. A recovery closes the rows of its incident and
cancels what is still queued; a drainer may have such a row in hand, and `settleAlert` writes its
status over whatever the row has become since. The exact condition, over every interleaving of the
transactions of agents, responders and drainers.
-/
import IcttSentinel.Alerts.Delivery

namespace IcttSentinel.Alerts

open IcttSentinel.Domain IcttSentinel.Lib IcttSentinel.Storage

/-- A recovery has cancelled the row. -/
def Cancelled (db : AlertDb) (outboxId : String) : Prop :=
  ∃ r ∈ db.rows, r.outboxId = outboxId ∧ r.status = .cancelled

section Run

variable (sha256 : String → String) (gates : String → Except String Unit) (outboxIdFor : String → String)
  (deployments : List String) (deploymentTenants : List (String × String))

/-- From the moment a row is cancelled it is never pending, sent or leased again. -/
def Isolated (run : List DeliveryEvent) : Prop :=
  ∀ past middle future, run = past ++ middle ++ future → ∀ outboxId,
    Cancelled (deliveryAfter sha256 gates outboxIdFor deployments deploymentTenants past).db outboxId →
    (∀ r ∈ (deliveryAfter sha256 gates outboxIdFor deployments deploymentTenants (past ++ middle)).db.rows,
      r.outboxId = outboxId → r.status ≠ .pending ∧ r.status ≠ .sent) ∧
    (deliveryAfter sha256 gates outboxIdFor deployments deploymentTenants (past ++ middle)).leaseCount outboxId =
      (deliveryAfter sha256 gates outboxIdFor deployments deploymentTenants past).leaseCount outboxId

/-- No delivery of a readable row that a recovery has cancelled meanwhile is settled, unless it came to
nothing and its attempts are used up. -/
def NoLateSettlement (run : List DeliveryEvent) : Prop :=
  ∀ past options dispatch i future, run = past ++ .settled options dispatch i :: future →
    ∀ row, (deliveryAfter sha256 gates outboxIdFor deployments deploymentTenants past).unsettled[i]? = some row →
    ∀ earlier later, past = earlier ++ later →
      Cancelled (deliveryAfter sha256 gates outboxIdFor deployments deploymentTenants earlier).db row.outboxId →
      ∀ payload, decodeNotification gates row.payload = .ok (some payload) →
        concluded (dispatch payload) = false ∧ (options.maxAttempts : Int) ≤ row.attempts

end Run

/-! ## Steps -/

/-- The row is closed and out of the queue for good. -/
def Halted (db : AlertDb) (outboxId : String) : Prop :=
  ∃ r ∈ db.rows, r.outboxId = outboxId ∧ r.isOpen = false ∧ (r.status = .cancelled ∨ r.status = .abandoned)

/-- Between its steps the store keeps a cancelled row closed, and a row in a drainer's hand stored. -/
structure DeliveryState.Sound (s : DeliveryState) : Prop where
  cancelled : ∀ r ∈ s.db.rows, r.status = .cancelled → r.isOpen = false
  inHand : ∀ l ∈ s.unsettled, (∃ r ∈ s.db.rows, r.outboxId = l.outboxId) ∧ 0 ≤ l.attempts ∧ fitsInteger l.attempts = true

section Step

variable {sha256 : String → String} {gates : String → Except String Unit} {outboxIdFor : String → String}
  {s : DeliveryState}

theorem leaseRow_isOpen (leased : List String) (until_ : Int) (r : AlertOutboxRow) :
    (leaseRow leased until_ r).isOpen = r.isOpen ∧ (leaseRow leased until_ r).status = r.status := by
  unfold leaseRow
  split <;> exact ⟨rfl, rfl⟩

theorem settleRow_isOpen (outboxId : String) (status : OutboxStatus) (attempts nextAttemptAt : Int)
    (r : AlertOutboxRow) : (settleRow outboxId status attempts nextAttemptAt r).isOpen = r.isOpen := by
  unfold settleRow
  split <;> rfl

theorem settlement_status {options : DrainOptions} {dispatch : NotificationPayload → List DeliveryReport}
    {row : AlertOutboxRow} {next : Settlement} (h : settlement gates options dispatch row = .ok next) :
    next.status = .abandoned ∨
      (next.status = .pending ∨ next.status = .sent) ∧
        ∃ payload, decodeNotification gates row.payload = .ok (some payload) ∧
          ¬ (concluded (dispatch payload) = false ∧ (options.maxAttempts : Int) ≤ row.attempts) := by
  obtain ⟨-, -, ⟨-, hstatus⟩ | ⟨payload, hdecoded, hstatus⟩⟩ := settlement_ok h
  · exact Or.inl hstatus
  · rw [hstatus]
    split
    · rename_i hconcluded
      exact Or.inr ⟨Or.inr rfl, payload, hdecoded, fun h => by rw [hconcluded] at h; cases h.1⟩
    · split
      · rename_i hleft
        exact Or.inr ⟨Or.inl rfl, payload, hdecoded, fun h => absurd h.2 (by omega)⟩
      · exact Or.inl rfl

/-- Every step keeps the store sound. -/
theorem DeliveryState.Sound.step (h : s.Sound) (e : DeliveryEvent) :
    (deliveryStep sha256 gates outboxIdFor s e).Sound := by
  have hstored : ∀ l ∈ s.unsettled, ∃ r ∈ (deliveryStep sha256 gates outboxIdFor s e).db.rows,
      r.outboxId = l.outboxId := by
    intro l hl
    obtain ⟨⟨r, hr, hid⟩, -⟩ := h.inHand l hl
    obtain ⟨r', hr', hid'⟩ := deliveryStep_stored hr e
    exact ⟨r', hr', hid'.trans hid⟩
  cases e with
  | agent e undrained =>
    refine ⟨?_, fun l hl => ⟨hstored l hl, (h.inHand l hl).2⟩⟩
    -- a transaction of the agent rewrites stored rows and appends fresh ones
    obtain ⟨f, added, hrows, hf, hadded⟩ := agent_transacted sha256 gates outboxIdFor s.db e undrained
    intro r hr hcancelled
    simp only [deliveryStep] at hr
    rw [hrows, List.mem_append] at hr
    rcases hr with hr | hr
    · obtain ⟨old, hold, rfl⟩ := List.mem_map.1 hr
      rcases (hf old hold).cancelled hcancelled with hold' | hclosed
      · exact ((hf old hold).closed (h.cancelled old hold hold')).1
      · exact hclosed
    · -- a fresh row is pending or sent
      rcases (hadded r hr).status with hstatus | hstatus <;> · rw [hstatus] at hcancelled; cases hcancelled
  | leased options createdAt locked =>
    obtain hsame | ⟨db', hdb, hstep, -⟩ := deliveryStep_leased options createdAt locked
    · rw [hsame]
      exact h
    · rw [hstep] at hstored ⊢
      refine ⟨fun r hr hcancelled => ?_, fun l hl => ?_⟩
      · simp only [hdb] at hr
        obtain ⟨old, hold, rfl⟩ := List.mem_map.1 hr
        obtain ⟨hopen, hstatus⟩ := leaseRow_isOpen ((dueRows createdAt locked s.db options.now options.batchSize).map
          (·.outboxId)) (options.now + options.leaseMs) old
        rw [hopen]
        exact h.cancelled old hold (hstatus.symm.trans hcancelled)
      · rcases List.mem_append.1 hl with hl | hl
        · exact ⟨hstored l hl, (h.inHand l hl).2⟩
        · -- the leased row is stored with its attempts
          obtain ⟨r, hr, rfl⟩ := List.mem_map.1 hl
          have hleased : leaseRow ((dueRows createdAt locked s.db options.now options.batchSize).map (·.outboxId))
              (options.now + options.leaseMs) r ∈ db'.rows := by
            rw [hdb]
            exact List.mem_map_of_mem (mem_dueRows hr).1
          have hcheck := AlertOutboxRow.check_eq_ok.1 (db'.alertOutbox.checks _ hleased)
          rw [leaseRow, if_pos (List.mem_map_of_mem hr), Bool.and_eq_true] at hcheck
          exact ⟨⟨_, hleased, leaseRow_outboxId _ _ r⟩, hcheck.2.1, hcheck.1.1⟩
  | settled options dispatch i =>
    obtain hsame | ⟨row, next, db', -, hnext, hdb, hstep⟩ := deliveryStep_settled options dispatch i
    · rw [hsame]
      exact h
    · rw [hstep] at hstored ⊢
      refine ⟨fun r hr hcancelled => ?_, fun l hl => ?_⟩
      · simp only [hdb] at hr
        obtain ⟨old, hold, rfl⟩ := List.mem_map.1 hr
        rw [settleRow_isOpen]
        apply h.cancelled old hold
        unfold settleRow at hcancelled
        split at hcancelled
        · -- a drainer never cancels
          rcases settlement_status hnext with hstatus | ⟨hstatus | hstatus, -⟩ <;>
            · simp only [hstatus] at hcancelled
              cases hcancelled
        · exact hcancelled
      · have hl := List.mem_of_mem_eraseIdx hl
        exact ⟨hstored l hl, (h.inHand l hl).2⟩

/-- A halted row stays halted and is not leased, unless a settlement of it concludes or retries. -/
theorem Halted.step {outboxId : String} (h : Halted s.db outboxId) (e : DeliveryEvent)
    (hlate : ∀ options dispatch i row, e = .settled options dispatch i → s.unsettled[i]? = some row →
      row.outboxId = outboxId → ∀ payload, decodeNotification gates row.payload = .ok (some payload) →
        concluded (dispatch payload) = false ∧ (options.maxAttempts : Int) ≤ row.attempts) :
    Halted (deliveryStep sha256 gates outboxIdFor s e).db outboxId ∧
      (deliveryStep sha256 gates outboxIdFor s e).leaseCount outboxId = s.leaseCount outboxId := by
  have hhalted := h
  obtain ⟨r, hr, hid, hclosed, hstatus⟩ := h
  cases e with
  | agent e undrained =>
    refine ⟨?_, rfl⟩
    obtain ⟨f, added, hrows, hf, -⟩ := agent_transacted sha256 gates outboxIdFor s.db e undrained
    obtain ⟨hclosed', hstatus'⟩ := (hf r hr).closed hclosed
    refine ⟨f r, ?_, (hf r hr).outboxId.trans hid, hclosed', by rw [hstatus']; exact hstatus⟩
    simp only [deliveryStep]
    rw [hrows]
    exact List.mem_append_left _ (List.mem_map_of_mem hr)
  | leased options createdAt locked =>
    obtain hsame | ⟨db', hdb, hstep, hcount⟩ := deliveryStep_leased options createdAt locked
    · rw [hsame]
      exact ⟨hhalted, rfl⟩
    -- the row is not pending, so the lease does not select it
    have hnotDue : ∀ d ∈ dueRows createdAt locked s.db options.now options.batchSize, d.outboxId ≠ outboxId := by
      intro d hd hdid
      obtain ⟨hmem, hpending⟩ := mem_dueRows hd
      obtain rfl := s.db.eq_of_outboxId hmem hr (hdid.trans hid.symm)
      rcases hstatus with hstatus | hstatus <;> · rw [hpending] at hstatus; cases hstatus
    constructor
    · obtain ⟨hopen', hstatus'⟩ := leaseRow_isOpen ((dueRows createdAt locked s.db options.now options.batchSize).map
        (·.outboxId)) (options.now + options.leaseMs) r
      rw [hstep]
      refine ⟨_, ?_, (leaseRow_outboxId _ _ r).trans hid, hopen'.trans hclosed, by rw [hstatus']; exact hstatus⟩
      simp only [hdb]
      exact List.mem_map_of_mem hr
    · rw [hcount, Nat.add_eq_left, List.count_eq_zero]
      intro hmem
      obtain ⟨d, hd, hdid⟩ := List.mem_map.1 hmem
      exact hnotDue d hd hdid
  | settled options dispatch i =>
    obtain hsame | ⟨row, next, db', hrow, hnext, hdb, hstep⟩ := deliveryStep_settled options dispatch i
    · rw [hsame]
      exact ⟨hhalted, rfl⟩
    rw [hstep]
    refine ⟨⟨_, by simp only [hdb]; exact List.mem_map_of_mem hr, (settleRow_outboxId _ _ _ _ r).trans hid,
      (settleRow_isOpen _ _ _ _ r).trans hclosed, ?_⟩, rfl⟩
    unfold settleRow
    split
    · rename_i hrid
      have hgivesUp := hlate options dispatch i row rfl hrow (hrid.symm.trans hid)
      -- the lease that is settled late gives up, so the row ends abandoned and not retried
      rcases settlement_status hnext with habandoned | ⟨-, payload, hdecoded, hnot⟩
      · exact Or.inr habandoned
      · exact absurd (hgivesUp payload hdecoded) hnot
    · exact hstatus

/-- A settlement that does not give its row up makes it pending or sent. -/
theorem settled_status (h : s.Sound) {options : DrainOptions} {dispatch : NotificationPayload → List DeliveryReport}
    {i : Nat} {row : AlertOutboxRow} (hrow : s.unsettled[i]? = some row) {payload : NotificationPayload}
    (hdecoded : decodeNotification gates row.payload = .ok (some payload))
    (hnot : ¬ (concluded (dispatch payload) = false ∧ (options.maxAttempts : Int) ≤ row.attempts)) :
    ∃ r ∈ (deliveryStep sha256 gates outboxIdFor s (.settled options dispatch i)).db.rows,
      r.outboxId = row.outboxId ∧ (r.status = .pending ∨ r.status = .sent) := by
  obtain ⟨next, hnext⟩ : ∃ next, settlement gates options dispatch row = .ok next := by
    unfold settlement
    rw [hdecoded]
    exact ⟨_, rfl⟩
  obtain ⟨hattempts, hdeliveries, ⟨hnone, -⟩ | ⟨payload', hdecoded', hstatus⟩⟩ := settlement_ok hnext
  · rw [hdecoded] at hnone
    cases hnone
  rw [hdecoded] at hdecoded'
  cases hdecoded'
  obtain ⟨⟨r, hr, hid⟩, hpos, hfits⟩ := h.inHand row (List.mem_of_getElem? hrow)
  rw [← hid] at hdeliveries
  rw [← hattempts] at hpos hfits
  obtain ⟨db', hsettle⟩ := settleAlert_commits hr hdeliveries hpos hfits
  rw [hid] at hsettle
  have hstep : (deliveryStep sha256 gates outboxIdFor s (.settled options dispatch i)).db = db' := by
    simp only [deliveryStep, hrow, hnext, hsettle]
  rw [hstep, settleAlert_ok hsettle]
  refine ⟨_, List.mem_map_of_mem hr, (settleRow_outboxId _ _ _ _ r).trans hid, ?_⟩
  rw [settleRow, if_pos hid]
  simp only [hstatus]
  split
  · exact Or.inr rfl
  · rename_i hconcluded
    rw [if_pos (by by_contra hleft; exact hnot ⟨by simpa using hconcluded, by omega⟩)]
    exact Or.inl rfl

end Step

/-! ## Runs -/

section Runs

variable {sha256 : String → String} {gates : String → Except String Unit} {outboxIdFor : String → String}
  {deployments : List String} {deploymentTenants : List (String × String)}

theorem deliveryAfter_snoc (past : List DeliveryEvent) (e : DeliveryEvent) :
    deliveryAfter sha256 gates outboxIdFor deployments deploymentTenants (past ++ [e]) =
      deliveryStep sha256 gates outboxIdFor
        (deliveryAfter sha256 gates outboxIdFor deployments deploymentTenants past) e := by
  simp [deliveryAfter, List.foldl_append]

theorem deliveryAfter_sound (run : List DeliveryEvent) :
    (deliveryAfter sha256 gates outboxIdFor deployments deploymentTenants run).Sound := by
  induction run using List.reverseRecOn with
  | nil =>
    constructor
    · exact fun r hr => nomatch hr
    · exact fun l hl => nomatch hl
  | append_singleton past e ih =>
    rw [deliveryAfter_snoc]
    exact ih.step e

theorem Cancelled.halted {past : List DeliveryEvent} {outboxId : String}
    (h : Cancelled (deliveryAfter sha256 gates outboxIdFor deployments deploymentTenants past).db outboxId) :
    Halted (deliveryAfter sha256 gates outboxIdFor deployments deploymentTenants past).db outboxId := by
  obtain ⟨r, hr, hid, hstatus⟩ := h
  exact ⟨r, hr, hid, (deliveryAfter_sound past).cancelled r hr hstatus, Or.inl hstatus⟩

/-- Without late settlements, a cancelled row stays halted and is not leased again. -/
theorem halted_after {run : List DeliveryEvent}
    (hlate : NoLateSettlement sha256 gates outboxIdFor deployments deploymentTenants run)
    {past : List DeliveryEvent} {outboxId : String}
    (h : Cancelled (deliveryAfter sha256 gates outboxIdFor deployments deploymentTenants past).db outboxId)
    (middle future : List DeliveryEvent) (hrun : run = past ++ middle ++ future) :
    Halted (deliveryAfter sha256 gates outboxIdFor deployments deploymentTenants (past ++ middle)).db outboxId ∧
      (deliveryAfter sha256 gates outboxIdFor deployments deploymentTenants (past ++ middle)).leaseCount outboxId =
        (deliveryAfter sha256 gates outboxIdFor deployments deploymentTenants past).leaseCount outboxId := by
  induction middle using List.reverseRecOn generalizing future with
  | nil =>
    rw [List.append_nil]
    exact ⟨h.halted, rfl⟩
  | append_singleton middle e ih =>
    obtain ⟨hhalted, hcount⟩ := ih ([e] ++ future) (by simpa using hrun)
    rw [← List.append_assoc, deliveryAfter_snoc, ← hcount]
    apply hhalted.step
    rintro options dispatch i row rfl hrow rfl
    exact hlate (past ++ middle) options dispatch i future (by simpa using hrun) row hrow past middle rfl h

/-- Over every run of agents, responders and drainers: a row that a recovery has cancelled never becomes
pending or sent and is never leased again, exactly if no delivery of it is settled late. -/
theorem cancelled_isolated_iff (run : List DeliveryEvent) :
    Isolated sha256 gates outboxIdFor deployments deploymentTenants run ↔
      NoLateSettlement sha256 gates outboxIdFor deployments deploymentTenants run := by
  constructor
  · intro h past options dispatch i future hrun row hrow earlier later hpast hcancelled payload hdecoded
    by_contra hnot
    obtain ⟨r, hr, hid, hstatus⟩ := settled_status (deliveryAfter_sound past) hrow hdecoded hnot
    rw [← deliveryAfter_snoc, hpast, List.append_assoc] at hr
    have hisolated := (h earlier (later ++ [.settled options dispatch i]) future (by simp [hrun, hpast]) row.outboxId
      hcancelled).1 r hr hid
    rcases hstatus with hstatus | hstatus
    · exact hisolated.1 hstatus
    · exact hisolated.2 hstatus
  · intro hlate past middle future hrun outboxId hcancelled
    obtain ⟨⟨r, hr, hid, -, hstatus⟩, hcount⟩ := halted_after hlate hcancelled middle future hrun
    refine ⟨fun x hx hxid => ?_, hcount⟩
    obtain rfl := AlertDb.eq_of_outboxId _ hx hr (hxid.trans hid.symm)
    rcases hstatus with hstatus | hstatus <;> simp [hstatus]

end Runs

/-! ### A recovery between a lease and its settlement -/

def sampleDrain (now : Int) : DrainOptions where
  maxAttempts := 3
  leaseMs := 60000
  backoffMs := 1000
  batchSize := 32
  now
  deliveryIdFor outboxId target attempt := outboxId ++ "|" ++ target ++ "|" ++ toString attempt
  maxAttempts_pos := by decide

/-- The only target cannot be reached. -/
def sampleUnreachable (_ : NotificationPayload) : List DeliveryReport :=
  [{ targetId := "ops", outcome := .error, reason := "transport failed", httpStatus := none }]

theorem sampleBreach_undrained : (OutboxEvent.raised sampleBreach 0 0 fun _ => 0).drains = false := rfl

/-- A breach is queued and leased; it recovers while it is sent; the delivery fails and is settled, and
the row is leased again. -/
def sampleLateRun : List DeliveryEvent :=
  [.agent (.raised sampleBreach 0 0 fun _ => 0) sampleBreach_undrained, .leased (sampleDrain 1000) (fun _ => 0) [],
    .agent (.raised sampleRecovery 2000 2000 fun _ => 0) rfl, .settled (sampleDrain 1000) sampleUnreachable 0,
    .leased (sampleDrain 10000) (fun _ => 0) []]

def sampleDelivery (run : List DeliveryEvent) : DeliveryState :=
  deliveryAfter sampleSha256 (fun _ => .ok ()) id ["sample"] [] run

/-- The breach is cancelled, then pending, and then leased a second time. -/
theorem late_settlement_requeues :
    ¬ Isolated sampleSha256 (fun _ => .ok ()) id ["sample"] [] sampleLateRun := by
  intro h
  have hrun : (sampleDelivery (sampleLateRun.take 3)).db.rows.any (fun r =>
        r.outboxId = dedupKey sampleSha256 (identityOf sampleBreach) && r.status = .cancelled) = true ∧
      (sampleDelivery (sampleLateRun.take 3)).leaseCount (dedupKey sampleSha256 (identityOf sampleBreach)) = 1 ∧
      (sampleDelivery sampleLateRun).leaseCount (dedupKey sampleSha256 (identityOf sampleBreach)) = 2 := by
    decide +kernel
  obtain ⟨hany, hbefore, hafter⟩ := hrun
  obtain ⟨r, hr, hcancelled⟩ := List.any_eq_true.1 hany
  simp only [Bool.and_eq_true, decide_eq_true_eq] at hcancelled
  have hcount := (h (sampleLateRun.take 3) (sampleLateRun.drop 3) [] rfl _ ⟨r, hr, hcancelled⟩).2
  rw [List.take_append_drop] at hcount
  exact absurd (hafter.symm.trans (hcount.trans hbefore)) (by decide)

end IcttSentinel.Alerts
