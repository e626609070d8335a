/-
How the rows of the outbox are filed. Over every history of the outbox, each row stands under the
keys of one raised signal, in its deployment, rule and reason code, and at a verdict at least as bad
as that signal's. The keys are digests of texts, and the texts can be read back.
-/
import IcttSentinel.Alerts.Raise
import IcttSentinel.Lib.Joined

namespace IcttSentinel.Alerts

open IcttSentinel.Domain IcttSentinel.Lib IcttSentinel.Storage

/-! ## The texts under the keys -/

/-- The text whose digest is the dedup key. -/
def dedupText (id : AlertIdentity) : String :=
  domain ++ "\n" ++ "|".intercalate
    [id.deploymentId, id.ruleId, id.reasonCode,
      priorText id.fromVerdict ++ "->" ++ id.toVerdict.text, id.evidenceDigest]

/-- The text whose digest is the incident key. -/
def incidentText (id : AlertIdentity) : String :=
  domain ++ "/incident" ++ "\n" ++ "|".intercalate [id.deploymentId, id.ruleId, id.reasonCode]

theorem toList_dedupText (id : AlertIdentity) :
    (dedupText id).toList = (domain ++ "\n").toList ++ (id.deploymentId.toList ++ '|' :: (id.ruleId.toList ++ '|' ::
      ((id.reasonCode.toList ++ '|' :: (priorText id.fromVerdict ++ "->" ++ id.toVerdict.text).toList) ++
        '|' :: id.evidenceDigest.toList))) := by
  show (domain ++ "\n" ++ (id.deploymentId ++ "|" ++ id.ruleId ++ "|" ++ id.reasonCode ++ "|" ++
    (priorText id.fromVerdict ++ "->" ++ id.toVerdict.text) ++ "|" ++ id.evidenceDigest)).toList = _
  simp

theorem toList_incidentText (id : AlertIdentity) :
    (incidentText id).toList = (domain ++ "/incident" ++ "\n").toList ++
      (id.deploymentId.toList ++ '|' :: (id.ruleId.toList ++ '|' :: id.reasonCode.toList)) := by
  show (domain ++ "/incident" ++ "\n" ++ (id.deploymentId ++ "|" ++ id.ruleId ++ "|" ++ id.reasonCode)).toList = _
  simp

theorem text_injective {v w : Verdict} (h : v.text = w.text) : v = w := by
  revert h
  cases v <;> cases w <;> decide

theorem priorText_injective {v w : Option Verdict} (h : priorText v = priorText w) : v = w := by
  revert h
  rcases v with _ | v <;> rcases w with _ | w
  · exact fun _ => rfl
  · cases w <;> decide
  · cases v <;> decide
  · exact fun h => congrArg some (text_injective h)

/-- A transition can be read back from its text: no verdict is spelled with a dash. -/
theorem transition_injective {a b : Option Verdict} {v w : Verdict}
    (h : priorText a ++ "->" ++ v.text = priorText b ++ "->" ++ w.text) : a = b ∧ v = w := by
  have hdash : ∀ x : Option Verdict, '-' ∉ (priorText x).toList := by
    rintro (_ | x)
    · decide
    · cases x <;> decide
  have hlists : (priorText a).toList ++ '-' :: ('>' :: v.text.toList) =
      (priorText b).toList ++ '-' :: ('>' :: w.text.toList) := by
    have := congrArg String.toList h
    simpa using this
  obtain ⟨hfrom, hto⟩ := append_cons_inj (hdash a) (hdash b) hlists
  exact ⟨priorText_injective (String.toList_injective hfrom),
    text_injective (String.toList_injective (List.cons.inj hto).2)⟩

theorem bar_notMem_transition (a : Option Verdict) (v : Verdict) :
    '|' ∉ (priorText a ++ "->" ++ v.text).toList := by
  rcases a with _ | a
  · cases v <;> decide
  · cases a <;> cases v <;> decide

/-- The dedup text of a shaped signal spells out its whole identity. The reason code may hold the
separator: it is what remains when the ids are cut off in front, and the digest and the transition
behind. -/
theorem dedupText_injective {s t : AlertSignal} (hs : s.Shaped) (ht : t.Shaped)
    (h : dedupText (identityOf s) = dedupText (identityOf t)) : identityOf s = identityOf t := by
  have hlists := congrArg String.toList h
  rw [toList_dedupText, toList_dedupText] at hlists
  obtain ⟨hdeployment, hlists⟩ := append_cons_inj (notMem_of_isId hs.deploymentId) (notMem_of_isId ht.deploymentId)
    (List.append_cancel_left hlists)
  obtain ⟨hrule, hlists⟩ := append_cons_inj (notMem_of_isId hs.ruleId) (notMem_of_isId ht.ruleId) hlists
  obtain ⟨hlists, hdigest⟩ := append_cons_inj_right (notMem_of_isHex64 hs.evidenceHash)
    (notMem_of_isHex64 ht.evidenceHash) hlists
  obtain ⟨hreason, htransition⟩ := append_cons_inj_right (bar_notMem_transition _ _) (bar_notMem_transition _ _) hlists
  obtain ⟨hfrom, hto⟩ := transition_injective (String.toList_injective htransition)
  show AlertIdentity.mk _ _ _ _ _ _ = AlertIdentity.mk _ _ _ _ _ _
  rw [AlertIdentity.mk.injEq]
  exact ⟨String.toList_injective hdeployment, String.toList_injective hrule, String.toList_injective hreason, hfrom,
    hto, String.toList_injective hdigest⟩

/-- The incident text of a shaped signal spells out its deployment, rule and reason code. -/
theorem incidentText_injective {s t : AlertSignal} (hs : s.Shaped) (ht : t.Shaped)
    (h : incidentText (identityOf s) = incidentText (identityOf t)) :
    s.deploymentId = t.deploymentId ∧ s.ruleId = t.ruleId ∧ s.reasonCode = t.reasonCode := by
  have hlists := congrArg String.toList h
  rw [toList_incidentText, toList_incidentText] at hlists
  obtain ⟨hdeployment, hlists⟩ := append_cons_inj (notMem_of_isId hs.deploymentId) (notMem_of_isId ht.deploymentId)
    (List.append_cancel_left hlists)
  obtain ⟨hrule, hreason⟩ := append_cons_inj (notMem_of_isId hs.ruleId) (notMem_of_isId ht.ruleId) hlists
  exact ⟨String.toList_injective hdeployment, String.toList_injective hrule, String.toList_injective hreason⟩

/-! ## Histories of the outbox -/

/-- One transaction on the outbox, by any agent, drainer or responder. -/
inductive OutboxEvent where
  | evaluated (evaluationId : String)
  | raised (signal : AlertSignal) (now dbNow : Int) (ties : AlertOutboxRow → Nat)
  | acknowledged (incidentKey by_ : String) (at_ : Int)
  | tenantAcknowledged (tenantId incidentKey by_ : String) (at_ : Int)
  | leased (createdAt : String → Int) (locked : List String) (now : Int) (limit : Nat) (leaseMs : Int)
  | settled (outboxId : String) (deliveries : List DeliveryRecord) (status : OutboxStatus)
      (attempts nextAttemptAt : Int)

/-- The signal an event raises, if it raises one. -/
def OutboxEvent.signal? : OutboxEvent → Option AlertSignal
  | .raised signal _ _ _ => some signal
  | _ => none

/-- The signals raised in a history. -/
def signalsOf (history : List OutboxEvent) : List AlertSignal := history.filterMap OutboxEvent.signal?

/-- A transaction that fails is rolled back. -/
def committed {ε α : Type} (db : AlertDb) (state : α → AlertDb) : Except ε α → AlertDb
  | .error _ => db
  | .ok a => state a

section History

variable (sha256 : String → String) (gates : String → Except String Unit) (outboxIdFor : String → String)

def outboxStep (db : AlertDb) : OutboxEvent → AlertDb
  | .evaluated evaluationId => { db with evaluations := db.evaluations ++ [evaluationId] }
  | .raised signal now dbNow ties =>
    committed db Prod.snd (raiseAlert sha256 gates outboxIdFor ties db signal now dbNow)
  | .acknowledged incidentKey by_ at_ => committed db Prod.snd (acknowledgeAlert db incidentKey by_ at_)
  | .tenantAcknowledged tenantId incidentKey by_ at_ =>
    committed db Prod.snd (acknowledgeTenantAlert db tenantId incidentKey by_ at_)
  | .leased createdAt locked now limit leaseMs =>
    committed db Prod.snd (leaseDueAlerts createdAt locked db now limit leaseMs)
  | .settled outboxId deliveries status attempts nextAttemptAt =>
    committed db id (settleAlert db outboxId deliveries status attempts nextAttemptAt)

/-- The store after a history, from the registration of its deployments on. -/
def outboxAfter (deployments : List String) (deploymentTenants : List (String × String)) (history : List OutboxEvent) :
    AlertDb :=
  history.foldl (outboxStep sha256 gates outboxIdFor) (.registered deployments deploymentTenants)

/-- No two texts hashed for the keys of these signals share a digest. -/
structure CollisionFree (signals : List AlertSignal) : Prop where
  dedup : ∀ s ∈ signals, ∀ t ∈ signals, dedupKey sha256 (identityOf s) = dedupKey sha256 (identityOf t) →
    dedupText (identityOf s) = dedupText (identityOf t)
  incident : ∀ s ∈ signals, ∀ t ∈ signals, incidentKey sha256 (identityOf s) = incidentKey sha256 (identityOf t) →
    incidentText (identityOf s) = incidentText (identityOf t)

theorem CollisionFree.mono {signals signals' : List AlertSignal} (h : CollisionFree sha256 signals)
    (hsub : ∀ s ∈ signals', s ∈ signals) : CollisionFree sha256 signals' :=
  ⟨fun s hs t ht => h.dedup s (hsub s hs) t (hsub t ht), fun s hs t ht => h.incident s (hsub s hs) t (hsub t ht)⟩

/-! ## Where a row is filed -/

/-- The row was written for the signal, or for signals of the same identity, last. -/
structure Filed (signal : AlertSignal) (r : AlertOutboxRow) : Prop where
  shaped : signal.Shaped
  dedupKey : r.dedupKey = Alerts.dedupKey sha256 (identityOf signal)
  incidentKey : r.incidentKey = Alerts.incidentKey sha256 (identityOf signal)
  deploymentId : r.deploymentId = signal.deploymentId
  ruleId : r.ruleId = some signal.ruleId
  reasonCode : r.reasonCode = some signal.reasonCode
  verdict : ∃ v, r.verdictTo = some v ∧ signal.verdict.rank ≤ v.rank ∧ (signal.verdict = .ok → v = .ok)

variable {sha256}

/-- The columns by which a row is filed. -/
def AlertOutboxRow.filing (r : AlertOutboxRow) :
    String × String × String × Option String × Option String × Option Verdict :=
  (r.dedupKey, r.incidentKey, r.deploymentId, r.ruleId, r.reasonCode, r.verdictTo)

theorem Filed.congr {signal : AlertSignal} {r r' : AlertOutboxRow} (h : Filed sha256 signal r)
    (hfiling : r'.filing = r.filing) : Filed sha256 signal r' := by
  simp only [AlertOutboxRow.filing, Prod.mk.injEq] at hfiling
  obtain ⟨hdedup, hincident, hdeployment, hrule, hreason, hverdict⟩ := hfiling
  exact ⟨h.shaped, hdedup.trans h.dedupKey, hincident.trans h.incidentKey, hdeployment.trans h.deploymentId,
    hrule.trans h.ruleId, hreason.trans h.reasonCode, hverdict ▸ h.verdict⟩

theorem closeRow_filing (k : String) (t : Int) (r : AlertOutboxRow) : (closeRow k t r).filing = r.filing := by
  unfold closeRow
  split <;> rfl

theorem acknowledgeRow_filing (selects : AlertOutboxRow → Bool) (by_ : String) (at_ : Int) (r : AlertOutboxRow) :
    (acknowledgeRow selects by_ at_ r).filing = r.filing := by
  unfold acknowledgeRow
  split <;> rfl

theorem leaseRow_filing (leased : List String) (until_ : Int) (r : AlertOutboxRow) :
    (leaseRow leased until_ r).filing = r.filing := by
  unfold leaseRow
  split <;> rfl

theorem settleRow_filing (outboxId : String) (status : OutboxStatus) (attempts nextAttemptAt : Int)
    (r : AlertOutboxRow) : (settleRow outboxId status attempts nextAttemptAt r).filing = r.filing := by
  unfold settleRow
  split <;> rfl

/-- Whatever a signal is folded into, the record ends at a verdict at least as bad as the signal's,
and an OK leaves it at OK. -/
theorem foldSignal_verdict (before : Option AlertRecord) (o : Observation) :
    o.identity.toVerdict.rank ≤ (foldSignal sha256 before o).currentVerdict.rank ∧
      (o.identity.toVerdict = .ok → (foldSignal sha256 before o).currentVerdict = .ok) := by
  rcases before with _ | b
  · exact ⟨le_rfl, id⟩
  · cases hr : isRecovery (some b.currentVerdict) o.identity.toVerdict with
    | true =>
      rw [(foldSignal_recovery sha256 hr).2, (isRecovery_some.1 hr).2]
      exact ⟨le_rfl, id⟩
    | false =>
      cases he : isEscalation (some b.currentVerdict) o.identity.toVerdict with
      | true =>
        rw [(foldSignal_escalation sha256 he).2]
        exact ⟨le_rfl, id⟩
      | false =>
        rw [(foldSignal_repeat sha256 hr he).2]
        rw [← Bool.not_eq_true, isEscalation_some, not_lt] at he
        rw [← Bool.not_eq_true, isRecovery_some] at hr
        refine ⟨he, fun hok => ?_⟩
        by_contra hne
        exact hr ⟨hne, hok⟩

/-- Every row is filed under one of the signals. -/
def AllFiled (sha256 : String → String) (signals : List AlertSignal) (db : AlertDb) : Prop :=
  ∀ r ∈ db.rows, ∃ s ∈ signals, Filed sha256 s r

theorem AllFiled.mono {signals signals' : List AlertSignal} {db : AlertDb} (h : AllFiled sha256 signals db)
    (hsub : ∀ s ∈ signals, s ∈ signals') : AllFiled sha256 signals' db := by
  intro r hr
  obtain ⟨s, hs, hfiled⟩ := h r hr
  exact ⟨s, hsub s hs, hfiled⟩

/-- An update that keeps the columns of the filing keeps every row filed. -/
theorem AllFiled.update {signals : List AlertSignal} {db db' : AlertDb} {f : AlertOutboxRow → AlertOutboxRow}
    (h : AllFiled sha256 signals db) (hf : ∀ r, (f r).filing = r.filing) (hrows : db'.rows = db.rows.map f) :
    AllFiled sha256 signals db' := by
  intro r hr
  rw [hrows, List.mem_map] at hr
  obtain ⟨r₀, hr₀, rfl⟩ := hr
  obtain ⟨s, hs, hfiled⟩ := h r₀ hr₀
  exact ⟨s, hs, hfiled.congr (hf r₀)⟩

variable {gates outboxIdFor}

/-- The row written for a shaped signal is filed under it. -/
theorem outboxRow_filed {signal : AlertSignal} (hshaped : signal.Shaped) (existing : Option AlertOutboxRow)
    (context : IncidentContext) (now : Int) (notify : Bool) (payload : NotificationPayload) :
    Filed sha256 signal
      (outboxRow sha256 outboxIdFor existing signal now (afterOf sha256 context signal now) notify payload) where
  shaped := hshaped
  dedupKey := rfl
  incidentKey := rfl
  deploymentId := rfl
  ruleId := rfl
  reasonCode := rfl
  verdict := ⟨_, rfl, foldSignal_verdict (beforeOf context (identityOf signal))
    { identity := identityOf signal, observedAt := now }⟩

/-- A row filed under a signal of the same identity is filed under this one when it is overwritten. -/
theorem Filed.overwrite {s signal : AlertSignal} {old next : AlertOutboxRow} (hold : Filed sha256 s old)
    (hnext : Filed sha256 signal next) (hidentity : identityOf s = identityOf signal) :
    Filed sha256 signal (old.overwrite next) where
  shaped := hnext.shaped
  dedupKey := by rw [← hidentity]; exact hold.dedupKey
  incidentKey := by rw [← hidentity]; exact hold.incidentKey
  deploymentId := hold.deploymentId.trans (congrArg AlertIdentity.deploymentId hidentity)
  ruleId := hnext.ruleId
  reasonCode := hnext.reasonCode
  verdict := hnext.verdict

/-- Rows under one dedup key are filed under one identity. -/
theorem CollisionFree.identity {signals : List AlertSignal} (hids : CollisionFree sha256 signals) {s t : AlertSignal}
    (hs : s ∈ signals) (ht : t ∈ signals) (hsShaped : s.Shaped) (htShaped : t.Shaped)
    (h : dedupKey sha256 (identityOf s) = dedupKey sha256 (identityOf t)) : identityOf s = identityOf t :=
  dedupText_injective hsShaped htShaped (hids.dedup s hs t ht h)

/-- The row written for a raised signal is filed under it, and the other rows stay where they are. -/
theorem AllFiled.raise {signals : List AlertSignal} (hids : CollisionFree sha256 signals) {ties : AlertOutboxRow → Nat}
    {db db' : AlertDb} (h : AllFiled sha256 signals db) {signal : AlertSignal} (hsignal : signal ∈ signals)
    {now dbNow : Int} {result : RaiseResult}
    (hraise : raiseAlert sha256 gates outboxIdFor ties db signal now dbNow = .ok (result, db')) :
    AllFiled sha256 signals db' := by
  obtain ⟨-, ⟨-, -, hrows, -⟩ | ⟨-, hshaped, -, payload, hrows⟩⟩ := raiseAlert_ok hraise
  · intro r hr
    rw [hrows] at hr
    exact h r hr
  · -- closing the incident moves no row
    have hclosed : ∀ before, ∀ r ∈ closedRows sha256 db before signal dbNow, ∃ s ∈ signals, Filed sha256 s r := by
      intro before r hr
      unfold closedRows at hr
      split at hr
      · obtain ⟨old, hold, rfl⟩ := List.mem_map.1 hr
        obtain ⟨s, hs, hfiled⟩ := h old hold
        exact ⟨s, hs, hfiled.congr (closeRow_filing _ _ old)⟩
      · exact h r hr
    intro r hr
    rw [hrows] at hr
    have hnext : ∀ existing context now notify payload, Filed sha256 signal
        (outboxRow sha256 outboxIdFor existing signal now (afterOf sha256 context signal now) notify payload) :=
      outboxRow_filed hshaped
    rcases mem_written hr with ⟨-, rfl⟩ | hr | ⟨old, hold, hkey, rfl⟩
    · exact ⟨signal, hsignal, hnext _ _ _ _ _⟩
    · exact hclosed _ r hr
    · obtain ⟨s, hs, hfiled⟩ := hclosed _ old hold
      have hidentity := hids.identity hs hsignal hfiled.shaped hshaped (hfiled.dedupKey.symm.trans hkey)
      exact ⟨signal, hsignal, hfiled.overwrite (hnext _ _ _ _ _) hidentity⟩

theorem acknowledgeRows_ok {db db' : AlertDb} {selects : AlertOutboxRow → Bool} {by_ : String} {at_ : Int} {n : Nat}
    (h : acknowledgeRows db selects by_ at_ = .ok (n, db')) : db'.rows = db.rows.map (acknowledgeRow selects by_ at_) := by
  obtain ⟨alertOutbox, hupdate, hend⟩ := bind_eq_ok.1 h
  obtain ⟨-, rfl⟩ := Prod.mk.inj (Except.ok.inj hend)
  exact AlertOutbox.update_ok hupdate

/-- One transaction keeps every row filed. -/
theorem AllFiled.step {signals : List AlertSignal} (hids : CollisionFree sha256 signals) {db : AlertDb}
    (h : AllFiled sha256 signals db) (e : OutboxEvent) (he : ∀ s ∈ e.signal?, s ∈ signals) :
    AllFiled sha256 signals (outboxStep sha256 gates outboxIdFor db e) := by
  cases e with
  | evaluated evaluationId => exact h
  | raised signal now dbNow ties =>
    simp only [outboxStep]
    cases hraise : raiseAlert sha256 gates outboxIdFor ties db signal now dbNow with
    | error failure => exact h
    | ok a => exact h.raise hids (he signal rfl) hraise
  | acknowledged incidentKey by_ at_ =>
    simp only [outboxStep]
    cases hack : acknowledgeAlert db incidentKey by_ at_ with
    | error violation => exact h
    | ok a => exact h.update (acknowledgeRow_filing _ _ _) (acknowledgeRows_ok hack)
  | tenantAcknowledged tenantId incidentKey by_ at_ =>
    simp only [outboxStep]
    cases hack : acknowledgeTenantAlert db tenantId incidentKey by_ at_ with
    | error violation => exact h
    | ok a => exact h.update (acknowledgeRow_filing _ _ _) (acknowledgeRows_ok hack)
  | leased createdAt locked now limit leaseMs =>
    simp only [outboxStep]
    cases hlease : leaseDueAlerts createdAt locked db now limit leaseMs with
    | error violation => exact h
    | ok a =>
      obtain ⟨alertOutbox, hupdate, hend⟩ := bind_eq_ok.1 hlease
      rw [← Except.ok.inj hend]
      exact h.update (leaseRow_filing _ _) (AlertOutbox.update_ok hupdate)
  | settled outboxId deliveries status attempts nextAttemptAt =>
    simp only [outboxStep]
    cases hsettle : settleAlert db outboxId deliveries status attempts nextAttemptAt with
    | error violation => exact h
    | ok a =>
      obtain ⟨_, -, hrest⟩ := bind_eq_ok.1 hsettle
      obtain ⟨alertOutbox, hupdate, hend⟩ := bind_eq_ok.1 hrest
      rw [← Except.ok.inj hend]
      exact h.update (settleRow_filing _ _ _ _) (AlertOutbox.update_ok hupdate)

/-- Over every history, every row is filed under one of the signals raised in it. -/
theorem outboxAfter_filed (deployments : List String) (deploymentTenants : List (String × String))
    {history : List OutboxEvent} {signals : List AlertSignal} (hids : CollisionFree sha256 signals)
    (hsub : ∀ s ∈ signalsOf history, s ∈ signals) :
    AllFiled sha256 signals (outboxAfter sha256 gates outboxIdFor deployments deploymentTenants history) := by
  induction history using List.reverseRecOn with
  | nil => intro r hr; cases hr
  | append_singleton history e ih =>
    simp only [signalsOf, List.filterMap_append, List.mem_append] at hsub
    unfold outboxAfter at ih ⊢
    rw [List.foldl_append]
    refine (ih fun s hs => hsub s (Or.inl hs)).step hids e fun s hs => hsub s (Or.inr ?_)
    simpa using hs

end History

end IcttSentinel.Alerts
