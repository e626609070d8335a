/-
Message transitions, packages/storage-postgres/src/transition-store.ts with migrations 0001 and 0005: one effect for each
route, in the table and in the errors of the calls that ran into it.
Times are milliseconds.
-/
import IcttSentinel.Lib.Batches
import IcttSentinel.Storage.Schema

namespace IcttSentinel.Storage

open IcttSentinel.Lib IcttSentinel.Lib.Batches

/-! ## Rows -/

structure TransitionRow where
  transitionId : String
  deploymentId : String
  sourceBlockchainId : String
  destinationBlockchainId : String
  messengerAddress : String
  registryProtocolVersion : Int
  messageId : String
  transitionKind : String
  chainKey : String
  blockHash : String
  txHash : String
  logIndex : Int
  observedAt : Int
  envelopeId : Option String
  carriesEconomicEffect : Bool
  deriving DecidableEq, Repr

/-- The route of a message. A `messageId` alone is not unique. -/
structure MessageRoute where
  sourceBlockchainId : String
  destinationBlockchainId : String
  messengerAddress : String
  registryProtocolVersion : Int
  messageId : String
  deriving DecidableEq, Repr

/-- The columns of `message_transitions_identity_uq`: the route, the kind and the raw fact. -/
structure TransitionIdentity where
  route : MessageRoute
  transitionKind : String
  chainKey : String
  blockHash : String
  txHash : String
  logIndex : Int
  deriving DecidableEq, Repr

def TransitionRow.route (r : TransitionRow) : MessageRoute where
  sourceBlockchainId := r.sourceBlockchainId
  destinationBlockchainId := r.destinationBlockchainId
  messengerAddress := r.messengerAddress
  registryProtocolVersion := r.registryProtocolVersion
  messageId := r.messageId

def TransitionRow.identity (r : TransitionRow) : TransitionIdentity where
  route := r.route
  transitionKind := r.transitionKind
  chainKey := r.chainKey
  blockHash := r.blockHash
  txHash := r.txHash
  logIndex := r.logIndex

/-- Both rows credit an effect to one route. -/
def TransitionRow.sameEffect (a b : TransitionRow) : Bool :=
  a.carriesEconomicEffect && b.carriesEconomicEffect && decide (a.route = b.route)

theorem TransitionRow.sameEffect_comm (a b : TransitionRow) : a.sameEffect b = b.sameEffect a := by
  rw [TransitionRow.sameEffect, TransitionRow.sameEffect, Bool.and_comm a.carriesEconomicEffect,
    decide_eq_decide.2 (@eq_comm _ a.route b.route)]

theorem TransitionRow.sameEffect_iff {a b : TransitionRow} : a.sameEffect b = true ↔
    a.carriesEconomicEffect = true ∧ b.carriesEconomicEffect = true ∧ a.route = b.route := by
  rw [TransitionRow.sameEffect, Bool.and_eq_true, Bool.and_eq_true, decide_eq_true_iff, and_assoc]

/-- The kinds of `message_transitions_kind_ck`. -/
def transitionKinds : List String :=
  ["source-application-emitted", "intent-observed", "source-accounted", "icm-sent", "send-retry", "envelope-resigned",
    "delivered", "execution-succeeded", "execution-failed", "execution-retried", "receipt-observed",
    "unreceivable-by-version-policy", "paused-version", "orphaned", "unsupported"]

/-! ## Constraints -/

/-- A row that a constraint refuses, or a text with a character NUL, which no `text` can hold. -/
inductive TransitionFault where
  | violation (violation : Violation)
  | untranslatable
  deriving DecidableEq, Repr

def anyNul (texts : List String) : Bool := texts.any fun s => s.toList.contains (Char.ofNat 0)

/-- The parameters of the statement in their order, then the checks of the table in that of their names. -/
def TransitionRow.refusals (r : TransitionRow) : List (Bool × TransitionFault) :=
  [(anyNul [r.transitionId, r.deploymentId, r.sourceBlockchainId, r.destinationBlockchainId, r.messengerAddress],
      .untranslatable),
    (!fitsInteger r.registryProtocolVersion, .violation .numericValueOutOfRange),
    (anyNul [r.messageId, r.transitionKind, r.chainKey, r.blockHash, r.txHash], .untranslatable),
    (!fitsInteger r.logIndex, .violation .numericValueOutOfRange),
    (anyNul r.envelopeId.toList, .untranslatable),
    (!transitionKinds.contains r.transitionKind, .violation (.checkViolation "message_transitions_kind_ck")),
    (!matchesHex "0x" 40 r.messengerAddress, .violation (.checkViolation "message_transitions_messenger_ck")),
    (decide (r.registryProtocolVersion < 1), .violation (.checkViolation "message_transitions_version_ck"))]

def TransitionRow.rowCheck (r : TransitionRow) : Option TransitionFault :=
  (r.refusals.find? (·.1)).map (·.2)

def UNIQUE_TRANSITION_ID : TransitionFault := .violation (.uniqueViolation "message_transitions_pkey")

def ONE_EFFECT_INDEX : String := "message_transitions_one_economic_effect"

def isEffectConflict (fault : TransitionFault) : Bool :=
  decide (fault = .violation (.uniqueViolation ONE_EFFECT_INDEX))

variable (deployments : List String) (logs : List (String × String × String × Int))

/-- The foreign keys of a row: its deployment, and the log it rests on. -/
def TransitionRow.references (r : TransitionRow) : Option TransitionFault :=
  if !deployments.contains r.deploymentId then
    some (.violation (.foreignKeyViolation "message_transitions_deployment_id_fkey"))
  else if !logs.contains (r.chainKey, r.blockHash, r.txHash, r.logIndex) then
    some (.violation (.foreignKeyViolation "message_transitions_chain_key_block_hash_tx_hash_log_index_fkey"))
  else none

/-- `message_transitions`, under the deployments and the logs that are there. -/
def transitionRules : Rules TransitionRow TransitionFault where
  check := TransitionRow.rowCheck
  same a b := decide (a.identity = b.identity)
  unique :=
    [(UNIQUE_TRANSITION_ID, fun a b => decide (a.transitionId = b.transitionId)),
      (.violation (.uniqueViolation ONE_EFFECT_INDEX), TransitionRow.sameEffect)]
  reference := TransitionRow.references deployments logs
  same_refl a := decide_eq_true rfl
  same_comm a b := decide_eq_decide.2 eq_comm
  unique_comm index hindex a b := by
    rw [List.mem_pair] at hindex
    rcases hindex with rfl | rfl
    · exact decide_eq_decide.2 eq_comm
    · exact a.sameEffect_comm b

variable {deployments logs} in
theorem conflict_eq_false_iff {a b : TransitionRow} : (transitionRules deployments logs).conflict a b = false ↔
    a.identity ≠ b.identity ∧ a.transitionId ≠ b.transitionId ∧ a.sameEffect b = false := by
  have hunique : (transitionRules deployments logs).unique =
    [(UNIQUE_TRANSITION_ID, fun a b => decide (a.transitionId = b.transitionId)),
      (.violation (.uniqueViolation ONE_EFFECT_INDEX), TransitionRow.sameEffect)] := rfl
  have hsame : (transitionRules deployments logs).same a b = decide (a.identity = b.identity) := rfl
  rw [Rules.conflict_eq_false, hsame, hunique, List.forall_mem_cons, List.forall_mem_singleton, decide_eq_false_iff_not,
    decide_eq_false_iff_not]

variable {deployments logs} in
theorem insertion_transition_iff {seen others : List TransitionRow} {r : TransitionRow} :
    insertion (transitionRules deployments logs) seen others r = .inserted ↔ r.rowCheck = none ∧
      r.references deployments logs = none ∧ ∀ x ∈ seen ++ others,
        r.identity ≠ x.identity ∧ r.transitionId ≠ x.transitionId ∧ r.sameEffect x = false := by
  rw [insertion_inserted_iff]
  exact and_congr Iff.rfl (and_congr Iff.rfl (forall₂_congr fun x _ => conflict_eq_false_iff))

/-! ## Calls -/

/-- How `writeTransitionBatch` throws: `DuplicateEconomicEffectError`, or an error it passes on. -/
inductive TransitionError where
  | duplicateEconomicEffect (messageId : String)
  | fault (fault : TransitionFault)
  | aborted
  deriving DecidableEq, Repr

/-- How the error of a statement leaves `writeTransitionBatch`. -/
def raised (rows : List TransitionRow) (fault : TransitionFault) : TransitionError :=
  if isEffectConflict fault then .duplicateEconomicEffect ((rows.head?.map (·.messageId)).getD "unknown")
  else .fault fault

/-- What `writeTransitionBatch` has come to: nothing while its transaction is open. -/
def writeTransitionBatch (c : Call TransitionRow TransitionFault) : Option (Except TransitionError Nat) :=
  match c.state with
  | .active _ _ => none
  | .committed written => some (.ok written)
  | .failed _ fault => some (.error (raised c.batch fault))
  | .aborted => some (.error .aborted)

/-! ## A refused second effect -/

variable {deployments logs}

theorem rowCheck_not_effect {r : TransitionRow} {fault : TransitionFault} (h : r.rowCheck = some fault) :
    isEffectConflict fault = false := by
  obtain ⟨refusal, hfind, rfl⟩ := Option.map_eq_some_iff.1 h
  have hmem := List.mem_of_find?_eq_some hfind
  simp only [TransitionRow.refusals, List.mem_cons, List.not_mem_nil, or_false] at hmem
  rcases hmem with rfl | rfl | rfl | rfl | rfl | rfl | rfl | rfl <;> rfl

theorem references_not_effect {r : TransitionRow} {fault : TransitionFault}
    (h : r.references deployments logs = some fault) : isEffectConflict fault = false := by
  unfold TransitionRow.references at h
  split at h
  · cases h
    rfl
  · split at h
    · cases h
      rfl
    · cases h

theorem isEffectConflict_iff {fault : TransitionFault} :
    isEffectConflict fault = true ↔ fault = .violation (.uniqueViolation ONE_EFFECT_INDEX) := decide_eq_true_iff

theorem unique_effect {fault : TransitionFault} {clash : TransitionRow → TransitionRow → Bool}
    (hclash : (fault, clash) ∈ (transitionRules deployments logs).unique) (h : isEffectConflict fault = true) :
    clash = TransitionRow.sameEffect := by
  rcases List.mem_pair.1 hclash with heq | heq
  · rw [(Prod.mk.inj heq).1] at h
    cases h
  · exact (Prod.mk.inj heq).2

/-- The index `message_transitions_one_economic_effect` refuses a row: nothing else stands against it, and the effect of
its route is stored, or was inserted before it by its call. -/
structure IsSecondEffect (s : Table TransitionRow TransitionFault) (i : Nat) (pending : List TransitionRow)
    (r : TransitionRow) : Prop where
  check : r.rowCheck = none
  identity : ∀ x ∈ s.rows ++ pending ++ s.others i, r.identity ≠ x.identity
  transitionId : ∀ x ∈ s.rows ++ pending ++ s.others i, r.transitionId ≠ x.transitionId
  credited : ∃ x ∈ s.rows ++ pending, r.sameEffect x = true

theorem insertion_effect_iff {s : Table TransitionRow TransitionFault} {i : Nat} {pending : List TransitionRow}
    {r : TransitionRow} {fault : TransitionFault} (hfault : isEffectConflict fault = true) :
    insertion (transitionRules deployments logs) (s.rows ++ pending) (s.others i) r = .failed fault ↔
      IsSecondEffect s i pending r := by
  have hcheck : r.rowCheck ≠ some fault := fun h => absurd ((rowCheck_not_effect h).symm.trans hfault) nofun
  have hreferences : r.references deployments logs ≠ some fault := fun h =>
    absurd ((references_not_effect h).symm.trans hfault) nofun
  have hid : UNIQUE_TRANSITION_ID ≠ fault := by
    rintro rfl
    cases hfault
  obtain rfl := isEffectConflict_iff.1 hfault
  have hunique : (transitionRules deployments logs).unique =
    [(UNIQUE_TRANSITION_ID, fun a b => decide (a.transitionId = b.transitionId)),
      (.violation (.uniqueViolation ONE_EFFECT_INDEX), TransitionRow.sameEffect)] := rfl
  rw [insertion_failed_iff hcheck hreferences, hunique, lookUp_cons_failed hid, lookUp_singleton_failed]
  constructor
  · rintro ⟨hnone, hidentity, htransition, hcredited⟩
    exact ⟨hnone, fun x hx => of_decide_eq_false (hidentity x hx), fun x hx => of_decide_eq_false (htransition x hx),
      hcredited⟩
  · rintro ⟨hnone, hidentity, htransition, hcredited⟩
    exact ⟨hnone, fun x hx => decide_eq_false (hidentity x hx), fun x hx => decide_eq_false (htransition x hx), hcredited⟩

/-! ## The batches of a run -/

/-- The table after statements, commits and aborts of its calls. -/
def transitionsAfter (deployments : List String) (logs : List (String × String × String × Int))
    (s : Table TransitionRow TransitionFault) (events : List Event) : Table TransitionRow TransitionFault :=
  run (transitionRules deployments logs) s events

/-- No two stored transitions credit an effect to one route. -/
def OneEffect (s : Table TransitionRow TransitionFault) : Prop :=
  s.rows.Pairwise fun a b => a.sameEffect b = false

/-- A call that has returned has stored as many rows of its batch as it says, and every row of the batch is there; any
other has stored nothing. -/
def AllOrNone (s : Table TransitionRow TransitionFault) : Prop :=
  ∀ (i : Nat) c, s.calls[i]? = some c →
    match writeTransitionBatch c with
    | some (.ok written) => (s.storedBy i).length = written ∧ (s.storedBy i).Sublist c.batch ∧
        ∀ r ∈ c.batch, ∃ x ∈ s.rows, r.identity = x.identity
    | _ => s.storedBy i = []

/-- The call stores nothing, and is not refused. -/
def StoresNothing (s : Table TransitionRow TransitionFault) (i : Nat) : Prop :=
  s.storedBy i = [] ∧ ∀ c, s.calls[i]? = some c →
    c.state.pending = [] ∧ writeTransitionBatch c ∈ [none, some (.ok 0), some (.error .aborted)]

/-- The message of a `DuplicateEconomicEffectError` is that of a row the index refused, and another fact credits its
route, in the table or in the batch. -/
def NamesAttempt (s : Table TransitionRow TransitionFault) : Prop :=
  ∀ (i : Nat) c m, s.calls[i]? = some c → writeTransitionBatch c = some (.error (.duplicateEconomicEffect m)) →
    ∃ r fault, c.state = .failed r fault ∧ isEffectConflict fault = true ∧ r ∈ c.batch ∧ r.messageId = m ∧
      ∃ x, (x ∈ s.rows ∨ x ∈ c.batch) ∧ r.sameEffect x = true ∧ r.identity ≠ x.identity

variable (deployments logs)

/-- Everything a run of calls must keep, in each of its states. A batch is stored again by a call that begins after one
that stored it. -/
structure BatchesHold (s : Table TransitionRow TransitionFault) (events : List Event) : Prop where
  oneEffect : ∀ before, before <+: events → OneEffect (transitionsAfter deployments logs s before)
  allOrNone : ∀ before, before <+: events → AllOrNone (transitionsAfter deployments logs s before)
  storedAgain : ∀ before later (i j : Nat) batch written, before ++ later <+: events →
    (transitionsAfter deployments logs s before).calls[i]? = some ⟨batch, .committed written⟩ →
    (transitionsAfter deployments logs s before).calls[j]? = some ⟨batch, .active batch []⟩ →
    StoresNothing (transitionsAfter deployments logs s (before ++ later)) j
  namesAttempt : ∀ before, before <+: events → NamesAttempt (transitionsAfter deployments logs s before)

/-- Before a step: where the index refuses the next row of the call, its batch leads with a row of the same message. -/
def LeadsWithAttempt (s : Table TransitionRow TransitionFault) : Event → Prop
  | .advance i => ∀ batch r todo pending, s.calls[i]? = some ⟨batch, .active (r :: todo) pending⟩ →
      IsSecondEffect s i pending r → batch.head?.map (·.messageId) = some r.messageId
  | .abort _ => True

variable {deployments logs} {s : Table TransitionRow TransitionFault} {events : List Event}

theorem oneEffect_of_begins (h : Begins (transitionRules deployments logs) s) (before : List Event) :
    OneEffect (transitionsAfter deployments logs s before) := by
  exact (h.separate before).imp fun hab => (conflict_eq_false_iff.1 hab).2.2

theorem allOrNone_of_begins (h : Begins (transitionRules deployments logs) s) (before : List Event) :
    AllOrNone (transitionsAfter deployments logs s before) := by
  intro i c hcall
  have hknown := h.known before hcall
  obtain ⟨batch, state⟩ := c
  cases state with
  | active todo pending => exact hknown.1
  | committed written =>
    obtain ⟨hlength, hsub, hstored⟩ := hknown
    refine ⟨hlength, hsub, fun r hr => ?_⟩
    obtain ⟨x, hx, hsame⟩ := (hstored r hr).2
    exact ⟨x, hx, of_decide_eq_true hsame⟩
  | failed r fault => exact hknown.1
  | aborted => exact hknown

theorem storesNothing_of_begins (h : Begins (transitionRules deployments logs) s) {before later : List Event} {i j : Nat}
    {batch : List TransitionRow} {written : Nat}
    (hstored : (transitionsAfter deployments logs s before).calls[i]? = some ⟨batch, .committed written⟩)
    (hagain : (transitionsAfter deployments logs s before).calls[j]? = some ⟨batch, .active batch []⟩) :
    StoresNothing (transitionsAfter deployments logs s (before ++ later)) j := by
  have hlength : (transitionsAfter deployments logs s (before ++ later)).calls.length =
      (transitionsAfter deployments logs s before).calls.length :=
    (length_calls _ _ _).trans (length_calls _ _ _).symm
  have hj : j < (transitionsAfter deployments logs s (before ++ later)).calls.length := by
    rw [hlength]
    exact (List.getElem?_eq_some_iff.1 hagain).1
  have hquiet := h.quiet before hstored hagain (List.getElem?_eq_getElem hj)
  refine ⟨hquiet.1, fun c hcall => ?_⟩
  obtain ⟨-, hquiet⟩ := h.quiet before hstored hagain hcall
  obtain ⟨batch', state⟩ := c
  cases state with
  | active todo pending => exact ⟨hquiet.1, List.mem_cons_self⟩
  | committed written' =>
    obtain rfl : written' = 0 := hquiet
    exact ⟨rfl, List.mem_cons_of_mem _ List.mem_cons_self⟩
  | failed r fault => exact hquiet.elim
  | aborted => exact ⟨rfl, List.mem_cons_of_mem _ (List.mem_cons_of_mem _ List.mem_cons_self)⟩

theorem writeTransitionBatch_duplicate {c : Call TransitionRow TransitionFault} {m : String} :
    writeTransitionBatch c = some (.error (.duplicateEconomicEffect m)) ↔ ∃ r fault, c.state = .failed r fault ∧
      isEffectConflict fault = true ∧ (c.batch.head?.map (·.messageId)).getD "unknown" = m := by
  obtain ⟨batch, state⟩ := c
  cases state with
  | active todo pending => exact iff_of_false nofun fun ⟨_, _, h, _⟩ => nomatch h
  | committed written => exact iff_of_false nofun fun ⟨_, _, h, _⟩ => nomatch h
  | aborted => exact iff_of_false nofun fun ⟨_, _, h, _⟩ => nomatch h
  | failed r fault =>
    simp only [writeTransitionBatch, raised, Option.some.injEq, Except.error.injEq, CallState.failed.injEq]
    constructor
    · intro h
      split at h
      · rename_i hfault
        exact ⟨r, fault, ⟨rfl, rfl⟩, hfault, TransitionError.duplicateEconomicEffect.inj h⟩
      · cases h
    · rintro ⟨r, fault, ⟨rfl, rfl⟩, hfault, rfl⟩
      rw [if_pos hfault]

/-- Along a run of such steps, the batch of a call the index refused leads with a row of the refused message. -/
theorem leads_of_run (h : Begins (transitionRules deployments logs) s)
    (hleads : ∀ before e, before ++ [e] <+: events → LeadsWithAttempt (transitionsAfter deployments logs s before) e)
    {before : List Event} (hbefore : before <+: events) {i : Nat} {batch : List TransitionRow} {r : TransitionRow}
    {fault : TransitionFault} (hfault : isEffectConflict fault = true)
    (hcall : (transitionsAfter deployments logs s before).calls[i]? = some ⟨batch, .failed r fault⟩) :
    batch.head?.map (·.messageId) = some r.messageId := by
  induction before using List.reverseRecOn with
  | nil =>
    have hstate := h.calls _ (List.mem_of_getElem? hcall)
    cases hstate
  | append_singleton before e ih =>
    have hprev : before <+: events := (List.prefix_append before [e]).trans hbefore
    have hstep : transitionsAfter deployments logs s (before ++ [e]) =
      step (transitionRules deployments logs) (transitionsAfter deployments logs s before) e := run_concat _ _ _ _
    rw [hstep] at hcall
    rcases (step_moves _ _ e).failed hcall with hold | ⟨todo, pending, rfl, hold, hfailed⟩
    · exact ih hprev hold
    · exact hleads before _ hbefore batch r todo pending hold ((insertion_effect_iff hfault).1 hfailed)

/-- An attempt the batch leads with is the one that is named. -/
theorem namesAttempt_of_leads (h : Begins (transitionRules deployments logs) s)
    (hleads : ∀ before e, before ++ [e] <+: events → LeadsWithAttempt (transitionsAfter deployments logs s before) e)
    {before : List Event} (hbefore : before <+: events) : NamesAttempt (transitionsAfter deployments logs s before) := by
  intro i c m hcall hresult
  obtain ⟨r, fault, hstate, hfault, hm⟩ := writeTransitionBatch_duplicate.1 hresult
  obtain ⟨batch, state⟩ := c
  obtain rfl : state = .failed r fault := hstate
  obtain ⟨-, hr, hfails⟩ := h.known before hcall
  have hname := leads_of_run h hleads hbefore hfault hcall
  refine ⟨r, fault, rfl, hfault, hr, ?_, ?_⟩
  · rw [← hm]
    dsimp only
    rw [hname]
    rfl
  · rcases hfails with hcheck | hreference | ⟨clash, hclash, x, hx, hrx, hdistinct⟩
    · exact absurd ((rowCheck_not_effect hcheck).symm.trans hfault) nofun
    · exact absurd ((references_not_effect hreference).symm.trans hfault) nofun
    · rw [unique_effect hclash hfault] at hrx
      exact ⟨x, hx, hrx, of_decide_eq_false hdistinct⟩

/-- A run whose errors name what was attempted takes only such steps. -/
theorem leads_of_namesAttempt
    (hnames : ∀ before, before <+: events → NamesAttempt (transitionsAfter deployments logs s before))
    {before : List Event} {e : Event} (hbefore : before ++ [e] <+: events) :
    LeadsWithAttempt (transitionsAfter deployments logs s before) e := by
  cases e with
  | abort i => trivial
  | advance i =>
    intro batch r todo pending hcall hsecond
    have hfault : isEffectConflict (.violation (.uniqueViolation ONE_EFFECT_INDEX)) = true := rfl
    have hfailed : insertion (transitionRules deployments logs) _ _ r = _ := (insertion_effect_iff hfault).2 hsecond
    have hafter : (transitionsAfter deployments logs s (before ++ [.advance i])).calls[i]? =
        some ⟨batch, .failed r (.violation (.uniqueViolation ONE_EFFECT_INDEX))⟩ := by
      have hstep := (run_concat _ s before (.advance i)).trans (step_failed hcall hfailed)
      rw [transitionsAfter, hstep]
      exact getElem?_put_self hcall
    -- what the error says, and of which row
    obtain ⟨r', fault', hstate, -, hr', hm, -⟩ := hnames _ hbefore i _ _ hafter
      ((writeTransitionBatch_duplicate (c := ⟨batch, _⟩)).2 ⟨r, _, rfl, hfault, rfl⟩)
    cases hstate
    cases batch with
    | nil => exact absurd hr' List.not_mem_nil
    | cons first rest => exact congrArg some hm.symm

/-- Every run of calls, in any order and with any aborts, keeps its batches exactly where each row that the index
refuses is of the message its batch leads with: the error names the first row of the batch. -/
theorem batchesHold_iff (h : Begins (transitionRules deployments logs) s) : BatchesHold deployments logs s events ↔
    ∀ before e, before ++ [e] <+: events → LeadsWithAttempt (transitionsAfter deployments logs s before) e := by
  constructor
  · exact fun hold before e => leads_of_namesAttempt hold.namesAttempt
  · intro hleads
    exact {
      oneEffect := fun before _ => oneEffect_of_begins h before
      allOrNone := fun before _ => allOrNone_of_begins h before
      storedAgain := fun _ _ _ _ _ _ _ => storesNothing_of_begins h
      namesAttempt := fun _ => namesAttempt_of_leads h hleads }

/-! ## Two messages in a batch -/

def sampleHex (digits : Nat) (digit : Char) : String := "0x" ++ String.ofList (List.replicate digits digit)

/-- A credited execution of a message, in a transaction of its own. -/
def sampleExecution (message tx : Char) (transitionKind : String) : TransitionRow where
  transitionId := String.ofList [message, tx]
  deploymentId := "d"
  sourceBlockchainId := sampleHex 64 'a'
  destinationBlockchainId := sampleHex 64 'b'
  messengerAddress := sampleHex 40 'c'
  registryProtocolVersion := 1
  messageId := sampleHex 64 message
  transitionKind
  chainKey := "remote"
  blockHash := sampleHex 64 'd'
  txHash := sampleHex 64 tx
  logIndex := 0
  observedAt := 0
  envelopeId := none
  carriesEconomicEffect := true

theorem toList_sampleHex (digits : Nat) (digit : Char) :
    (sampleHex digits digit).toList = '0' :: 'x' :: List.replicate digits digit := by
  rw [sampleHex, String.toList_append, @String.toList_ofList (List.replicate digits digit)]
  rfl

theorem sampleHex_inj {digits : Nat} {a b : Char} (h : sampleHex (digits + 1) a = sampleHex (digits + 1) b) : a = b := by
  have hlists := congrArg String.toList h
  rw [toList_sampleHex, toList_sampleHex, List.replicate_succ, List.replicate_succ] at hlists
  exact (List.cons.inj (List.cons.inj (List.cons.inj hlists).2).2).1

/-- A credited execution is a row its table takes. -/
theorem sampleExecution_check {message tx : Char} {transitionKind : String} (hmessage : message ≠ Char.ofNat 0)
    (htx : tx ≠ Char.ofNat 0) (hkind : transitionKind = "execution-succeeded" ∨ transitionKind = "execution-retried") :
    (sampleExecution message tx transitionKind).rowCheck = none := by
  have hknown : transitionKinds.contains transitionKind = true := by rcases hkind with rfl | rfl <;> decide +kernel
  have hkindNul : transitionKind.toList.contains (Char.ofNat 0) = false := by
    rcases hkind with rfl | rfl <;> decide +kernel
  have hhex : ∀ (digits : Nat) digit, digit ≠ Char.ofNat 0 →
      (sampleHex digits digit).toList.contains (Char.ofNat 0) = false := by
    intro digits digit hdigit
    rw [toList_sampleHex]
    simp [List.mem_replicate, hdigit.symm]
  have hmessenger : matchesHex "0x" 40 (sampleHex 40 'c') = true := by
    rw [matchesHex, toList_sampleHex]
    decide +kernel
  have hid : (String.ofList [message, tx]).toList.contains (Char.ofNat 0) = false := by
    rw [String.toList_ofList]
    simp [hmessage.symm, htx.symm]
  have hdeployment : "d".toList.contains (Char.ofNat 0) = false := by decide +kernel
  have hchain : "remote".toList.contains (Char.ofNat 0) = false := by decide +kernel
  simp only [TransitionRow.rowCheck, TransitionRow.refusals, sampleExecution, anyNul, List.any_cons, List.any_nil,
    hhex _ _ hmessage, hhex _ _ htx, hhex 64 'a' (by decide), hhex 64 'b' (by decide), hhex 64 'd' (by decide),
    hhex 40 'c' (by decide), hkindNul, hid, hdeployment, hchain, hknown, hmessenger]
  rfl

def sampleLogs : List (String × String × String × Int) :=
  ['1', '2', '3'].map fun tx => ("remote", sampleHex 64 'd', sampleHex 64 tx, 0)

/-- A row is stored, and a batch is about to be. -/
def storedBefore (stored : TransitionRow) (batch : List TransitionRow) : Table TransitionRow TransitionFault where
  stored := [⟨stored, none⟩]
  calls := [⟨batch, .active batch []⟩]

theorem storedBefore_begins (stored : TransitionRow) (batch : List TransitionRow) :
    Begins (transitionRules deployments logs) (storedBefore stored batch) where
  rows := List.pairwise_singleton _ _
  stored := by simp [storedBefore]
  calls := by simp [storedBefore]

/-- A batch that leads with the second effect of message `2` is refused in its name. -/
theorem refused_in_its_name : BatchesHold ["d"] sampleLogs (storedBefore (sampleExecution '2' '1' "execution-succeeded")
    [sampleExecution '2' '2' "execution-retried", sampleExecution '1' '3' "execution-succeeded"]) [.advance 0] := by
  refine (batchesHold_iff (storedBefore_begins _ _)).2 fun before e hbefore => ?_
  obtain ⟨rfl, rfl⟩ : before = [] ∧ e = .advance 0 := by
    rcases before with _ | ⟨first, rest⟩
    · simpa using hbefore
    · simp at hbefore
  intro batch r todo pending hcall _
  cases hcall
  rfl

theorem sampleExecution_references {message tx : Char} {transitionKind : String} (htx : tx ∈ ['1', '2', '3']) :
    (sampleExecution message tx transitionKind).references ["d"] sampleLogs = none := by
  have hdeployment : ["d"].contains "d" = true := by decide
  have hlog : sampleLogs.contains ("remote", sampleHex 64 'd', sampleHex 64 tx, 0) = true := by
    rw [List.contains_iff_mem]
    exact List.mem_map.2 ⟨tx, htx, rfl⟩
  unfold TransitionRow.references
  simp only [sampleExecution, hdeployment, hlog]
  rfl

theorem sampleExecution_transitionId {message tx message' tx' : Char} {transitionKind transitionKind' : String}
    (h : tx ≠ tx') : (sampleExecution message tx transitionKind).transitionId ≠
      (sampleExecution message' tx' transitionKind').transitionId := by
  intro hid
  have hlists := congrArg String.toList hid
  simp only [sampleExecution, String.toList_ofList] at hlists
  exact h (List.cons.inj (List.cons.inj hlists).2).1

theorem sampleExecution_route {message tx message' tx' : Char} {transitionKind transitionKind' : String}
    (h : message ≠ message') : (sampleExecution message tx transitionKind).route ≠
      (sampleExecution message' tx' transitionKind').route :=
  fun hroute => h (sampleHex_inj (congrArg MessageRoute.messageId hroute))

theorem sampleExecution_sameRoute {message tx tx' : Char} {transitionKind transitionKind' : String} :
    (sampleExecution message tx transitionKind).route = (sampleExecution message tx' transitionKind').route := rfl

theorem first_inserted : insertion (transitionRules ["d"] sampleLogs) [sampleExecution '2' '1' "execution-succeeded"] []
    (sampleExecution '1' '3' "execution-succeeded") = .inserted := by
  have hcheck : (sampleExecution '1' '3' "execution-succeeded").rowCheck = none :=
    sampleExecution_check (by decide) (by decide) (Or.inl rfl)
  have hreferences : (sampleExecution '1' '3' "execution-succeeded").references ["d"] sampleLogs = none :=
    sampleExecution_references (by decide)
  refine insertion_transition_iff.2 ⟨hcheck, hreferences, fun x hx => ?_⟩
  obtain rfl := List.mem_singleton.1 hx
  have hroute : (sampleExecution '1' '3' "execution-succeeded").route ≠
      (sampleExecution '2' '1' "execution-succeeded").route := sampleExecution_route (by decide)
  have hidentity : (sampleExecution '1' '3' "execution-succeeded").identity ≠
      (sampleExecution '2' '1' "execution-succeeded").identity := fun h => hroute (congrArg TransitionIdentity.route h)
  refine ⟨hidentity, sampleExecution_transitionId (by decide), ?_⟩
  exact Bool.eq_false_iff.2 fun h => hroute (TransitionRow.sameEffect_iff.1 h).2.2

theorem second_refused {s : Table TransitionRow TransitionFault}
    (hrows : s.rows = [sampleExecution '2' '1' "execution-succeeded"]) (hothers : s.others 0 = []) :
    IsSecondEffect s 0 [sampleExecution '1' '3' "execution-succeeded"] (sampleExecution '2' '2' "execution-retried") := by
  have hmem : ∀ x ∈ s.rows ++ [sampleExecution '1' '3' "execution-succeeded"] ++ s.others 0,
      x = sampleExecution '2' '1' "execution-succeeded" ∨ x = sampleExecution '1' '3' "execution-succeeded" := by
    rw [hrows, hothers]
    simp
  exact {
    check := sampleExecution_check (by decide) (by decide) (Or.inr rfl)
    identity := by
      intro x hx h
      have hkind : "execution-retried" = x.transitionKind := congrArg TransitionIdentity.transitionKind h
      rcases hmem x hx with rfl | rfl
      · exact absurd hkind (by decide +kernel)
      · exact absurd hkind (by decide +kernel)
    transitionId := by
      intro x hx
      rcases hmem x hx with rfl | rfl
      · exact sampleExecution_transitionId (by decide)
      · exact sampleExecution_transitionId (by decide)
    credited := by
      refine ⟨sampleExecution '2' '1' "execution-succeeded", ?_, ?_⟩
      · rw [hrows]
        exact List.mem_cons_self
      · exact TransitionRow.sameEffect_iff.2 ⟨rfl, rfl, sampleExecution_sameRoute⟩ }

theorem writeTransitionBatch_refused {first r : TransitionRow} {rest : List TransitionRow} :
    writeTransitionBatch ⟨first :: rest, .failed r (.violation (.uniqueViolation ONE_EFFECT_INDEX))⟩ =
      some (.error (.duplicateEconomicEffect first.messageId)) :=
  writeTransitionBatch_duplicate.2 ⟨r, _, rfl, isEffectConflict_iff.2 rfl, rfl⟩

section Refused

variable {stored first second : TransitionRow}

/-- The first row of two is inserted, and the second refused. -/
theorem calls_refused (hfirst : insertion (transitionRules deployments logs) [stored] [] first = .inserted)
    (hsecond : ∀ s : Table TransitionRow TransitionFault, s.rows = [stored] → s.others 0 = [] →
      IsSecondEffect s 0 [first] second) :
    (transitionsAfter deployments logs (storedBefore stored [first, second]) [.advance 0, .advance 0]).calls =
      [⟨[first, second], .failed second (.violation (.uniqueViolation ONE_EFFECT_INDEX))⟩] := by
  have hinserted := step_inserted (s := storedBefore stored [first, second]) (i := 0) rfl hfirst
  have hsecond := hsecond ((storedBefore stored [first, second]).put 0 [first, second] (.active [second] [first])) rfl rfl
  have hrefused : insertion (transitionRules deployments logs) _ _ _ = _ :=
    (insertion_effect_iff (isEffectConflict_iff.2 rfl)).2 hsecond
  rw [List.nil_append] at hinserted
  rw [transitionsAfter, run_pair, hinserted, step_failed rfl hrefused]
  rfl

theorem not_batchesHold_of_refused {s : Table TransitionRow TransitionFault} {events : List Event}
    (hcalls : (transitionsAfter deployments logs s events).calls =
      [⟨[first, second], .failed second (.violation (.uniqueViolation ONE_EFFECT_INDEX))⟩])
    (hmessages : second.messageId ≠ first.messageId) : ¬ BatchesHold deployments logs s events := by
  intro hold
  have hcall : (transitionsAfter deployments logs s events).calls[0]? =
      some ⟨[first, second], .failed second (.violation (.uniqueViolation ONE_EFFECT_INDEX))⟩ := by
    rw [hcalls]
    rfl
  obtain ⟨r, fault, hstate, -, -, hm, -⟩ :=
    hold.namesAttempt events (List.prefix_refl _) 0 _ _ hcall writeTransitionBatch_refused
  cases hstate
  exact hmessages hm

end Refused

/-- Behind the first effect of message `1`, the second of message `2` is refused in the name of message `1`. -/
theorem refused_in_another_name :
    let s := storedBefore (sampleExecution '2' '1' "execution-succeeded")
      [sampleExecution '1' '3' "execution-succeeded", sampleExecution '2' '2' "execution-retried"]
    Begins (transitionRules ["d"] sampleLogs) s ∧
      (transitionsAfter ["d"] sampleLogs s [.advance 0, .advance 0]).calls.map writeTransitionBatch =
        [some (.error (.duplicateEconomicEffect (sampleHex 64 '1')))] ∧
      ¬ BatchesHold ["d"] sampleLogs s [.advance 0, .advance 0] := by
  intro s
  have hcalls := calls_refused first_inserted fun _ => second_refused
  refine ⟨storedBefore_begins _ _, ?_, not_batchesHold_of_refused hcalls fun h => ?_⟩
  · rw [hcalls, List.map_singleton, writeTransitionBatch_refused]
    rfl
  · exact absurd (sampleHex_inj h) (by decide)

end IcttSentinel.Storage
