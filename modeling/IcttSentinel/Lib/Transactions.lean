/-
Transactions of statements on tables with unique keys, at the isolation level read committed: every statement sees what
is committed when it runs and what its own transaction has inserted. An insert waits for a transaction that has inserted
a row under the same key, and fails where one is committed; a lock is held until its transaction ends. A run lets the
sessions move in any order.
-/
import IcttSentinel.Lib.Keyed

namespace IcttSentinel.Lib

/-- The statements of a transaction, up to the end it comes to. -/
inductive Program (ρ κ Lock ε α : Type*) where
  | lock (l : Lock) (next : Program ρ κ Lock ε α)
  | select (k : κ) (next : Option ρ → Program ρ κ Lock ε α)
  | insert (r : ρ) (violation : ε) (next : Program ρ κ Lock ε α)
  | commit (a : α)
  | rollback (e : ε)

/-- A transaction under way, with the locks it holds and the rows it has inserted, or one that has ended. -/
inductive Session (ρ κ Lock ε α : Type*) where
  | active (program : Program ρ κ Lock ε α) (locks : List Lock) (pending : List ρ)
  | ended (outcome : Except ε α)

namespace Session

variable {ρ κ Lock ε α : Type*}

def locks : Session ρ κ Lock ε α → List Lock
  | active _ locks _ => locks
  | ended _ => []

def pending : Session ρ κ Lock ε α → List ρ
  | active _ _ pending => pending
  | ended _ => []

@[simp] theorem locks_active (p : Program ρ κ Lock ε α) (locks : List Lock) (pending : List ρ) :
    (active p locks pending).locks = locks := rfl
@[simp] theorem pending_active (p : Program ρ κ Lock ε α) (locks : List Lock) (pending : List ρ) :
    (active p locks pending).pending = pending := rfl
@[simp] theorem locks_ended (outcome : Except ε α) : (ended outcome : Session ρ κ Lock ε α).locks = [] := rfl
@[simp] theorem pending_ended (outcome : Except ε α) : (ended outcome : Session ρ κ Lock ε α).pending = [] := rfl

end Session

/-- What is committed, and the sessions. -/
structure Store {ρ κ : Type*} (key : ρ → κ) (Lock ε α : Type*) where
  committed : Keyed key
  sessions : List (Session ρ κ Lock ε α)

namespace Store

variable {ρ κ Lock ε α : Type*} {key : ρ → κ}

/-- Whether some session besides the `i`th is so. -/
def another (s : Store key Lock ε α) (i : Nat) (p : Session ρ κ Lock ε α → Bool) : Bool :=
  s.sessions.zipIdx.any fun x => decide (x.2 ≠ i) && p x.1

theorem another_eq_false {s : Store key Lock ε α} {i : Nat} {p : Session ρ κ Lock ε α → Bool} :
    s.another i p = false ↔ ∀ j x, s.sessions[j]? = some x → j ≠ i → p x = false := by
  unfold another
  rw [List.any_eq_false]
  constructor
  · intro h j x hx hj
    have := h (x, j) (List.mem_zipIdx_iff_getElem?.2 hx)
    simpa [hj] using this
  · rintro h ⟨x, j⟩ hx
    by_cases hj : j = i
    · simp [hj]
    · simp [h j x (List.mem_zipIdx_iff_getElem?.1 hx) hj]

/-- A session of a list in which one is replaced is the new one or an old one. -/
theorem getElem?_set_cases {sessions : List (Session ρ κ Lock ε α)} {i j : Nat} {x y : Session ρ κ Lock ε α}
    (h : (sessions.set i x)[j]? = some y) : (j = i ∧ y = x) ∨ (j ≠ i ∧ sessions[j]? = some y) := by
  by_cases hj : i = j
  · subst hj
    rw [List.getElem?_set_self'] at h
    cases hold : sessions[i]? with
    | none => simp [hold] at h
    | some z =>
      rw [hold] at h
      exact Or.inl ⟨rfl, (Option.some.inj h).symm⟩
  · rw [List.getElem?_set_ne hj] at h
    exact Or.inr ⟨Ne.symm hj, h⟩

section Statements

variable [DecidableEq κ]

/-- The row under a key, for a session that has inserted these rows. -/
def visible (committed : Keyed key) (pending : List ρ) (k : κ) : Option ρ :=
  (pending.find? (key · = k)).or (committed.lookup k)

/-- The `i`th session runs its next statement, where it need not wait. -/
def advance [DecidableEq Lock] (s : Store key Lock ε α) (i : Nat) : Store key Lock ε α :=
  match s.sessions[i]? with
  | some (.active (.lock l next) locks pending) =>
    if s.another i fun x => x.locks.contains l then s
    else { s with sessions := s.sessions.set i (.active next (l :: locks) pending) }
  | some (.active (.select k next) locks pending) =>
    { s with sessions := s.sessions.set i (.active (next (visible s.committed pending k)) locks pending) }
  | some (.active (.insert r violation next) locks pending) =>
    if s.committed.has (key r) || pending.any (key · = key r) then
      { s with sessions := s.sessions.set i (.ended (.error violation)) }
    else if s.another i fun x => x.pending.any (key · = key r) then s
    else { s with sessions := s.sessions.set i (.active next locks (pending ++ [r])) }
  | some (.active (.commit a) _ pending) =>
    { committed := s.committed.insertAll pending, sessions := s.sessions.set i (.ended (.ok a)) }
  | some (.active (.rollback e) _ _) => { s with sessions := s.sessions.set i (.ended (.error e)) }
  | _ => s

/-- A run: the sessions move in the order of the schedule. -/
def run [DecidableEq Lock] (s : Store key Lock ε α) (schedule : List Nat) : Store key Lock ε α :=
  schedule.foldl advance s

@[simp] theorem run_nil [DecidableEq Lock] (s : Store key Lock ε α) : s.run [] = s := rfl
@[simp] theorem run_cons [DecidableEq Lock] (s : Store key Lock ε α) (i : Nat) (schedule : List Nat) :
    s.run (i :: schedule) = (s.advance i).run schedule := rfl

theorem run_append [DecidableEq Lock] (s : Store key Lock ε α) (schedule later : List Nat) :
    s.run (schedule ++ later) = (s.run schedule).run later := List.foldl_append

/-! ## What a step can do -/

/-- Everything a step of a session can do. -/
inductive Moves (s : Store key Lock ε α) (i : Nat) : Store key Lock ε α → Prop
  | waits : Moves s i s
  | locks {l next locks pending} (hsession : s.sessions[i]? = some (.active (.lock l next) locks pending))
      (hfree : ∀ j x, s.sessions[j]? = some x → j ≠ i → l ∉ x.locks) :
      Moves s i { s with sessions := s.sessions.set i (.active next (l :: locks) pending) }
  | selects {k next locks pending} (hsession : s.sessions[i]? = some (.active (.select k next) locks pending)) :
      Moves s i
        { s with sessions := s.sessions.set i (.active (next (visible s.committed pending k)) locks pending) }
  | inserts {r violation next locks pending}
      (hsession : s.sessions[i]? = some (.active (.insert r violation next) locks pending))
      (hnew : s.committed.has (key r) = false) (hown : ∀ x ∈ pending, key x ≠ key r)
      (hfree : ∀ j x, s.sessions[j]? = some x → j ≠ i → ∀ y ∈ x.pending, key y ≠ key r) :
      Moves s i { s with sessions := s.sessions.set i (.active next locks (pending ++ [r])) }
  | violates {r violation next locks pending}
      (hsession : s.sessions[i]? = some (.active (.insert r violation next) locks pending))
      (htaken : s.committed.has (key r) = true ∨ ∃ x ∈ pending, key x = key r) :
      Moves s i { s with sessions := s.sessions.set i (.ended (.error violation)) }
  | commits {a locks pending} (hsession : s.sessions[i]? = some (.active (.commit a) locks pending)) :
      Moves s i { committed := s.committed.insertAll pending, sessions := s.sessions.set i (.ended (.ok a)) }
  | rollsBack {e locks pending} (hsession : s.sessions[i]? = some (.active (.rollback e) locks pending)) :
      Moves s i { s with sessions := s.sessions.set i (.ended (.error e)) }

theorem advance_moves [DecidableEq Lock] (s : Store key Lock ε α) (i : Nat) : Moves s i (s.advance i) := by
  unfold advance
  split
  · rename_i hsession
    split
    · exact .waits
    -- the lock is free: no other session holds it
    · rename_i hfree
      refine .locks hsession fun j x hx hj => ?_
      have := another_eq_false.1 (Bool.not_eq_true _ ▸ hfree) j x hx hj
      simpa using this
  · rename_i hsession
    exact .selects hsession
  · rename_i r violation next locks pending hsession
    split
    · rename_i htaken
      refine .violates hsession ?_
      simpa [Bool.or_eq_true, List.any_eq_true] using htaken
    · rename_i hnew
      split
      · exact .waits
      · rename_i hfree
        simp only [Bool.or_eq_true, not_or, Bool.not_eq_true] at hnew
        refine .inserts hsession hnew.1 ?_ fun j x hx hj => ?_
        · simpa using hnew.2
        · have := another_eq_false.1 (Bool.not_eq_true _ ▸ hfree) j x hx hj
          simpa using this
  · rename_i hsession
    exact .commits hsession
  · rename_i hsession
    exact .rollsBack hsession
  · exact .waits

/-! ## Locks and inserted rows -/

/-- No two sessions hold one lock or have inserted rows under one key, and no inserted row is under a key that is
committed. -/
structure Sound (s : Store key Lock ε α) : Prop where
  exclusive {i j : Nat} {x y : Session ρ κ Lock ε α} {l : Lock} :
    s.sessions[i]? = some x → s.sessions[j]? = some y → l ∈ x.locks → l ∈ y.locks → i = j
  separate {i j : Nat} {x y : Session ρ κ Lock ε α} {a b : ρ} :
    s.sessions[i]? = some x → s.sessions[j]? = some y → a ∈ x.pending → b ∈ y.pending → key a = key b → i = j
  own {i : Nat} {x : Session ρ κ Lock ε α} : s.sessions[i]? = some x → (x.pending.map key).Nodup
  uncommitted {i : Nat} {x : Session ρ κ Lock ε α} {a : ρ} :
    s.sessions[i]? = some x → a ∈ x.pending → s.committed.has (key a) = false

/-- Sessions that have not begun. -/
theorem sound_begun {s : Store key Lock ε α} (h : ∀ x ∈ s.sessions, x.locks = [] ∧ x.pending = []) : Sound s where
  exclusive hi _ hl _ := by
    rw [(h _ (List.mem_of_getElem? hi)).1] at hl
    exact absurd hl List.not_mem_nil
  separate hi _ ha _ _ := by
    rw [(h _ (List.mem_of_getElem? hi)).2] at ha
    exact absurd ha List.not_mem_nil
  own hi := by
    rw [(h _ (List.mem_of_getElem? hi)).2]
    exact List.nodup_nil
  uncommitted hi ha := by
    rw [(h _ (List.mem_of_getElem? hi)).2] at ha
    exact absurd ha List.not_mem_nil

variable {s : Store key Lock ε α} {i : Nat}

/-- A session is replaced by one with no lock and no row but its own and free ones. -/
theorem Sound.set (h : Sound s) {x x' : Session ρ κ Lock ε α} {committed : Keyed key} (hx : s.sessions[i]? = some x)
    (hlocks : ∀ l ∈ x'.locks, l ∈ x.locks ∨ ∀ j y, s.sessions[j]? = some y → j ≠ i → l ∉ y.locks)
    (hpending : ∀ a ∈ x'.pending, a ∈ x.pending ∨
      ∀ j y, s.sessions[j]? = some y → j ≠ i → ∀ b ∈ y.pending, key b ≠ key a)
    (hown : (x'.pending.map key).Nodup) (hnew : ∀ a ∈ x'.pending, committed.has (key a) = false)
    (hothers : ∀ j y, s.sessions[j]? = some y → j ≠ i → ∀ a ∈ y.pending, committed.has (key a) = false) :
    Sound (⟨committed, s.sessions.set i x'⟩ : Store key Lock ε α) where
  -- only session i changed, so a pair of sessions meets it on one side at most
  exclusive {j k y z l} hj hk hl hl' := by
    rcases getElem?_set_cases hj with ⟨rfl, rfl⟩ | ⟨hji, hjy⟩ <;>
      rcases getElem?_set_cases hk with ⟨rfl, rfl⟩ | ⟨hki, hkz⟩
    · rfl
    · rcases hlocks l hl with hl | hl
      · exact h.exclusive hx hkz hl hl'
      · exact absurd hl' (hl k z hkz hki)
    · rcases hlocks l hl' with hl' | hl'
      · exact h.exclusive hjy hx hl hl'
      · exact absurd hl (hl' j y hjy hji)
    · exact h.exclusive hjy hkz hl hl'
  separate {j k y z a b} hj hk ha hb hab := by
    rcases getElem?_set_cases hj with ⟨rfl, rfl⟩ | ⟨hji, hjy⟩ <;>
      rcases getElem?_set_cases hk with ⟨rfl, rfl⟩ | ⟨hki, hkz⟩
    · rfl
    · rcases hpending a ha with ha | ha
      · exact h.separate hx hkz ha hb hab
      · exact absurd hab.symm (ha k z hkz hki b hb)
    · rcases hpending b hb with hb | hb
      · exact h.separate hjy hx ha hb hab
      · exact absurd hab (hb j y hjy hji a ha)
    · exact h.separate hjy hkz ha hb hab
  own {j y} hj := by
    rcases getElem?_set_cases hj with ⟨-, rfl⟩ | ⟨-, hj⟩
    · exact hown
    · exact h.own hj
  uncommitted {j y a} hj ha := by
    rcases getElem?_set_cases hj with ⟨-, rfl⟩ | ⟨hji, hj⟩
    · exact hnew a ha
    · exact hothers j y hj hji a ha

/-- What a commit leaves committed. -/
theorem Sound.mem_commit (h : Sound s) {x : Session ρ κ Lock ε α} (hx : s.sessions[i]? = some x) {r : ρ} :
    r ∈ (s.committed.insertAll x.pending).rows ↔ r ∈ s.committed.rows ∨ r ∈ x.pending := by
  have hdetermines : Keyed.Determines key x.pending := fun a ha b hb => List.inj_on_of_nodup_map (h.own hx) ha hb
  rw [Keyed.mem_insertAll, hdetermines.isFirst_iff]
  exact or_congr_right ⟨And.left, fun hr => ⟨hr, h.uncommitted hx hr⟩⟩

theorem Sound.moves {s' : Store key Lock ε α} (h : Sound s) (hmoves : Moves s i s') : Sound s' := by
  cases hmoves with
  | waits => exact h
  | @locks l next locks pending hsession hfree =>
    have hown := h.own hsession
    refine h.set hsession (fun l' hl' => ?_) (fun a ha => Or.inl ha) hown
      (fun a ha => h.uncommitted hsession ha) fun j y hj _ a ha => h.uncommitted hj ha
    rcases List.mem_cons.1 hl' with rfl | hl'
    · exact Or.inr hfree
    · exact Or.inl hl'
  | selects hsession =>
    have hown := h.own hsession
    exact h.set hsession (fun l hl => Or.inl hl) (fun a ha => Or.inl ha) hown
      (fun a ha => h.uncommitted hsession ha) fun j y hj _ a ha => h.uncommitted hj ha
  | @inserts r violation next locks pending hsession hnew hown hfree =>
    refine h.set hsession (fun l hl => Or.inl hl) (fun a ha => ?_) ?_ (fun a ha => ?_)
      fun j y hj _ a ha => h.uncommitted hj ha
    · rcases List.mem_append.1 ha with ha | ha
      · exact Or.inl ha
      · obtain rfl := List.mem_singleton.1 ha
        exact Or.inr hfree
    · rw [Session.pending_active, List.map_append, List.map_singleton]
      refine List.Nodup.append (h.own hsession) (List.nodup_singleton _) ?_
      rw [List.disjoint_singleton]
      intro hmem
      obtain ⟨x, hx, hxr⟩ := List.mem_map.1 hmem
      exact hown x hx hxr
    · rcases List.mem_append.1 ha with ha | ha
      · exact h.uncommitted hsession ha
      · obtain rfl := List.mem_singleton.1 ha
        exact hnew
  | @commits a locks pending hsession =>
    refine h.set hsession (fun l hl => absurd hl List.not_mem_nil) (fun a ha => absurd ha List.not_mem_nil) List.nodup_nil
      (fun a ha => absurd ha List.not_mem_nil) fun j y hj hji b hb => ?_
    rw [Keyed.has_eq_false]
    intro r hr hrb
    -- a row becomes visible to the others: it was pending here, so no other session holds its key
    rcases (h.mem_commit hsession).1 hr with hr | hr
    · exact Keyed.has_eq_false.1 (h.uncommitted hj hb) r hr hrb
    · exact hji (h.separate hj hsession hb hr hrb.symm)
  | violates hsession _ =>
    exact h.set hsession (fun l hl => absurd hl List.not_mem_nil) (fun a ha => absurd ha List.not_mem_nil) List.nodup_nil
      (fun a ha => absurd ha List.not_mem_nil) fun j y hj _ a ha => h.uncommitted hj ha
  | rollsBack hsession =>
    exact h.set hsession (fun l hl => absurd hl List.not_mem_nil) (fun a ha => absurd ha List.not_mem_nil) List.nodup_nil
      (fun a ha => absurd ha List.not_mem_nil) fun j y hj _ a ha => h.uncommitted hj ha

theorem Moves.committed {s' : Store key Lock ε α} (hmoves : Moves s i s') {r : ρ} (h : r ∈ s.committed.rows) :
    r ∈ s'.committed.rows := by
  cases hmoves with
  | commits _ => exact Keyed.mem_insertAll.2 (Or.inl h)
  | _ => exact h

/-- A step moves one session. -/
theorem Moves.other {s' : Store key Lock ε α} {j : Nat} (hmoves : Moves s j s') (hj : j ≠ i) :
    s'.sessions[i]? = s.sessions[i]? := by
  cases hmoves with
  | waits => rfl
  | _ => exact List.getElem?_set_ne hj

theorem Moves.ended {s' : Store key Lock ε α} {j : Nat} (hmoves : Moves s j s') {outcome : Except ε α}
    (h : s.sessions[i]? = some (.ended outcome)) : s'.sessions[i]? = some (.ended outcome) := by
  have hother : ∀ {x y : Session ρ κ Lock ε α}, s.sessions[j]? = some x → (∀ o, x ≠ .ended o) →
      (s.sessions.set j y)[i]? = some (.ended outcome) := by
    intro x y hx hne
    have hij : j ≠ i := by
      rintro rfl
      rw [h] at hx
      exact hne outcome (Option.some.inj hx).symm
    rw [List.getElem?_set_ne hij, h]
  cases hmoves with
  | waits => exact h
  | locks hsession _ => exact hother hsession fun o ho => by cases ho
  | selects hsession => exact hother hsession fun o ho => by cases ho
  | inserts hsession _ _ _ => exact hother hsession fun o ho => by cases ho
  | violates hsession _ => exact hother hsession fun o ho => by cases ho
  | commits hsession => exact hother hsession fun o ho => by cases ho
  | rollsBack hsession => exact hother hsession fun o ho => by cases ho

/-! ## Runs -/

variable [DecidableEq Lock]

/-- What every step keeps, a run keeps. -/
theorem run_invariant {P : Store key Lock ε α → Prop} (hstep : ∀ s i, P s → P (s.advance i)) (h : P s)
    (schedule : List Nat) : P (s.run schedule) := by
  induction schedule generalizing s with
  | nil => exact h
  | cons i schedule ih => exact ih (hstep s i h)

theorem Sound.run (h : Sound s) (schedule : List Nat) : Sound (s.run schedule) :=
  run_invariant (fun s i hs => hs.moves (advance_moves s i)) h schedule

/-- What is committed stays. -/
theorem committed_run {r : ρ} (h : r ∈ s.committed.rows) (schedule : List Nat) : r ∈ (s.run schedule).committed.rows :=
  run_invariant (P := fun s => r ∈ s.committed.rows) (fun s i hs => (advance_moves s i).committed hs) h schedule

/-- A transaction that has ended stays as it is. -/
theorem ended_run {outcome : Except ε α} (h : s.sessions[i]? = some (.ended outcome)) (schedule : List Nat) :
    (s.run schedule).sessions[i]? = some (.ended outcome) :=
  run_invariant (P := fun s => s.sessions[i]? = some (.ended outcome)) (fun s j hs => (advance_moves s j).ended hs) h
    schedule

/-- What sessions know of what is committed: kept by their own moves, and by the commits of the others. -/
theorem Sound.run_sessions {K : Nat → Keyed key → Session ρ κ Lock ε α → Prop} (h : Sound s)
    (hmoves : ∀ (s s' : Store key Lock ε α) i x x', Sound s → s.sessions[i]? = some x → K i s.committed x →
      Moves s i s' → s'.sessions[i]? = some x' → K i s'.committed x')
    (hframe : ∀ (s : Store key Lock ε α) i j x y, Sound s → i ≠ j → s.sessions[i]? = some x → s.sessions[j]? = some y →
      K i s.committed x → K j s.committed y → K i (s.committed.insertAll y.pending) x)
    (hknows : ∀ i x, s.sessions[i]? = some x → K i s.committed x) (schedule : List Nat) :
    ∀ i x, (s.run schedule).sessions[i]? = some x → K i (s.run schedule).committed x := by
  refine (run_invariant (P := fun s => Sound s ∧ ∀ i x, s.sessions[i]? = some x → K i s.committed x)
    (fun s i hs => ⟨hs.1.moves (advance_moves s i), fun j x' hx' => ?_⟩) ⟨h, hknows⟩ schedule).2
  obtain ⟨hsound, hknows⟩ := hs
  have hm := advance_moves s i
  revert hx' hm
  generalize s.advance i = s'
  intro hx' hm
  by_cases hj : j = i
  · subst hj
    cases hm with
    | waits => exact hknows j x' hx'
    | locks hsession hfree =>
      exact hmoves s _ j _ x' hsound hsession (hknows j _ hsession) (.locks hsession hfree) hx'
    | selects hsession => exact hmoves s _ j _ x' hsound hsession (hknows j _ hsession) (.selects hsession) hx'
    | inserts hsession hnew hown hfree =>
      exact hmoves s _ j _ x' hsound hsession (hknows j _ hsession) (.inserts hsession hnew hown hfree) hx'
    | violates hsession htaken =>
      exact hmoves s _ j _ x' hsound hsession (hknows j _ hsession) (.violates hsession htaken) hx'
    | commits hsession => exact hmoves s _ j _ x' hsound hsession (hknows j _ hsession) (.commits hsession) hx'
    | rollsBack hsession => exact hmoves s _ j _ x' hsound hsession (hknows j _ hsession) (.rollsBack hsession) hx'
  · have hold : ∀ {x}, (s.sessions.set i x)[j]? = some x' → s.sessions[j]? = some x' := by
      intro x hx
      rwa [List.getElem?_set_ne (Ne.symm hj)] at hx
    cases hm with
    | waits => exact hknows j x' hx'
    | commits hsession =>
      exact hframe s j i x' _ hsound hj (hold hx') hsession (hknows j x' (hold hx')) (hknows i _ hsession)
    | locks _ _ => exact hknows j x' (hold hx')
    | selects _ => exact hknows j x' (hold hx')
    | inserts _ _ _ _ => exact hknows j x' (hold hx')
    | violates _ _ => exact hknows j x' (hold hx')
    | rollsBack _ => exact hknows j x' (hold hx')

end Statements

end Store

end IcttSentinel.Lib
