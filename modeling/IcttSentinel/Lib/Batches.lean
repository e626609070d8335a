/-
Batches of rows inserted in one transaction each, at the isolation level read committed, on a table with several unique
indexes. A row that is there under the index of the statement's conflict clause is left alone; a row that another index
holds already fails the statement, and the transaction with it. A statement waits for a transaction that has inserted a
row in its way. The calls move in any order, and each can be aborted at any time.
-/
import Mathlib.Tactic

namespace IcttSentinel.Lib.Batches

variable {ρ ε : Type}

/-! ## Tables and calls -/

/-- The constraints of a table: what refuses a row by itself, when two rows are one under the index of the conflict
clause, the other unique indexes in the order they are looked up in, and what refuses a row that has been inserted. -/
structure Rules (ρ ε : Type) where
  check : ρ → Option ε
  same : ρ → ρ → Bool
  unique : List (ε × (ρ → ρ → Bool))
  reference : ρ → Option ε
  same_refl : ∀ a, same a a = true
  same_comm : ∀ a b, same a b = same b a
  unique_comm : ∀ index ∈ unique, ∀ a b, index.2 a b = index.2 b a

/-- A transaction with the rows it has still to insert and those it has inserted, or one that is over: committed with
the count of its rows, failed at a row, or aborted. -/
inductive CallState (ρ ε : Type) where
  | active (todo pending : List ρ)
  | committed (written : Nat)
  | failed (row : ρ) (e : ε)
  | aborted
  deriving DecidableEq

structure Call (ρ ε : Type) where
  batch : List ρ
  state : CallState ρ ε
  deriving DecidableEq

/-- A committed row, with the call that inserted it; none where it was there before all calls. -/
structure StoredRow (ρ : Type) where
  row : ρ
  call : Option Nat
  deriving DecidableEq

structure Table (ρ ε : Type) where
  stored : List (StoredRow ρ)
  calls : List (Call ρ ε)

def CallState.pending : CallState ρ ε → List ρ
  | .active _ pending => pending
  | _ => []

def Table.rows (s : Table ρ ε) : List ρ := s.stored.map (·.row)

/-- The rows that are inserted and not committed, by all calls but one. -/
def Table.others (s : Table ρ ε) (i : Nat) : List ρ := (s.calls.eraseIdx i).flatMap (·.state.pending)

/-- The rows a call has stored. -/
def Table.storedBy (s : Table ρ ε) (i : Nat) : List ρ := (s.stored.filter (·.call = some i)).map (·.row)

def Table.put (s : Table ρ ε) (i : Nat) (batch : List ρ) (state : CallState ρ ε) : Table ρ ε :=
  { s with calls := s.calls.set i ⟨batch, state⟩ }

/-- The rows of a call are committed. -/
def Table.commit (s : Table ρ ε) (i : Nat) (batch pending : List ρ) : Table ρ ε :=
  { s.put i batch (.committed pending.length) with stored := s.stored ++ pending.map (⟨·, some i⟩) }

/-! ## Statements -/

/-- What becomes of the insertion of a row. -/
inductive Insertion (ε : Type) where
  | skipped
  | waiting
  | inserted
  | failed (e : ε)
  deriving DecidableEq

/-- The unique indexes in their order, over the rows a statement sees and those of other transactions. -/
def lookUp (seen others : List ρ) (r : ρ) : List (ε × (ρ → ρ → Bool)) → Insertion ε
  | [] => .inserted
  | (e, clash) :: rest =>
    if seen.any (clash r) then .failed e
    else if others.any (clash r) then .waiting
    else lookUp seen others r rest

def insertion (rules : Rules ρ ε) (seen others : List ρ) (r : ρ) : Insertion ε :=
  match rules.check r with
  | some e => .failed e
  | none =>
    if seen.any (rules.same r) then .skipped
    else if others.any (rules.same r) then .waiting
    else
      match lookUp seen others r rules.unique, rules.reference r with
      | .inserted, some e => .failed e
      | found, _ => found

inductive Event where
  | advance (i : Nat)
  | abort (i : Nat)
  deriving DecidableEq

/-- One call moves on by a statement, or commits, or is aborted. -/
def step (rules : Rules ρ ε) (s : Table ρ ε) : Event → Table ρ ε
  | .advance i =>
    match s.calls[i]? with
    | some ⟨batch, .active [] pending⟩ => s.commit i batch pending
    | some ⟨batch, .active (r :: todo) pending⟩ =>
      match insertion rules (s.rows ++ pending) (s.others i) r with
      | .skipped => s.put i batch (.active todo pending)
      | .waiting => s
      | .inserted => s.put i batch (.active todo (pending ++ [r]))
      | .failed e => s.put i batch (.failed r e)
    | _ => s
  | .abort i =>
    match s.calls[i]? with
    | some ⟨batch, .active _ _⟩ => s.put i batch .aborted
    | _ => s

def run (rules : Rules ρ ε) (s : Table ρ ε) (events : List Event) : Table ρ ε := events.foldl (step rules) s

@[simp] theorem run_nil (rules : Rules ρ ε) (s : Table ρ ε) : run rules s [] = s := rfl

theorem run_pair (rules : Rules ρ ε) (s : Table ρ ε) (e e' : Event) :
    run rules s [e, e'] = step rules (step rules s e) e' := rfl

theorem run_append (rules : Rules ρ ε) (s : Table ρ ε) (events later : List Event) :
    run rules s (events ++ later) = run rules (run rules s events) later := List.foldl_append

theorem run_concat (rules : Rules ρ ε) (s : Table ρ ε) (events : List Event) (e : Event) :
    run rules s (events ++ [e]) = step rules (run rules s events) e := by
  rw [run_append]
  rfl

/-- What every step keeps, a run keeps. -/
theorem run_invariant {rules : Rules ρ ε} {P : Table ρ ε → Prop} (hstep : ∀ s e, P s → P (step rules s e)) {s : Table ρ ε}
    (h : P s) (events : List Event) : P (run rules s events) := by
  induction events generalizing s with
  | nil => exact h
  | cons e events ih => exact ih (hstep s e h)

/-! ## What a step can do -/

section Steps

variable (rules : Rules ρ ε)

/-- Two rows cannot be in the table together. -/
def Rules.conflict (a b : ρ) : Bool := rules.same a b || rules.unique.any (·.2 a b)

variable {rules} {seen others : List ρ} {r : ρ}

theorem Rules.conflict_comm (a b : ρ) : rules.conflict a b = rules.conflict b a := by
  have hunique : rules.unique.any (·.2 a b) = rules.unique.any (·.2 b a) := by
    rw [Bool.eq_iff_iff, List.any_eq_true, List.any_eq_true]
    exact exists_congr fun index => and_congr_right fun hindex => by rw [rules.unique_comm index hindex a b]
  rw [Rules.conflict, Rules.conflict, rules.same_comm a b, hunique]

theorem Rules.conflict_eq_false {a b : ρ} :
    rules.conflict a b = false ↔ rules.same a b = false ∧ ∀ index ∈ rules.unique, index.2 a b = false := by
  rw [Rules.conflict, Bool.or_eq_false_iff, List.any_eq_false]
  simp

theorem lookUp_failed {unique : List (ε × (ρ → ρ → Bool))} {e : ε} (h : lookUp seen others r unique = .failed e) :
    ∃ clash, (e, clash) ∈ unique ∧ ∃ x ∈ seen, clash r x = true := by
  induction unique with
  | nil => cases h
  | cons head unique ih =>
    rw [lookUp] at h
    split at h
    · rename_i hseen
      cases h
      exact ⟨head.2, List.mem_cons_self, List.any_eq_true.1 hseen⟩
    · split at h
      · cases h
      · obtain ⟨clash, hclash, hx⟩ := ih h
        exact ⟨clash, List.mem_cons_of_mem _ hclash, hx⟩

theorem lookUp_ne_skipped {unique : List (ε × (ρ → ρ → Bool))} : lookUp seen others r unique ≠ .skipped := by
  induction unique with
  | nil => exact nofun
  | cons head unique ih =>
    rw [lookUp]
    split
    · exact nofun
    · split
      · exact nofun
      · exact ih

theorem any_append_eq_false {clash : ρ → Bool} :
    (∀ x ∈ seen ++ others, clash x = false) ↔ seen.any clash = false ∧ others.any clash = false := by
  rw [List.forall_mem_append, List.any_eq_false, List.any_eq_false]
  simp

theorem lookUp_inserted_iff {unique : List (ε × (ρ → ρ → Bool))} : lookUp seen others r unique = .inserted ↔
    ∀ index ∈ unique, ∀ x ∈ seen ++ others, index.2 r x = false := by
  induction unique with
  | nil => exact iff_of_true rfl fun index hindex => absurd hindex List.not_mem_nil
  | cons head unique ih =>
    rw [List.forall_mem_cons, any_append_eq_false, lookUp]
    split
    · rename_i hseen
      exact iff_of_false nofun fun h => absurd (hseen.symm.trans h.1.1) nofun
    · rename_i hseen
      split
      · rename_i hothers
        exact iff_of_false nofun fun h => absurd (hothers.symm.trans h.1.2) nofun
      · rename_i hothers
        rw [ih, and_iff_right ⟨Bool.eq_false_iff.2 hseen, Bool.eq_false_iff.2 hothers⟩]

/-- A later index fails a row where no earlier one has it. -/
theorem lookUp_cons_failed {index : ε × (ρ → ρ → Bool)} {rest : List (ε × (ρ → ρ → Bool))} {e : ε} (he : index.1 ≠ e) :
    lookUp seen others r (index :: rest) = .failed e ↔
      (∀ x ∈ seen ++ others, index.2 r x = false) ∧ lookUp seen others r rest = .failed e := by
  rw [any_append_eq_false, lookUp]
  split
  · rename_i hseen
    refine iff_of_false (fun h => he ?_) fun h => absurd (hseen.symm.trans h.1.1) nofun
    cases h
    rfl
  · rename_i hseen
    split
    · rename_i hothers
      exact iff_of_false nofun fun h => absurd (hothers.symm.trans h.1.2) nofun
    · rename_i hothers
      exact (and_iff_right ⟨Bool.eq_false_iff.2 hseen, Bool.eq_false_iff.2 hothers⟩).symm

theorem lookUp_singleton_failed {e : ε} {clash : ρ → ρ → Bool} :
    lookUp seen others r [(e, clash)] = .failed e ↔ ∃ x ∈ seen, clash r x = true := by
  rw [lookUp, ← List.any_eq_true]
  split
  · rename_i hseen
    exact iff_of_true rfl hseen
  · rename_i hseen
    refine iff_of_false ?_ hseen
    split <;> exact nofun

/-- A row is left alone where it is there already. -/
theorem insertion_skipped :
    insertion rules seen others r = .skipped ↔ rules.check r = none ∧ ∃ x ∈ seen, rules.same r x = true := by
  unfold insertion
  split
  · rename_i e hcheck
    simp [hcheck]
  · rename_i hcheck
    split
    · rename_i hseen
      exact iff_of_true rfl ⟨hcheck, List.any_eq_true.1 hseen⟩
    · rename_i hseen
      refine iff_of_false ?_ fun h => hseen (List.any_eq_true.2 h.2)
      split
      · exact nofun
      · split
        · exact nofun
        · rename_i found _ _
          exact fun h => lookUp_ne_skipped h

/-- What is neither a check nor a reference is an index. -/
theorem insertion_failed_iff {e : ε} (hcheck : rules.check r ≠ some e) (hreference : rules.reference r ≠ some e) :
    insertion rules seen others r = .failed e ↔ rules.check r = none ∧ (∀ x ∈ seen ++ others, rules.same r x = false) ∧
      lookUp seen others r rules.unique = .failed e := by
  rw [any_append_eq_false]
  unfold insertion
  split
  · rename_i e' he'
    -- a failed check raises its own error, which is not this one
    refine iff_of_false (fun h => hcheck ?_) fun h => absurd (he'.symm.trans h.1) nofun
    cases h
    exact he'
  · rename_i hnone
    rw [and_iff_right hnone]
    split
    · rename_i hseen
      exact iff_of_false nofun fun h => absurd (hseen.symm.trans h.1.1) nofun
    · rename_i hseen
      split
      · rename_i hothers
        exact iff_of_false nofun fun h => absurd (hothers.symm.trans h.1.2) nofun
      · rename_i hothers
        rw [and_iff_right ⟨Bool.eq_false_iff.2 hseen, Bool.eq_false_iff.2 hothers⟩]
        split
        · rename_i e' hfound he'
          refine iff_of_false (fun h => hreference ?_) fun h => absurd (hfound.symm.trans h) nofun
          cases h
          exact he'
        · exact Iff.rfl

/-- A row is inserted where nothing stands against it. -/
theorem insertion_inserted_iff : insertion rules seen others r = .inserted ↔
    rules.check r = none ∧ rules.reference r = none ∧ ∀ x ∈ seen ++ others, rules.conflict r x = false := by
  have hconflict : (∀ x ∈ seen ++ others, rules.conflict r x = false) ↔
      (∀ x ∈ seen ++ others, rules.same r x = false) ∧ lookUp seen others r rules.unique = .inserted := by
    rw [lookUp_inserted_iff]
    constructor
    · exact fun h => ⟨fun x hx => (Rules.conflict_eq_false.1 (h x hx)).1,
        fun index hindex x hx => (Rules.conflict_eq_false.1 (h x hx)).2 index hindex⟩
    · exact fun h x hx => Rules.conflict_eq_false.2 ⟨h.1 x hx, fun index hindex => h.2 index hindex x hx⟩
  rw [hconflict, any_append_eq_false]
  unfold insertion
  split
  · rename_i hcheck
    exact iff_of_false nofun fun h => absurd (hcheck.symm.trans h.1) nofun
  · rename_i hcheck
    rw [and_iff_right hcheck]
    split
    · rename_i hseen
      exact iff_of_false nofun fun h => absurd (hseen.symm.trans h.2.1.1) nofun
    · rename_i hseen
      split
      · rename_i hothers
        exact iff_of_false nofun fun h => absurd (hothers.symm.trans h.2.1.2) nofun
      · rename_i hothers
        have hfree : seen.any (rules.same r) = false ∧ others.any (rules.same r) = false :=
          ⟨Bool.eq_false_iff.2 hseen, Bool.eq_false_iff.2 hothers⟩
        rw [and_iff_right hfree]
        split
        · rename_i hreference
          exact iff_of_false nofun fun h => absurd (hreference.symm.trans h.1) nofun
        · rename_i hreference
          refine ⟨fun h => ⟨?_, h⟩, And.right⟩
          cases hreferences : rules.reference r with
          | none => rfl
          | some e => exact (hreference e h hreferences).elim

/-- Everything a step can do. -/
inductive Moves (rules : Rules ρ ε) (s : Table ρ ε) : Event → Table ρ ε → Prop
  | stays {e : Event} : Moves rules s e s
  | skips {i batch r todo pending} (hcall : s.calls[i]? = some ⟨batch, .active (r :: todo) pending⟩)
      (hskipped : insertion rules (s.rows ++ pending) (s.others i) r = .skipped) :
      Moves rules s (.advance i) (s.put i batch (.active todo pending))
  | inserts {i batch r todo pending} (hcall : s.calls[i]? = some ⟨batch, .active (r :: todo) pending⟩)
      (hinserted : insertion rules (s.rows ++ pending) (s.others i) r = .inserted) :
      Moves rules s (.advance i) (s.put i batch (.active todo (pending ++ [r])))
  | fails {i batch r todo pending e} (hcall : s.calls[i]? = some ⟨batch, .active (r :: todo) pending⟩)
      (hfailed : insertion rules (s.rows ++ pending) (s.others i) r = .failed e) :
      Moves rules s (.advance i) (s.put i batch (.failed r e))
  | commits {i batch pending} (hcall : s.calls[i]? = some ⟨batch, .active [] pending⟩) :
      Moves rules s (.advance i) (s.commit i batch pending)
  | aborts {i batch todo pending} (hcall : s.calls[i]? = some ⟨batch, .active todo pending⟩) :
      Moves rules s (.abort i) (s.put i batch .aborted)

theorem step_moves (rules : Rules ρ ε) (s : Table ρ ε) (e : Event) : Moves rules s e (step rules s e) := by
  unfold step
  split
  · split
    · rename_i hcall
      exact .commits hcall
    · rename_i hcall
      split
      · rename_i hskipped
        exact .skips hcall hskipped
      · exact .stays
      · rename_i hinserted
        exact .inserts hcall hinserted
      · rename_i hfailed
        exact .fails hcall hfailed
    · exact .stays
  · split
    · rename_i hcall
      exact .aborts hcall
    · exact .stays

/-! ## Rows -/

/-- The rows of the table and those on their way into it. -/
def Table.held (s : Table ρ ε) : List ρ := s.rows ++ s.calls.flatMap (·.state.pending)

/-- No two rows that are held are in each other's way. -/
def Sound (rules : Rules ρ ε) (s : Table ρ ε) : Prop := s.held.Pairwise fun a b => rules.conflict a b = false

variable {s : Table ρ ε} {i : Nat} {batch : List ρ} {state : CallState ρ ε}

theorem getElem?_put_self {c : Call ρ ε} (hcall : s.calls[i]? = some c) :
    (s.put i batch state).calls[i]? = some ⟨batch, state⟩ := by
  rw [Table.put, List.getElem?_set_self (List.getElem?_eq_some_iff.1 hcall).1]

theorem getElem?_put_ne {j : Nat} (hj : i ≠ j) : (s.put i batch state).calls[j]? = s.calls[j]? := List.getElem?_set_ne hj

theorem getElem?_commit_self {c : Call ρ ε} {pending : List ρ} (hcall : s.calls[i]? = some c) :
    (s.commit i batch pending).calls[i]? = some ⟨batch, .committed pending.length⟩ := getElem?_put_self hcall

theorem rows_commit {pending : List ρ} : (s.commit i batch pending).rows = s.rows ++ pending := by
  rw [Table.rows, Table.commit, List.map_append, List.map_map, Table.rows]
  congr 1
  exact List.map_id _

theorem others_put : (s.put i batch state).others i = s.others i := by
  rw [Table.others, Table.put, List.eraseIdx_set_eq]
  rfl

/-- The rows of one call, taken out of those that are held. -/
theorem held_perm {c : Call ρ ε} (hcall : s.calls[i]? = some c) :
    s.held.Perm (s.rows ++ (c.state.pending ++ s.others i)) := by
  obtain ⟨hlt, rfl⟩ := List.getElem?_eq_some_iff.1 hcall
  have hperm := (List.getElem_cons_eraseIdx_perm hlt).symm.flatMap_right fun c => c.state.pending
  exact (hperm.trans (by rw [List.flatMap_cons]; rfl)).append_left s.rows

theorem sound_iff {c : Call ρ ε} (hcall : s.calls[i]? = some c) : Sound rules s ↔
    (s.rows ++ (c.state.pending ++ s.others i)).Pairwise fun a b => rules.conflict a b = false :=
  (held_perm hcall).pairwise_iff fun {a b} h => by rw [Rules.conflict_comm, h]

/-- The rows that are held stay out of each other's way. -/
theorem Sound.moves {e : Event} {s' : Table ρ ε} (h : Sound rules s) (hmoves : Moves rules s e s') : Sound rules s' := by
  cases hmoves with
  | stays => exact h
  | @skips i batch r todo pending hcall _ =>
    rw [sound_iff hcall] at h
    rw [sound_iff (getElem?_put_self hcall), others_put]
    exact h
  | @inserts i batch r todo pending hcall hinserted =>
    obtain ⟨-, -, hfree⟩ := insertion_inserted_iff.1 hinserted
    rw [sound_iff hcall] at h
    rw [sound_iff (getElem?_put_self hcall), others_put]
    -- the new row meets the stored rows, its own batch and the other batches
    have hperm : (s.rows ++ (pending ++ [r] ++ s.others i)).Perm (r :: (s.rows ++ (pending ++ s.others i))) := by
      have hsplit : s.rows ++ (pending ++ [r] ++ s.others i) = s.rows ++ pending ++ r :: s.others i := by simp
      rw [hsplit, ← List.append_assoc]
      exact List.perm_middle
    refine (hperm.pairwise_iff fun {a b} h => by rw [Rules.conflict_comm, h]).2 (List.pairwise_cons.2 ⟨?_, h⟩)
    rwa [← List.append_assoc]
  | @fails i batch r todo pending e hcall _ =>
    rw [sound_iff hcall] at h
    rw [sound_iff (getElem?_put_self hcall), others_put]
    exact h.sublist (List.Sublist.append_left (List.sublist_append_right _ _) _)
  | @commits i batch pending hcall =>
    rw [sound_iff hcall] at h
    have hrows : (s.commit i batch pending).rows = s.rows ++ pending := rows_commit
    have hothers : (s.commit i batch pending).others i = s.others i := others_put
    rw [sound_iff (getElem?_commit_self hcall), hrows, hothers, List.append_assoc]
    exact h
  | @aborts i batch todo pending hcall =>
    rw [sound_iff hcall] at h
    rw [sound_iff (getElem?_put_self hcall), others_put]
    exact h.sublist (List.Sublist.append_left (List.sublist_append_right _ _) _)

/-! ## Calls -/

/-- The call an event moves. -/
def Event.call : Event → Nat
  | .advance i => i
  | .abort i => i

theorem storedBy_commit_self {pending : List ρ} : (s.commit i batch pending).storedBy i = s.storedBy i ++ pending := by
  rw [Table.storedBy, Table.commit, List.filter_append, List.map_append, Table.storedBy]
  congr 1
  induction pending with
  | nil => rfl
  | cons r pending ih =>
    rw [List.map_cons, List.filter_cons_of_pos (by simp), List.map_cons, ih]

theorem storedBy_commit_ne {j : Nat} {pending : List ρ} (hj : i ≠ j) :
    (s.commit i batch pending).storedBy j = s.storedBy j := by
  have hnone : (pending.map fun r => (⟨r, some i⟩ : StoredRow ρ)).filter (·.call = some j) = [] := by
    rw [List.filter_eq_nil_iff]
    intro x hx
    obtain ⟨r, -, rfl⟩ := List.mem_map.1 hx
    simpa using hj
  rw [Table.storedBy, Table.commit, List.filter_append, hnone, List.append_nil]
  rfl

/-- Committed rows stay. -/
theorem Moves.rows {e : Event} {s' : Table ρ ε} (hmoves : Moves rules s e s') : s.rows ⊆ s'.rows := by
  cases hmoves with
  | commits hcall =>
    rw [rows_commit]
    exact List.subset_append_left _ _
  | _ => exact List.Subset.refl _

/-- The other calls stay as they are, and so do the rows they have stored. -/
theorem Moves.other {e : Event} {s' : Table ρ ε} (hmoves : Moves rules s e s') (hi : e.call ≠ i) :
    s'.calls[i]? = s.calls[i]? ∧ s'.storedBy i = s.storedBy i := by
  cases hmoves with
  | stays => exact ⟨rfl, rfl⟩
  | commits hcall => exact ⟨getElem?_put_ne hi, storedBy_commit_ne hi⟩
  | _ => exact ⟨getElem?_put_ne hi, rfl⟩

/-- No call comes out of nothing. -/
theorem Moves.exists_call {e : Event} {s' : Table ρ ε} (hmoves : Moves rules s e s') {c' : Call ρ ε}
    (hcall : s'.calls[e.call]? = some c') : ∃ c, s.calls[e.call]? = some c := by
  cases hmoves with
  | stays => exact ⟨c', hcall⟩
  | skips hold _ => exact ⟨_, hold⟩
  | inserts hold _ => exact ⟨_, hold⟩
  | fails hold _ => exact ⟨_, hold⟩
  | commits hold => exact ⟨_, hold⟩
  | aborts hold => exact ⟨_, hold⟩

/-- A call fails by a statement of its own. -/
theorem Moves.failed {e : Event} {s' : Table ρ ε} (hmoves : Moves rules s e s') {fault : ε}
    (hcall : s'.calls[i]? = some ⟨batch, .failed r fault⟩) : s.calls[i]? = some ⟨batch, .failed r fault⟩ ∨
      ∃ todo pending, e = .advance i ∧ s.calls[i]? = some ⟨batch, .active (r :: todo) pending⟩ ∧
        insertion rules (s.rows ++ pending) (s.others i) r = .failed fault := by
  by_cases hi : e.call = i
  · subst hi
    cases hmoves with
    | stays => exact Or.inl hcall
    | skips hold _ => cases Option.some.inj ((getElem?_put_self hold).symm.trans hcall)
    | inserts hold _ => cases Option.some.inj ((getElem?_put_self hold).symm.trans hcall)
    | fails hold hfailed =>
      cases Option.some.inj ((getElem?_put_self hold).symm.trans hcall)
      exact Or.inr ⟨_, _, rfl, hold, hfailed⟩
    | commits hold => cases Option.some.inj ((getElem?_commit_self hold).symm.trans hcall)
    | aborts hold => cases Option.some.inj ((getElem?_put_self hold).symm.trans hcall)
  · rw [(hmoves.other hi).1] at hcall
    exact Or.inl hcall

theorem step_inserted {todo pending : List ρ} (hcall : s.calls[i]? = some ⟨batch, .active (r :: todo) pending⟩)
    (hinserted : insertion rules (s.rows ++ pending) (s.others i) r = .inserted) :
    step rules s (.advance i) = s.put i batch (.active todo (pending ++ [r])) := by
  rw [step, hcall]
  dsimp only
  rw [hinserted]

theorem step_failed {todo pending : List ρ} {fault : ε} (hcall : s.calls[i]? = some ⟨batch, .active (r :: todo) pending⟩)
    (hfailed : insertion rules (s.rows ++ pending) (s.others i) r = .failed fault) :
    step rules s (.advance i) = s.put i batch (.failed r fault) := by
  rw [step, hcall]
  dsimp only
  rw [hfailed]

/-- Calls stay. -/
theorem length_calls (rules : Rules ρ ε) (s : Table ρ ε) (events : List Event) :
    (run rules s events).calls.length = s.calls.length := by
  refine run_invariant (P := fun s' => s'.calls.length = s.calls.length) (fun s' e h => ?_) rfl events
  rw [← h]
  have hmoves := step_moves rules s' e
  generalize step rules s' e = s'' at hmoves
  cases hmoves with
  | stays => rfl
  | _ => exact List.length_set

/-- What is known of calls, from the committed rows and those of the call: kept by a call's own moves and as more rows
are committed. -/
theorem run_calls {K : Nat → List ρ → List ρ → Call ρ ε → Prop}
    (hmono : ∀ i rows rows' mine c, rows ⊆ rows' → K i rows mine c → K i rows' mine c)
    (hown : ∀ (s s' : Table ρ ε) e c c', s.calls[e.call]? = some c → K e.call s.rows (s.storedBy e.call) c →
      Moves rules s e s' → s'.calls[e.call]? = some c' → K e.call s'.rows (s'.storedBy e.call) c')
    (h : ∀ i c, s.calls[i]? = some c → K i s.rows (s.storedBy i) c) (events : List Event) :
    ∀ i c, (run rules s events).calls[i]? = some c → K i (run rules s events).rows ((run rules s events).storedBy i) c := by
  refine run_invariant (P := fun s => ∀ i c, s.calls[i]? = some c → K i s.rows (s.storedBy i) c) (fun s e hs i c' hc' => ?_)
    h events
  have hmoves := step_moves rules s e
  by_cases hi : e.call = i
  · subst hi
    obtain ⟨c, hc⟩ := hmoves.exists_call hc'
    exact hown s _ e c c' hc (hs _ c hc) hmoves hc'
  · obtain ⟨hcalls, hmine⟩ := hmoves.other hi
    rw [hcalls] at hc'
    rw [hmine]
    exact hmono i _ _ _ c' hmoves.rows (hs i c' hc')

/-! ## All or none -/

/-- A row is in the table. -/
def IsStored (rules : Rules ρ ε) (rows : List ρ) (r : ρ) : Prop := ∃ x ∈ rows, rules.same r x = true

/-- What a row can fail at: a constraint, or an index under which another row is stored or is in the batch. -/
def FailsAt (rules : Rules ρ ε) (rows batch : List ρ) (r : ρ) (e : ε) : Prop :=
  rules.check r = some e ∨ rules.reference r = some e ∨
    ∃ clash, (e, clash) ∈ rules.unique ∧ ∃ x, (x ∈ rows ∨ x ∈ batch) ∧ clash r x = true ∧ rules.same r x = false

/-- What is known of a call: the rows behind it are in the table or inserted, and it has stored a row of each kind that
was not there, or none. -/
def Known (rules : Rules ρ ε) (rows mine : List ρ) (c : Call ρ ε) : Prop :=
  match c.state with
  | .active todo pending =>
    mine = [] ∧ ∃ done, c.batch = done ++ todo ∧ pending.Sublist done ∧
      ∀ r ∈ done, rules.check r = none ∧ IsStored rules (rows ++ pending) r
  | .committed written =>
    mine.length = written ∧ mine.Sublist c.batch ∧ ∀ r ∈ c.batch, rules.check r = none ∧ IsStored rules rows r
  | .failed r e => mine = [] ∧ r ∈ c.batch ∧ FailsAt rules rows c.batch r e
  | .aborted => mine = []

theorem IsStored.mono {rows rows' : List ρ} (hrows : rows ⊆ rows') {r : ρ} (h : IsStored rules rows r) :
    IsStored rules rows' r := by
  obtain ⟨x, hx, hsame⟩ := h
  exact ⟨x, hrows hx, hsame⟩

theorem FailsAt.mono {rows rows' batch : List ρ} (hrows : rows ⊆ rows') {r : ρ} {e : ε}
    (h : FailsAt rules rows batch r e) : FailsAt rules rows' batch r e :=
  h.imp_right fun h => h.imp_right fun ⟨clash, hclash, x, hx, hrest⟩ => ⟨clash, hclash, x, hx.imp_left (hrows ·), hrest⟩

theorem Known.mono {rows rows' mine : List ρ} {c : Call ρ ε} (hrows : rows ⊆ rows') (h : Known rules rows mine c) :
    Known rules rows' mine c := by
  obtain ⟨batch, state⟩ := c
  cases state with
  | active todo pending =>
    obtain ⟨hmine, done, hbatch, hpending, hdone⟩ := h
    refine ⟨hmine, done, hbatch, hpending, fun r hr => ⟨(hdone r hr).1, (hdone r hr).2.mono ?_⟩⟩
    exact List.append_subset.2 ⟨List.subset_append_of_subset_left _ hrows, List.subset_append_right _ _⟩
  | committed written =>
    obtain ⟨hlength, hsub, hstored⟩ := h
    exact ⟨hlength, hsub, fun r hr => ⟨(hstored r hr).1, (hstored r hr).2.mono hrows⟩⟩
  | failed r e =>
    obtain ⟨hmine, hr, hfails⟩ := h
    exact ⟨hmine, hr, hfails.mono hrows⟩
  | aborted => exact h

theorem insertion_failed {e : ε} (h : insertion rules seen others r = .failed e) :
    rules.check r = some e ∨ rules.reference r = some e ∨
      ∃ clash, (e, clash) ∈ rules.unique ∧ ∃ x ∈ seen, clash r x = true ∧ rules.same r x = false := by
  unfold insertion at h
  split at h
  · rename_i hcheck
    cases h
    exact Or.inl hcheck
  · split at h
    · cases h
    · rename_i hseen
      split at h
      · cases h
      · split at h
        · rename_i hreference
          cases h
          exact Or.inr (Or.inl hreference)
        · obtain ⟨clash, hclash, x, hx, hrx⟩ := lookUp_failed h
          refine Or.inr (Or.inr ⟨clash, hclash, x, hx, hrx, Bool.eq_false_iff.2 fun hsame => hseen ?_⟩)
          exact List.any_eq_true.2 ⟨x, hx, hsame⟩

/-- A call's own moves. -/
theorem Known.own {s' : Table ρ ε} {e : Event} {c c' : Call ρ ε} (hcall : s.calls[e.call]? = some c)
    (h : Known rules s.rows (s.storedBy e.call) c) (hmoves : Moves rules s e s') (hcall' : s'.calls[e.call]? = some c') :
    Known rules s'.rows (s'.storedBy e.call) c' := by
  cases hmoves with
  | stays => rwa [Option.some.inj (hcall.symm.trans hcall')] at h
  | @skips i batch r todo pending hold hskipped =>
    obtain rfl := Option.some.inj (hcall.symm.trans hold)
    obtain rfl := Option.some.inj ((getElem?_put_self hold).symm.trans hcall')
    obtain ⟨hmine, done, hbatch, hpending, hdone⟩ := h
    refine ⟨hmine, done ++ [r], by rw [hbatch, List.append_assoc]; rfl, hpending.trans (List.sublist_append_left _ _), ?_⟩
    rw [List.forall_mem_append, List.forall_mem_singleton]
    exact ⟨hdone, insertion_skipped.1 hskipped⟩
  -- the row is pending now, and every row before it stays placed in the longer list
  | @inserts i batch r todo pending hold hinserted =>
    obtain rfl := Option.some.inj (hcall.symm.trans hold)
    obtain rfl := Option.some.inj ((getElem?_put_self hold).symm.trans hcall')
    obtain ⟨hmine, done, hbatch, hpending, hdone⟩ := h
    refine ⟨hmine, done ++ [r], by rw [hbatch, List.append_assoc]; rfl, hpending.append_right _, ?_⟩
    rw [List.forall_mem_append, List.forall_mem_singleton]
    refine ⟨fun x hx => ⟨(hdone x hx).1, (hdone x hx).2.mono ?_⟩, (insertion_inserted_iff.1 hinserted).1, r, ?_, rules.same_refl r⟩
    · rw [← List.append_assoc]
      exact List.subset_append_left _ _
    · exact List.mem_append_right _ (List.mem_append_right _ (List.mem_singleton_self r))
  | @fails i batch r todo pending e hold hfailed =>
    obtain rfl := Option.some.inj (hcall.symm.trans hold)
    obtain rfl := Option.some.inj ((getElem?_put_self hold).symm.trans hcall')
    obtain ⟨hmine, done, rfl : batch = done ++ r :: todo, hpending, -⟩ := h
    have hdoneSub : pending ⊆ done ++ r :: todo := fun x hx => List.mem_append_left _ (hpending.subset hx)
    refine ⟨hmine, List.mem_append_right _ List.mem_cons_self, ?_⟩
    refine (insertion_failed hfailed).imp_right fun h => h.imp_right ?_
    rintro ⟨clash, hclash, x, hx, hrest⟩
    exact ⟨clash, hclash, x, (List.mem_append.1 hx).imp_right (hdoneSub ·), hrest⟩
  | @commits i batch pending hold =>
    obtain rfl := Option.some.inj (hcall.symm.trans hold)
    obtain rfl := Option.some.inj ((getElem?_commit_self hold).symm.trans hcall')
    obtain ⟨hmine, done, hbatch, hpending, hdone⟩ := h
    rw [List.append_nil] at hbatch
    -- the commit stores exactly what was pending
    have hstored : (s.commit i batch pending).storedBy i = pending := by
      rw [storedBy_commit_self, show s.storedBy i = [] from hmine, List.nil_append]
    show Known rules (s.commit i batch pending).rows ((s.commit i batch pending).storedBy i) _
    rw [hstored, rows_commit]
    refine ⟨rfl, ?_, ?_⟩
    · show pending.Sublist batch
      rwa [show batch = done from hbatch]
    · show ∀ r ∈ batch, _
      rwa [show batch = done from hbatch]
  | @aborts i batch todo pending hold =>
    obtain rfl := Option.some.inj (hcall.symm.trans hold)
    obtain rfl := Option.some.inj ((getElem?_put_self hold).symm.trans hcall')
    exact h.1

/-! ## Batches that are stored already -/

/-- A call that stores nothing: every row it has still to insert is in the table. -/
def Quiet (rules : Rules ρ ε) (rows mine : List ρ) (c : Call ρ ε) : Prop :=
  mine = [] ∧
    match c.state with
    | .active todo pending => pending = [] ∧ ∀ r ∈ todo, rules.check r = none ∧ IsStored rules rows r
    | .committed written => written = 0
    | .failed _ _ => False
    | .aborted => True

theorem Quiet.mono {rows rows' mine : List ρ} {c : Call ρ ε} (hrows : rows ⊆ rows') (h : Quiet rules rows mine c) :
    Quiet rules rows' mine c := by
  obtain ⟨batch, state⟩ := c
  cases state with
  | active todo pending =>
    obtain ⟨hmine, hpending, hstored⟩ := h
    exact ⟨hmine, hpending, fun r hr => ⟨(hstored r hr).1, (hstored r hr).2.mono hrows⟩⟩
  | _ => exact h

theorem Quiet.own {s' : Table ρ ε} {e : Event} {c c' : Call ρ ε} (hcall : s.calls[e.call]? = some c)
    (h : Quiet rules s.rows (s.storedBy e.call) c) (hmoves : Moves rules s e s') (hcall' : s'.calls[e.call]? = some c') :
    Quiet rules s'.rows (s'.storedBy e.call) c' := by
  -- the next row is in the table
  have hskipped : ∀ {i r todo pending} {batch : List ρ}, Quiet rules s.rows (s.storedBy i) ⟨batch, .active (r :: todo) pending⟩ →
      insertion rules (s.rows ++ pending) (s.others i) r = .skipped := by
    rintro i r todo pending batch ⟨-, -, hstored⟩
    obtain ⟨hcheck, x, hx, hsame⟩ := hstored r List.mem_cons_self
    exact insertion_skipped.2 ⟨hcheck, x, List.mem_append_left _ hx, hsame⟩
  cases hmoves with
  | stays => rwa [Option.some.inj (hcall.symm.trans hcall')] at h
  | @skips i batch r todo pending hold _ =>
    obtain rfl := Option.some.inj (hcall.symm.trans hold)
    obtain rfl := Option.some.inj ((getElem?_put_self hold).symm.trans hcall')
    obtain ⟨hmine, hpending, hstored⟩ := h
    exact ⟨hmine, hpending, fun x hx => hstored x (List.mem_cons_of_mem _ hx)⟩
  | @inserts i batch r todo pending hold hinserted =>
    obtain rfl := Option.some.inj (hcall.symm.trans hold)
    exact absurd ((hskipped h).symm.trans hinserted) nofun
  | @fails i batch r todo pending e hold hfailed =>
    obtain rfl := Option.some.inj (hcall.symm.trans hold)
    exact absurd ((hskipped h).symm.trans hfailed) nofun
  | @commits i batch pending hold =>
    obtain rfl := Option.some.inj (hcall.symm.trans hold)
    obtain rfl := Option.some.inj ((getElem?_commit_self hold).symm.trans hcall')
    obtain ⟨hmine, rfl : pending = [], -⟩ := h
    refine ⟨?_, rfl⟩
    show (s.commit i batch []).storedBy i = []
    rw [storedBy_commit_self, List.append_nil]
    exact hmine
  | @aborts i batch todo pending hold =>
    obtain rfl := Option.some.inj (hcall.symm.trans hold)
    obtain rfl := Option.some.inj ((getElem?_put_self hold).symm.trans hcall')
    exact ⟨h.1, trivial⟩

/-! ## Runs -/

/-- A table whose rows respect its indexes, before any call. -/
structure Begins (rules : Rules ρ ε) (s : Table ρ ε) : Prop where
  rows : s.rows.Pairwise fun a b => rules.conflict a b = false
  stored : ∀ x ∈ s.stored, x.call = none
  calls : ∀ c ∈ s.calls, c.state = .active c.batch []

variable (events : List Event)

theorem Begins.storedBy (h : Begins rules s) (i : Nat) : s.storedBy i = [] := by
  rw [Table.storedBy, List.map_eq_nil_iff, List.filter_eq_nil_iff]
  intro x hx
  rw [h.stored x hx]
  simp

theorem Begins.sound (h : Begins rules s) : Sound rules (run rules s events) := by
  have hpending : s.calls.flatMap (·.state.pending) = [] := by
    rw [List.flatMap_eq_nil_iff]
    intro c hc
    rw [h.calls c hc]
    rfl
  refine run_invariant (fun s e hs => hs.moves (step_moves rules s e)) ?_ events
  rw [Sound, Table.held, hpending, List.append_nil]
  exact h.rows

/-- No two stored rows are in each other's way, in any run. -/
theorem Begins.separate (h : Begins rules s) :
    (run rules s events).rows.Pairwise fun a b => rules.conflict a b = false :=
  (List.pairwise_append.1 (h.sound events)).1

/-- What is known of a call holds in every run. -/
theorem Begins.known (h : Begins rules s) {c : Call ρ ε} (hcall : (run rules s events).calls[i]? = some c) :
    Known rules (run rules s events).rows ((run rules s events).storedBy i) c := by
  refine run_calls (K := fun _ => Known rules) (fun _ _ _ _ _ hrows hknown => hknown.mono hrows)
    (fun _ _ _ _ _ hcall hknown hmoves hcall' => hknown.own hcall hmoves hcall') (fun j c hc => ?_) events i c hcall
  obtain ⟨batch, state⟩ := c
  obtain rfl : state = .active batch [] := h.calls _ (List.mem_of_getElem? hc)
  exact ⟨h.storedBy j, [], rfl, List.Sublist.refl _, fun r hr => absurd hr List.not_mem_nil⟩

/-- A batch that was stored is not stored again. -/
theorem Begins.quiet (h : Begins rules s) {later : List Event} {batch : List ρ} {written j : Nat} {c : Call ρ ε}
    (hstored : (run rules s events).calls[i]? = some ⟨batch, .committed written⟩)
    (hagain : (run rules s events).calls[j]? = some ⟨batch, .active batch []⟩)
    (hcall : (run rules s (events ++ later)).calls[j]? = some c) :
    Quiet rules (run rules s (events ++ later)).rows ((run rules s (events ++ later)).storedBy j) c := by
  obtain ⟨-, -, hrows⟩ := h.known events hstored
  obtain ⟨hmine, -⟩ := h.known events hagain
  rw [run_append] at hcall ⊢
  refine run_calls (K := fun k rows mine c => k = j → Quiet rules rows mine c)
    (fun _ _ _ _ _ hrows hquiet hk => (hquiet hk).mono hrows)
    (fun _ _ _ _ _ hcall hquiet hmoves hcall' hk => (hquiet hk).own hcall hmoves hcall') ?_ later j c hcall rfl
  rintro k c hc rfl
  obtain rfl := Option.some.inj (hagain.symm.trans hc)
  exact ⟨hmine, rfl, hrows⟩

end Steps

end IcttSentinel.Lib.Batches
