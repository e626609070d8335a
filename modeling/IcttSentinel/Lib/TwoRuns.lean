/-
Two runs of one computation, on states that agree on what one party owns: a computation secure for the party answers
alike in both, leaves them agreeing, and changes nothing outside a frame. The rules follow the ways a computation is put
together; a table agrees with another on the rows of a party, and a transaction that stays within keys reads only those.
-/
import IcttSentinel.Lib.Sorting
import IcttSentinel.Lib.Transactions

namespace IcttSentinel.Lib

/-! ## Tables that agree on the rows of a party -/

section Tables

variable {ρ κ : Type*} {key : ρ → κ} {P Q : ρ → Prop} {t u v : Keyed key}

/-- The two tables hold the same rows of the party. -/
def SameRows (P : ρ → Prop) (t u : Keyed key) : Prop := ∀ r, P r → (r ∈ t.rows ↔ r ∈ u.rows)

theorem SameRows.refl (P : ρ → Prop) (t : Keyed key) : SameRows P t t := fun _ _ => Iff.rfl

theorem SameRows.symm (h : SameRows P t u) : SameRows P u t := fun r hr => (h r hr).symm

theorem SameRows.trans (h : SameRows P t u) (h' : SameRows P u v) : SameRows P t v := fun r hr =>
  (h r hr).trans (h' r hr)

theorem SameRows.imp (h : SameRows P t u) (hQ : ∀ r, Q r → P r) : SameRows Q t u := fun r hr => h r (hQ r hr)

/-- The party's rows of a table are those of any other part of it that keeps them. -/
theorem sameRows_keep {p : ρ → Bool} (hp : ∀ r, P r → p r = true) : SameRows P t (t.keep p) := fun r hr => by
  rw [Keyed.mem_keep]
  exact ⟨fun h => ⟨h, hp r hr⟩, And.left⟩

/-- The party's rows, in any order. -/
theorem SameRows.filter_perm {p : ρ → Bool} (h : SameRows P t u) (hp : ∀ r, p r = true → P r) :
    (t.rows.filter p).Perm (u.rows.filter p) := by
  refine Keyed.rows_perm (t := t.keep p) (u := u.keep p) fun r => ?_
  rw [Keyed.mem_keep, Keyed.mem_keep]
  exact and_congr_left fun hr => h r (hp r hr)

/-- The party's rows in an order that tells them apart. -/
theorem SameRows.sortOn_filter {β : Type*} [LinearOrder β] {f : ρ → β} {p : ρ → Bool} (h : SameRows P t u)
    (hp : ∀ r, p r = true → P r) (hf : ∀ a b, p a = true → p b = true → f a = f b → key a = key b) :
    sortOn f (t.rows.filter p) = sortOn f (u.rows.filter p) := by
  refine sortOn_eq_of_perm (fun a ha b hb hab => ?_) (h.filter_perm hp)
  obtain ⟨ha, hpa⟩ := List.mem_filter.1 ha
  obtain ⟨hb, hpb⟩ := List.mem_filter.1 hb
  exact t.eq_of_key ha hb (hf a b hpa hpb hab)

/-- An update of every row, which makes none the party's and takes none from it. -/
theorem SameRows.map {f : ρ → ρ} {t' u' : Keyed key} (h : SameRows P t u) (ht : t'.rows = t.rows.map f)
    (hu : u'.rows = u.rows.map f) (hf : ∀ r, P (f r) ↔ P r) : SameRows P t' u' := fun r hr => by
  rw [ht, hu, List.mem_map, List.mem_map]
  constructor
  · rintro ⟨x, hx, rfl⟩
    exact ⟨x, (h x ((hf x).1 hr)).1 hx, rfl⟩
  · rintro ⟨x, hx, rfl⟩
    exact ⟨x, (h x ((hf x).1 hr)).2 hx, rfl⟩

/-- An update that leaves the party's rows as they are. -/
theorem sameRows_map {f : ρ → ρ} {t' : Keyed key} (ht : t'.rows = t.rows.map f) (hf : ∀ r, P (f r) ↔ P r)
    (hfixed : ∀ r, P r → f r = r) : SameRows P t t' := fun r hr => by
  rw [ht, List.mem_map]
  constructor
  · exact fun hmem => ⟨r, hmem, hfixed r hr⟩
  · rintro ⟨x, hx, rfl⟩
    rwa [hfixed x ((hf x).1 hr)]

variable [DecidableEq κ]

theorem SameRows.upsert (h : SameRows P t u) (x : ρ) : SameRows P (t.upsert x) (u.upsert x) := fun r hr => by
  rw [Keyed.mem_upsert, Keyed.mem_upsert, h r hr]

/-- A row written under a key of someone else's. -/
theorem sameRows_upsert {x : ρ} (hx : ∀ r, P r → key r ≠ key x) : SameRows P t (t.upsert x) := fun r hr => by
  rw [Keyed.mem_upsert]
  constructor
  · exact fun hmem => .inr ⟨hmem, hx r hr⟩
  · rintro (rfl | ⟨hmem, -⟩)
    · exact absurd rfl (hx r hr)
    · exact hmem

/-- A new row of someone else's. -/
theorem sameRows_insertIfAbsent {x : ρ} (hx : ¬ P x) : SameRows P t (t.insertIfAbsent x) := fun r hr => by
  rw [Keyed.mem_insertIfAbsent]
  constructor
  · exact .inl
  · rintro (hmem | ⟨rfl, -⟩)
    · exact hmem
    · exact absurd hr hx

/-- A row that is the party's is found under its key in both. -/
theorem SameRows.lookup_filter {p : ρ → Bool} (h : SameRows P t u) (hp : ∀ r, p r = true → P r) (k : κ) :
    (t.lookup k).filter p = (u.lookup k).filter p := by
  refine Option.ext fun r => ?_
  simp only [Option.filter_eq_some_iff, Keyed.lookup_eq_some]
  exact and_congr_left fun hr => and_congr_left fun _ => h r (hp r hr)

/-- Where the rows under a key are all the party's, both read the same. -/
theorem SameRows.lookup_eq (h : SameRows P t u) {k : κ} (hk : ∀ r, key r = k → P r) : t.lookup k = u.lookup k := by
  refine Option.ext fun r => ?_
  rw [Keyed.lookup_eq_some, Keyed.lookup_eq_some]
  exact and_congr_left fun hr => h r (hk r hr)

theorem sameRows_of_lookup_eq (h : ∀ r, P r → t.lookup (key r) = u.lookup (key r)) : SameRows P t u := fun r hr => by
  have hread := h r hr
  constructor
  · intro hmem
    exact (Keyed.lookup_eq_some.1 (hread ▸ Keyed.lookup_eq_some.2 ⟨hmem, rfl⟩)).1
  · intro hmem
    exact (Keyed.lookup_eq_some.1 (hread.symm ▸ Keyed.lookup_eq_some.2 ⟨hmem, rfl⟩)).1

end Tables

/-! ## Transactions that stay within keys -/

namespace Program

variable {ρ κ Lock ε α : Type*} {key : ρ → κ} [DecidableEq κ]

/-- What a transaction does that runs with no other beside it. -/
def alone (committed : Keyed key) : Program ρ κ Lock ε α → List ρ → Except ε α × Keyed key
  | .lock _ next, pending => alone committed next pending
  | .select k next, pending => alone committed (next (Store.visible committed pending k)) pending
  | .insert r violation next, pending =>
    if committed.has (key r) || pending.any (key · = key r) then (.error violation, committed)
    else alone committed next (pending ++ [r])
  | .commit a, pending => (.ok a, committed.insertAll pending)
  | .rollback e, _ => (.error e, committed)

/-- Every row the transaction reads or inserts is under such a key. -/
inductive Within (key : ρ → κ) (K : κ → Prop) : Program ρ κ Lock ε α → Prop
  | lock {l next} (hnext : Within key K next) : Within key K (.lock l next)
  | select {k next} (hk : K k) (hnext : ∀ found, (∀ r ∈ found, key r = k) → Within key K (next found)) :
      Within key K (.select k next)
  | insert {r violation next} (hr : K (key r)) (hnext : Within key K next) : Within key K (.insert r violation next)
  | commit {a} : Within key K (.commit a)
  | rollback {e} : Within key K (.rollback e)

variable {K : κ → Prop} {t u : Keyed key} {p : Program ρ κ Lock ε α}

/-- Two tables that read the same under its keys answer the transaction alike, and read the same afterwards. -/
theorem Within.alone_alike (hp : Within key K p) (h : ∀ k, K k → t.lookup k = u.lookup k) (pending : List ρ) :
    (p.alone t pending).1 = (p.alone u pending).1 ∧
      ∀ k, K k → (p.alone t pending).2.lookup k = (p.alone u pending).2.lookup k := by
  -- equal lookups are equal answers to whether the key is taken
  have hhas : ∀ k, K k → t.has k = u.has k := fun k hk => by
    have hread := h k hk
    rw [Bool.eq_iff_iff, Keyed.has_iff, Keyed.has_iff]
    constructor
    · rintro ⟨r, hr, hrk⟩
      exact ⟨r, (Keyed.lookup_eq_some.1 (hread ▸ Keyed.lookup_eq_some.2 ⟨hr, hrk⟩)).1, hrk⟩
    · rintro ⟨r, hr, hrk⟩
      exact ⟨r, (Keyed.lookup_eq_some.1 (hread.symm ▸ Keyed.lookup_eq_some.2 ⟨hr, hrk⟩)).1, hrk⟩
  induction hp generalizing pending with
  | lock _ ih => exact ih pending
  | @select k next hk hnext ih =>
    have hvisible : Store.visible t pending k = Store.visible u pending k := by
      rw [Store.visible, Store.visible, h k hk]
    rw [alone, alone, ← hvisible]
    refine ih (Store.visible t pending k) (fun r hr => ?_) pending
    rcases Option.or_eq_some_iff.1 hr with hr | ⟨-, hr⟩
    · simpa using List.find?_some hr
    · exact (Keyed.lookup_eq_some.1 hr).2
  | @insert r violation next hr _ ih =>
    rw [alone, alone, hhas _ hr]
    split
    · exact ⟨rfl, h⟩
    · exact ih _
  | commit => exact ⟨rfl, fun k hk => by rw [alone, alone, Keyed.lookup_insertAll, Keyed.lookup_insertAll, h k hk]⟩
  | rollback => exact ⟨rfl, h⟩

/-- A transaction leaves the rows under all other keys as they are. -/
theorem Within.alone_elsewhere (hp : Within key K p) (pending : List ρ) (hpending : ∀ r ∈ pending, K (key r)) :
    SameRows (fun r => ¬ K (key r)) t (p.alone t pending).2 := by
  induction hp generalizing pending with
  | lock _ ih => exact ih pending hpending
  | @select k next _ _ ih =>
    refine ih (Store.visible t pending k) (fun r hr => ?_) pending hpending
    rcases Option.or_eq_some_iff.1 hr with hr | ⟨-, hr⟩
    · simpa using List.find?_some hr
    · exact (Keyed.lookup_eq_some.1 hr).2
  | @insert r violation next hr _ ih =>
    rw [alone]
    split
    · exact SameRows.refl _ t
    · refine ih _ fun x hx => ?_
      rcases List.mem_append.1 hx with hx | hx
      · exact hpending x hx
      · rwa [List.mem_singleton.1 hx]
  | commit =>
    intro r hr
    rw [alone, Keyed.mem_insertAll]
    exact ⟨Or.inl, fun h => h.resolve_right fun hfirst => hr (hpending r hfirst.1.mem)⟩
  | rollback => exact SameRows.refl _ t

end Program

/-! ## Secure computations -/

/-- A computation that can fail, on a state that it keeps when it does. -/
abbrev Stateful (σ ε α : Type) := ExceptT ε (StateM σ) α

namespace Stateful

variable {σ ε α β : Type}

/-- A statement that reads and writes the state. -/
def op (f : σ → Except ε α × σ) : Stateful σ ε α := f

/-- A computation that is tried, and what is done when it fails. -/
def orCatch (m : Stateful σ ε α) (handler : ε → Stateful σ ε α) : Stateful σ ε α := fun s =>
  match m s with
  | (.ok a, s') => (.ok a, s')
  | (.error e, s') => handler e s'

theorem bind_apply (m : Stateful σ ε α) (f : α → Stateful σ ε β) (s : σ) :
    (m >>= f) s = match m s with
      | (.ok a, s') => f a s'
      | (.error e, s') => (.error e, s') := by
  show (match (m s) with | (a, s') => (ExceptT.bindCont f a) s') = _
  rcases m s with ⟨_ | _, s'⟩ <;> rfl

/-- Whatever the computation ends with, it leaves the state within the frame. -/
def Keeps (F : σ → σ → Prop) (m : Stateful σ ε α) : Prop := ∀ s, F s (m s).2

theorem Keeps.apply {F : σ → σ → Prop} {m : Stateful σ ε α} (h : Keeps F m) {s t : σ} {answer : Except ε α}
    (hm : m s = (answer, t)) : F s t := by
  have hkeeps := h s
  rwa [hm] at hkeeps

theorem Keeps.bind {F : σ → σ → Prop} (htrans : ∀ s t u, F s t → F t u → F s u) {m : Stateful σ ε α}
    {f : α → Stateful σ ε β} (hm : Keeps F m) (hf : ∀ a, Keeps F (f a)) : Keeps F (m >>= f) := by
  intro s
  rw [bind_apply]
  have hfirst := hm s
  rcases hms : m s with ⟨_ | a, t⟩
  · rwa [hms] at hfirst
  · rw [hms] at hfirst
    exact htrans _ _ _ hfirst (hf a t)

/-- In related states the computation ends alike, in related states and within the frame; what it returns is so. -/
def Secure (R F : σ → σ → Prop) (Q : α → Prop) (m : Stateful σ ε α) : Prop :=
  ∀ s t, R s t → (m s).1 = (m t).1 ∧ R (m s).2 (m t).2 ∧ F s (m s).2 ∧ F t (m t).2 ∧ ∀ a, (m s).1 = .ok a → Q a

section Rules

variable {R F : σ → σ → Prop} {Q : α → Prop} {Q' : β → Prop}

theorem Secure.imp {Q₁ : α → Prop} {m : Stateful σ ε α} (h : Secure R F Q m) (hQ : ∀ a, Q a → Q₁ a) :
    Secure R F Q₁ m := fun s t hst =>
  let ⟨hanswer, hafter, hs, ht, hQm⟩ := h s t hst
  ⟨hanswer, hafter, hs, ht, fun a ha => hQ a (hQm a ha)⟩

/-- A statement is secure when it reads only what the states agree on. -/
theorem secure_op {f : σ → Except ε α × σ}
    (h : ∀ s t, R s t → (f s).1 = (f t).1 ∧ R (f s).2 (f t).2 ∧ F s (f s).2 ∧ F t (f t).2)
    (hQ : ∀ s t, R s t → ∀ a, (f s).1 = .ok a → Q a) : Secure R F Q (op f) := fun s t hst =>
  let ⟨hanswer, hafter, hs, ht⟩ := h s t hst
  ⟨hanswer, hafter, hs, ht, hQ s t hst⟩

theorem secure_pure (hrefl : ∀ s, F s s) {a : α} (ha : Q a) : Secure R F Q (pure a : Stateful σ ε α) :=
  fun s t hst => ⟨rfl, hst, hrefl s, hrefl t, fun b hb => by
    obtain rfl : a = b := Except.ok.inj hb
    exact ha⟩

theorem secure_throw (hrefl : ∀ s, F s s) (e : ε) : Secure R F Q (throw e : Stateful σ ε α) :=
  fun s t hst => ⟨rfl, hst, hrefl s, hrefl t, fun b hb => by cases hb⟩

/-- A query. -/
theorem secure_read (hrefl : ∀ s, F s s) {f : σ → Except ε α} (h : ∀ s t, R s t → f s = f t)
    (hQ : ∀ s t, R s t → ∀ a, f s = .ok a → Q a) : Secure R F Q (op fun s => (f s, s)) :=
  secure_op (fun s t hst => ⟨h s t hst, hst, hrefl s, hrefl t⟩) hQ

theorem Secure.bind (htrans : ∀ s t u, F s t → F t u → F s u) {m : Stateful σ ε α} {f : α → Stateful σ ε β}
    (hm : Secure R F Q m) (hf : ∀ a, Q a → Secure R F Q' (f a)) : Secure R F Q' (m >>= f) := by
  intro s t hst
  obtain ⟨hanswer, hafter, hs, ht, hQ⟩ := hm s t hst
  rw [bind_apply, bind_apply]
  rcases hms : m s with ⟨a, s'⟩
  rcases hmt : m t with ⟨b, t'⟩
  rw [hms, hmt] at hanswer hafter
  rw [hms] at hs hQ
  rw [hmt] at ht
  obtain rfl : a = b := hanswer
  cases a with
  | error e => exact ⟨rfl, hafter, hs, ht, fun c hc => by cases hc⟩
  | ok a =>
    obtain ⟨hanswer', hafter', hs', ht', hQ'⟩ := hf a (hQ a rfl) s' t' hafter
    exact ⟨hanswer', hafter', htrans _ _ _ hs hs', htrans _ _ _ ht ht', hQ'⟩

theorem Secure.orCatch (htrans : ∀ s t u, F s t → F t u → F s u) {m : Stateful σ ε α} {handler : ε → Stateful σ ε α}
    (hm : Secure R F Q m) (hhandler : ∀ e, Secure R F Q (handler e)) : Secure R F Q (m.orCatch handler) := by
  intro s t hst
  obtain ⟨hanswer, hafter, hs, ht, hQ⟩ := hm s t hst
  rw [Stateful.orCatch, Stateful.orCatch]
  rcases hms : m s with ⟨a, s'⟩
  rcases hmt : m t with ⟨b, t'⟩
  rw [hms, hmt] at hanswer hafter
  rw [hms] at hs hQ
  rw [hmt] at ht
  obtain rfl : a = b := hanswer
  cases a with
  | ok a => exact ⟨rfl, hafter, hs, ht, hQ⟩
  | error e =>
    obtain ⟨hanswer', hafter', hs', ht', hQ'⟩ := hhandler e s' t' hafter
    exact ⟨hanswer', hafter', htrans _ _ _ hs hs', htrans _ _ _ ht ht', hQ'⟩

end Rules

/-! ## Runs -/

/-- The answers to a list of requests, and the state they leave. -/
def runAll {ι ω : Type} (serve : ι → σ → ω × σ) : List ι → σ → List ω × σ
  | [], s => ([], s)
  | r :: requests, s =>
    ((serve r s).1 :: (runAll serve requests (serve r s).2).1, (runAll serve requests (serve r s).2).2)

/-- Requests that are each served alike are answered alike one after the other. -/
theorem runAll_alike {ι ω : Type} {serve : ι → σ → ω × σ} {R F : σ → σ → Prop} {A : ι → σ → Prop} (hrefl : ∀ s, F s s)
    (htrans : ∀ s t u, F s t → F t u → F s u) (hadmits : ∀ r s s', F s s' → A r s → A r s')
    (hserve : ∀ r s t, R s t → A r s → (serve r s).1 = (serve r t).1 ∧ R (serve r s).2 (serve r t).2 ∧
      F s (serve r s).2 ∧ F t (serve r t).2)
    {requests : List ι} {s t : σ} (hst : R s t) (hrequests : ∀ r ∈ requests, A r s) :
    (runAll serve requests s).1 = (runAll serve requests t).1 ∧
      R (runAll serve requests s).2 (runAll serve requests t).2 ∧
      F s (runAll serve requests s).2 ∧ F t (runAll serve requests t).2 := by
  induction requests generalizing s t with
  | nil => exact ⟨rfl, hst, hrefl s, hrefl t⟩
  | cons r requests ih =>
    obtain ⟨hanswer, hafter, hs, ht⟩ := hserve r s t hst (hrequests r (by simp))
    have hrest : ∀ x ∈ requests, A x (serve r s).2 := fun x hx => hadmits x s _ hs (hrequests x (by simp [hx]))
    obtain ⟨hanswers, hend, hs', ht'⟩ := ih hafter hrest
    refine ⟨?_, hend, htrans _ _ _ hs hs', htrans _ _ _ ht ht'⟩
    rw [runAll, runAll, hanswer, hanswers]

end Stateful

end IcttSentinel.Lib
