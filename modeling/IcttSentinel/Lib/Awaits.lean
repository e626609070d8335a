/-
Programs that await one operation after the other on a shared state. Each operation is atomic: it
takes effect and answers, or fails and changes nothing. Between two of them a program may be cut off,
and what it leaves behind is the state the last operation made; so a finished run keeps the trail of
its operations beside its result and its final state.

A contract of a run (`Ended.Meets`) says what holds after every operation of the trail, of the answer
and of the failure; the rules give it for sequencing, failure and loops with a variant.
-/
import Mathlib.Tactic

namespace IcttSentinel.Lib

/-- One awaited operation: which one, whether it took effect, and the state it left. -/
structure Awaited (ω σ : Type) where
  op : ω
  ok : Bool
  after : σ
  deriving DecidableEq

/-- A run that has ended. -/
structure Ended (ω σ ε α : Type) where
  trail : List (Awaited ω σ)
  state : σ
  result : Except ε α

/-- Programs with operations `ω` on states `σ` that fail with `ε` or answer `α`. -/
def Awaits (ω σ ε α : Type) := σ → Ended ω σ ε α

variable {ω σ ε ε' α β γ : Type}

/-- What a run promises: `C` after every operation, `Q` of its answer, `E` of its failure. -/
structure Ended.Meets (r : Ended ω σ ε α) (C : Awaited ω σ → Prop) (Q : α → σ → Prop) (E : ε → σ → Prop) : Prop where
  trail : ∀ x ∈ r.trail, C x
  ok : ∀ a, r.result = .ok a → Q a r.state
  error : ∀ e, r.result = .error e → E e r.state

theorem Ended.Meets.mono {r : Ended ω σ ε α} {C C' : Awaited ω σ → Prop} {Q Q' : α → σ → Prop}
    {E E' : ε → σ → Prop}
    (h : r.Meets C Q E) (hC : ∀ x, C x → C' x) (hQ : ∀ a s, Q a s → Q' a s) (hE : ∀ e s, E e s → E' e s) :
    r.Meets C' Q' E' :=
  ⟨fun x hx => hC x (h.trail x hx), fun a ha => hQ a _ (h.ok a ha), fun e he => hE e _ (h.error e he)⟩

/-- Two contracts of one run hold together. -/
theorem Ended.Meets.and {r : Ended ω σ ε α} {C C' : Awaited ω σ → Prop} {Q Q' : α → σ → Prop} {E E' : ε → σ → Prop}
    (h : r.Meets C Q E) (h' : r.Meets C' Q' E') :
    r.Meets (fun x => C x ∧ C' x) (fun a s => Q a s ∧ Q' a s) fun e s => E e s ∧ E' e s :=
  ⟨fun x hx => ⟨h.trail x hx, h'.trail x hx⟩, fun a ha => ⟨h.ok a ha, h'.ok a ha⟩,
    fun e he => ⟨h.error e he, h'.error e he⟩⟩

/-- What a run promises of its state however it ends. -/
theorem Ended.Meets.state {r : Ended ω σ ε α} {C : Awaited ω σ → Prop} {P : σ → Prop}
    (h : r.Meets C (fun _ => P) fun _ => P) : P r.state := by
  cases hresult : r.result with
  | ok a => exact h.ok a hresult
  | error e => exact h.error e hresult

/-- A run that promises of no failure ends with an answer. -/
theorem Ended.Meets.answers {r : Ended ω σ ε α} {C : Awaited ω σ → Prop} {Q : α → σ → Prop}
    (h : r.Meets C Q fun _ _ => False) : ∃ a, r.result = .ok a ∧ Q a r.state := by
  cases hresult : r.result with
  | ok a => exact ⟨a, rfl, h.ok a hresult⟩
  | error e => exact (h.error e hresult).elim

/-- A run that promises of no answer ends with a failure. -/
theorem Ended.Meets.fails {r : Ended ω σ ε α} {C : Awaited ω σ → Prop} {E : ε → σ → Prop}
    (h : r.Meets C (fun _ _ => False) E) : ∃ e, r.result = .error e ∧ E e r.state := by
  cases hresult : r.result with
  | ok a => exact (h.ok a hresult).elim
  | error e => exact ⟨e, rfl, h.error e hresult⟩

namespace Awaits

/-! ## Programs -/

protected def pure (a : α) : Awaits ω σ ε α := fun s => { trail := [], state := s, result := .ok a }

protected def throw (e : ε) : Awaits ω σ ε α := fun s => { trail := [], state := s, result := .error e }

protected def bind (p : Awaits ω σ ε α) (f : α → Awaits ω σ ε β) : Awaits ω σ ε β := fun s =>
  match (p s).result with
  | .error e => { trail := (p s).trail, state := (p s).state, result := .error e }
  | .ok a =>
    { trail := (p s).trail ++ (f a (p s).state).trail
      state := (f a (p s).state).state
      result := (f a (p s).state).result }

instance : Monad (Awaits ω σ ε) where
  pure := Awaits.pure
  bind := Awaits.bind

/-- Await one operation. -/
def await (op : ω) (f : σ → Except ε (α × σ)) : Awaits ω σ ε α := fun s =>
  match f s with
  | .ok (a, s') => { trail := [{ op, ok := true, after := s' }], state := s', result := .ok a }
  | .error e => { trail := [{ op, ok := false, after := s }], state := s, result := .error e }

/-- Await an operation that only reads. -/
def read (op : ω) (f : σ → α) : Awaits ω σ ε α := await op fun s => .ok (f s, s)

def ofExcept : Except ε α → Awaits ω σ ε α
  | .ok a => .pure a
  | .error e => .throw e

/-- Run a program and hand over how it ended: `try`. -/
def attempt (p : Awaits ω σ ε α) : Awaits ω σ ε' (Except ε α) := fun s =>
  { trail := (p s).trail, state := (p s).state, result := .ok (p s).result }

/-- The same program under another type of failures. -/
def mapError (f : ε → ε') (p : Awaits ω σ ε α) : Awaits ω σ ε' α := fun s =>
  { trail := (p s).trail, state := (p s).state, result := (p s).result.mapError f }

/-! ## Contracts -/

section Rules

variable {C : Awaited ω σ → Prop} {Q : α → σ → Prop} {E : ε → σ → Prop} {s : σ}

theorem meets_pure {a : α} (h : Q a s) : ((pure a : Awaits ω σ ε α) s).Meets C Q E := by
  refine ⟨fun x hx => by simp [pure, Awaits.pure] at hx, fun b hb => ?_, fun e he => by simp [pure, Awaits.pure] at he⟩
  obtain rfl : a = b := Except.ok.inj hb
  exact h

theorem meets_throw {e : ε} (h : E e s) : ((Awaits.throw e : Awaits ω σ ε α) s).Meets C Q E := by
  refine ⟨fun x hx => by simp [Awaits.throw] at hx, fun a ha => by simp [Awaits.throw] at ha, fun e' he => ?_⟩
  obtain rfl : e = e' := Except.error.inj he
  exact h

theorem meets_ofExcept {r : Except ε α} (hok : ∀ a, r = .ok a → Q a s) (herror : ∀ e, r = .error e → E e s) :
    ((ofExcept r : Awaits ω σ ε α) s).Meets C Q E := by
  cases r with
  | ok a => exact meets_pure (hok a rfl)
  | error e => exact meets_throw (herror e rfl)

theorem meets_await {op : ω} {f : σ → Except ε (α × σ)}
    (hok : ∀ a s', f s = .ok (a, s') → C { op, ok := true, after := s' } ∧ Q a s')
    (herror : ∀ e, f s = .error e → C { op, ok := false, after := s } ∧ E e s) :
    (await op f s).Meets C Q E := by
  unfold await
  split
  · rename_i a s' h
    obtain ⟨hC, hQ⟩ := hok a s' h
    refine ⟨fun x hx => by rwa [List.mem_singleton.1 hx], fun b hb => ?_, fun e he => by simp at he⟩
    obtain rfl : a = b := Except.ok.inj hb
    exact hQ
  · rename_i e h
    obtain ⟨hC, hE⟩ := herror e h
    refine ⟨fun x hx => by rwa [List.mem_singleton.1 hx], fun a ha => by simp at ha, fun e' he => ?_⟩
    obtain rfl : e = e' := Except.error.inj he
    exact hE

theorem meets_read {op : ω} {f : σ → α} (hC : C { op, ok := true, after := s }) (hQ : Q (f s) s) :
    ((read op f : Awaits ω σ ε α) s).Meets C Q E := by
  refine meets_await (fun a s' h => ?_) fun e h => by simp at h
  obtain ⟨rfl, rfl⟩ := Prod.mk.inj (Except.ok.inj h)
  exact ⟨hC, hQ⟩

/-- Sequencing: the second program starts where the first one ends. -/
theorem meets_bind {p : Awaits ω σ ε α} {f : α → Awaits ω σ ε β} {R : β → σ → Prop} (hp : (p s).Meets C Q E)
    (hf : ∀ a s', Q a s' → (f a s').Meets C R E) : ((p >>= f) s).Meets C R E := by
  change (Awaits.bind p f s).Meets C R E
  unfold Awaits.bind
  split
  · rename_i e h
    refine ⟨hp.trail, fun b hb => by simp at hb, fun e' he => ?_⟩
    obtain rfl : e = e' := Except.error.inj he
    exact hp.error e h
  · rename_i a h
    have hrest := hf a _ (hp.ok a h)
    refine ⟨fun x hx => ?_, hrest.ok, hrest.error⟩
    rcases List.mem_append.1 hx with hx | hx
    · exact hp.trail x hx
    · exact hrest.trail x hx

theorem meets_attempt {p : Awaits ω σ ε α} {R : Except ε α → σ → Prop} {E' : ε' → σ → Prop}
    (hp : (p s).Meets C (fun a => R (.ok a)) fun e => R (.error e)) :
    ((attempt p : Awaits ω σ ε' (Except ε α)) s).Meets C R E' := by
  refine ⟨hp.trail, fun r hr => ?_, fun e he => by simp [attempt] at he⟩
  obtain rfl : (p s).result = r := Except.ok.inj hr
  change R (p s).result (p s).state
  cases h : (p s).result with
  | ok a => exact hp.ok a h
  | error e => exact hp.error e h

theorem meets_mapError {p : Awaits ω σ ε α} {f : ε → ε'} {E' : ε' → σ → Prop}
    (hp : (p s).Meets C Q fun e => E' (f e)) : ((mapError f p) s).Meets C Q E' := by
  refine ⟨hp.trail, fun a ha => ?_, fun e he => ?_⟩
  · cases h : (p s).result with
    | ok b => exact hp.ok a (by simpa [mapError, h, Except.mapError] using ha)
    | error e => simp [mapError, h, Except.mapError] at ha
  · cases h : (p s).result with
    | ok b => simp [mapError, h, Except.mapError] at he
    | error e' =>
      obtain rfl : f e' = e := by simpa [mapError, h, Except.mapError] using he
      exact hp.error e' h

end Rules

/-! ## Loops -/

/-- How an iteration of a loop ends: with the next loop state, or out of the loop. -/
inductive Next (β γ : Type) where
  | again (b : β)
  | done (c : γ)

/-- The body of a loop, with the variant that makes it end. -/
structure Body (ω σ ε β γ : Type) where
  run : β → Awaits ω σ ε (Next β γ)
  measure : β → Nat
  decreasing : ∀ b s b', (run b s).result = .ok (.again b') → measure b' < measure b

def loop (body : Body ω σ ε β γ) (b : β) (s : σ) : Ended ω σ ε γ :=
  match _hnext : (body.run b s).result with
  | .error e => { trail := (body.run b s).trail, state := (body.run b s).state, result := .error e }
  | .ok (.done c) => { trail := (body.run b s).trail, state := (body.run b s).state, result := .ok c }
  | .ok (.again b') =>
    { trail := (body.run b s).trail ++ (loop body b' (body.run b s).state).trail
      state := (loop body b' (body.run b s).state).state
      result := (loop body b' (body.run b s).state).result }
termination_by body.measure b
decreasing_by all_goals exact body.decreasing b s b' _hnext

/-- The loop state and the state in which the last iteration starts. -/
def lastHead (body : Body ω σ ε β γ) (b : β) (s : σ) : β × σ :=
  match _hnext : (body.run b s).result with
  | .error _ | .ok (.done _) => (b, s)
  | .ok (.again b') => lastHead body b' (body.run b s).state
termination_by body.measure b
decreasing_by exact body.decreasing b s b' _hnext

section LoopRules

variable {body : Body ω σ ε β γ} {C : Awaited ω σ → Prop} {Q : γ → σ → Prop} {E : ε → σ → Prop}
  {I : β → σ → Prop}

/-- What an iteration promises when the loop goes on and when it leaves. -/
def Next.post (I : β → σ → Prop) (Q : γ → σ → Prop) : Next β γ → σ → Prop
  | .again b => I b
  | .done c => Q c

/-- An invariant of the iterations holds until the loop is left. -/
theorem meets_loop (hbody : ∀ b s, I b s → (body.run b s).Meets C (Next.post I Q) E) {b : β} {s : σ}
    (h : I b s) : (loop body b s).Meets C Q E := by
  fun_induction loop body b s with
  | case1 b s e he => exact ⟨(hbody b s h).trail, fun c hc => by simp at hc, fun e' he' => by
      obtain rfl : e = e' := Except.error.inj he'
      exact (hbody b s h).error e he⟩
  | case2 b s c hc => exact ⟨(hbody b s h).trail, fun c' hc' => by
      obtain rfl : c = c' := Except.ok.inj hc'
      exact (hbody b s h).ok _ hc, fun e he => by simp at he⟩
  | case3 b s b' hb' ih =>
    have hrest := ih ((hbody b s h).ok _ hb')
    refine ⟨fun x hx => ?_, hrest.ok, hrest.error⟩
    rcases List.mem_append.1 hx with hx | hx
    · exact (hbody b s h).trail x hx
    · exact hrest.trail x hx

/-- A loop ends where its last iteration does, and the invariant still held when that one started. -/
theorem loop_lastHead (hbody : ∀ b s b', I b s → (body.run b s).result = .ok (.again b') →
      I b' (body.run b s).state) {b : β} {s : σ} (h : I b s) :
    I (lastHead body b s).1 (lastHead body b s).2 ∧
      (loop body b s).state = (body.run (lastHead body b s).1 (lastHead body b s).2).state ∧
      ∀ b', (body.run (lastHead body b s).1 (lastHead body b s).2).result ≠ .ok (.again b') := by
  fun_induction lastHead body b s with
  | case1 b s e he => exact ⟨h, by rw [loop]; split <;> simp_all, fun b' hb' => by simp [he] at hb'⟩
  | case2 b s c hc => exact ⟨h, by rw [loop]; split <;> simp_all, fun b' hb' => by simp [hc] at hb'⟩
  | case3 b s b' hb' ih =>
    obtain ⟨hinv, hstate, hlast⟩ := ih (hbody b s b' h hb')
    refine ⟨hinv, ?_, hlast⟩
    rw [← hstate, loop]
    split <;> simp_all

end LoopRules

end Awaits

end IcttSentinel.Lib
