/-
Traversals that can fail: `mapM` in `Option` and in `Except` succeeds exactly if every element does, and then the
results stand where their elements stood.
-/
import Mathlib.Tactic

namespace IcttSentinel.Lib

variable {α β κ ε : Type} {l : List α}

/-! ## Lists that correspond -/

section Forall₂

variable {R : α → β → Prop} {m : List β}

theorem mem_of_forall₂ (h : List.Forall₂ R l m) : ∀ b ∈ m, ∃ a ∈ l, R a b := by
  induction h with
  | nil => exact fun b hb => absurd hb List.not_mem_nil
  | @cons a b l m hab _ ih =>
    intro x hx
    rcases List.mem_cons.1 hx with rfl | hx
    · exact ⟨a, List.mem_cons_self, hab⟩
    · obtain ⟨y, hy, hyx⟩ := ih x hx
      exact ⟨y, List.mem_cons_of_mem _ hy, hyx⟩

theorem exists_row_of_forall₂ (h : List.Forall₂ R l m) {a : α} (ha : a ∈ l) : ∃ b ∈ m, R a b := by
  obtain ⟨b, hb, hab⟩ := mem_of_forall₂ h.flip a ha
  exact ⟨b, hb, hab⟩

theorem keys_of_forall₂ {name : α → κ} {P : α → κ × β → Prop} {rows : List (κ × β)}
    (h : List.Forall₂ (fun a row => row.1 = name a ∧ P a row) l rows) : rows.map Prod.fst = l.map name := by
  induction h with
  | nil => rfl
  | cons hrow _ ih => rw [List.map_cons, List.map_cons, hrow.1, ih]

theorem exists_forall₂ (h : ∀ a ∈ l, ∃ b, R a b) : ∃ m, List.Forall₂ R l m := by
  induction l with
  | nil => exact ⟨[], .nil⟩
  | cons a l ih =>
    obtain ⟨b, hb⟩ := h a List.mem_cons_self
    obtain ⟨m, hm⟩ := ih fun x hx => h x (List.mem_cons_of_mem _ hx)
    exact ⟨b :: m, .cons hb hm⟩

end Forall₂

/-! ## Options -/

theorem mapM_eq_some {f : α → Option β} {bs : List β} :
    l.mapM f = some bs ↔ List.Forall₂ (fun a b => f a = some b) l bs := by
  induction l generalizing bs with
  | nil => cases bs <;> simp
  | cons a l ih =>
    cases hfirst : f a with
    | none => cases bs <;> simp [List.mapM_cons, hfirst]
    | some b =>
      cases hrest : l.mapM f with
      | none =>
        have hnone : ∀ bs, ¬List.Forall₂ (fun a b => f a = some b) l bs := fun bs h => by simp [ih.2 h] at hrest
        cases bs <;> simp [List.mapM_cons, hfirst, hrest, hnone]
      | some rest =>
        have hsome : ∀ bs, List.Forall₂ (fun a b => f a = some b) l bs ↔ rest = bs := fun bs => by
          rw [← ih, hrest, Option.some.injEq]
        cases bs <;> simp [List.mapM_cons, hfirst, hrest, hsome]

/-! ## Results -/

theorem bind_eq_ok {x : Except ε α} {f : α → Except ε β} {b : β} : x >>= f = .ok b ↔ ∃ a, x = .ok a ∧ f a = .ok b := by
  cases x <;> simp [bind, Except.bind]

section Except

variable {f g : α → Except ε β} {bs : List β}

theorem mapM_eq_ok : l.mapM f = .ok bs ↔ List.Forall₂ (fun a b => f a = .ok b) l bs := by
  induction l generalizing bs with
  | nil => cases bs <;> simp [pure, Except.pure]
  | cons a l ih =>
    cases hfirst : f a with
    | error e => cases bs <;> simp [List.mapM_cons, hfirst, bind, Except.bind]
    | ok b =>
      cases hrest : l.mapM f with
      | error e =>
        have herror : ∀ bs, ¬List.Forall₂ (fun a b => f a = .ok b) l bs := fun bs h => by simp [ih.2 h] at hrest
        cases bs <;> simp [List.mapM_cons, hfirst, hrest, herror, bind, Except.bind]
      | ok rest =>
        have hok : ∀ bs, List.Forall₂ (fun a b => f a = .ok b) l bs ↔ rest = bs := fun bs => by
          rw [← ih, hrest, Except.ok.injEq]
        cases bs <;> simp [List.mapM_cons, hfirst, hrest, hok, bind, Except.bind, pure, Except.pure]

theorem mem_mapM_ok (h : l.mapM f = .ok bs) {b : β} (hb : b ∈ bs) : ∃ a ∈ l, f a = .ok b :=
  mem_of_forall₂ (mapM_eq_ok.1 h) b hb

theorem mapM_ok_mem (h : l.mapM f = .ok bs) {a : α} (ha : a ∈ l) : ∃ b ∈ bs, f a = .ok b :=
  exists_row_of_forall₂ (mapM_eq_ok.1 h) ha

theorem exists_mapM_ok (h : ∀ a ∈ l, ∃ b, f a = .ok b) : ∃ bs, l.mapM f = .ok bs := by
  obtain ⟨bs, hbs⟩ := exists_forall₂ h
  exact ⟨bs, mapM_eq_ok.2 hbs⟩

theorem mapM_of_imp (h : ∀ a b, f a = .ok b → g a = .ok b) (hf : l.mapM f = .ok bs) : l.mapM g = .ok bs :=
  mapM_eq_ok.2 ((mapM_eq_ok.1 hf).imp h)

theorem mapM_map {φ : β → β} (h : ∀ a, g a = φ <$> f a) (l : List α) : l.mapM g = List.map φ <$> l.mapM f := by
  induction l with
  | nil => rfl
  | cons a l ih =>
    rw [List.mapM_cons, List.mapM_cons, h a, ih]
    simp only [map_bind, map_pure, bind_map_left, List.map_cons]

end Except

/-- A run of steps that each add to a count, and keep it in bounds, adds their sum and keeps it in bounds. -/
theorem count_foldlM {σ : Type} (count : σ → Nat) (cost : α → Nat) (bound : Nat) {step : σ → α → Except ε σ}
    (hstep : ∀ s a s', count s ≤ bound → step s a = .ok s' → count s' = count s + cost a ∧ count s' ≤ bound) {s s' : σ}
    (hs : count s ≤ bound) (h : l.foldlM step s = .ok s') : count s' = count s + (l.map cost).sum ∧ count s' ≤ bound := by
  induction l generalizing s with
  | nil =>
    cases h
    exact ⟨rfl, hs⟩
  | cons a l ih =>
    rw [List.foldlM_cons] at h
    obtain ⟨s₁, hfirst, h⟩ := bind_eq_ok.1 h
    obtain ⟨hcost, hbound⟩ := hstep s a s₁ hs hfirst
    obtain ⟨hsum, hlast⟩ := ih hbound h
    refine ⟨?_, hlast⟩
    rw [hsum, hcost, List.map_cons, List.sum_cons, Nat.add_assoc]

end IcttSentinel.Lib
