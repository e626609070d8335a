/-
What losing a witness does to a quorum. The lag of a witness is measured against the leading admissible
head, and failure domains are formed among the counted witnesses only, so the loss of one witness can
readmit others, and can separate two that it linked. Where it does neither, it creates no quorum.
-/
import IcttSentinel.RpcQuorum.Soundness

namespace IcttSentinel.RpcQuorum

open IcttSentinel.Lib

section Loss

variable {κ : Type} [LinearOrder κ] {toLowerCase : String → String} {collationKey : String → κ}
  {expected : ExpectedIdentity} {policy : QuorumPolicy} {nowMs : Int} {observations observations' : List WitnessObservation}

variable (toLowerCase expected policy nowMs) in
/-- The second list holds the observations of the first one, some of them made inadmissible: identity
refused, stale, lagging or without a hash. -/
def Lost (observations observations' : List WitnessObservation) : Prop :=
  List.Forall₂ (fun o o' => o' = o ∨ o' ∉ countedOf toLowerCase expected policy nowMs observations')
    observations observations'

/-- Whoever counts after a loss was observed before. -/
theorem Lost.mem (h : Lost toLowerCase expected policy nowMs observations observations') {o : WitnessObservation}
    (ho : o ∈ countedOf toLowerCase expected policy nowMs observations') : o ∈ observations := by
  have hobserved := (mem_countedOf.1 ho).1
  obtain ⟨before, hbefore, hkept⟩ : ∃ before ∈ observations,
      o = before ∨ o ∉ countedOf toLowerCase expected policy nowMs observations' := by
    obtain ⟨i, hi, rfl⟩ := List.mem_iff_getElem.1 hobserved
    have hlength := h.length_eq
    exact ⟨observations[i], List.getElem_mem _, h.get (hlength ▸ hi) hi⟩
  rcases hkept with rfl | hnot
  · exact hbefore
  · exact absurd ho hnot

/-- Fewer counted witnesses fall into no more failure domains, if none of them was linked to another
through a lost one only. -/
theorem length_independentWitnesses_le {counted counted' : List WitnessObservation} (hsub : ∀ o ∈ counted', o ∈ counted)
    (hlinked : ∀ a ∈ counted', ∀ b ∈ counted', Connected (Linked claimOf) counted a b →
      Connected (Linked claimOf) counted' a b) :
    (independentWitnesses collationKey counted').length ≤ (independentWitnesses collationKey counted).length := by
  have hbefore : Components (Linked claimOf) counted (domainsOf collationKey counted) := domainsOf_components
  have hafter : Components (Linked claimOf) counted' (domainsOf collationKey counted') := domainsOf_components
  rw [length_independentWitnesses, length_independentWitnesses]
  exact Components.length_le (Linked.symm claimOf) (Linked.refl claimOf) hbefore hafter hsub hlinked

/-- Losing witnesses creates no quorum, as long as it readmits no lagging one and separates no two that a
lost one linked. -/
theorem loss_never_agrees (hloss : Lost toLowerCase expected policy nowMs observations observations')
    (hreadmitted : ∀ o ∈ observations, o ∈ countedOf toLowerCase expected policy nowMs observations' →
      o ∈ countedOf toLowerCase expected policy nowMs observations)
    (hlinked : ∀ a ∈ countedOf toLowerCase expected policy nowMs observations',
      ∀ b ∈ countedOf toLowerCase expected policy nowMs observations',
        Connected (Linked claimOf) (countedOf toLowerCase expected policy nowMs observations) a b →
          Connected (Linked claimOf) (countedOf toLowerCase expected policy nowMs observations') a b)
    (hinsufficient :
      (evaluateQuorum toLowerCase collationKey observations expected policy nowMs).outcome = .insufficientWitnesses) :
    (evaluateQuorum toLowerCase collationKey observations' expected policy nowMs).outcome ≠ .agreed := by
  intro hagreed
  obtain ⟨_, _, -, hne, -, henough, -⟩ := evaluateQuorum_agreed hagreed
  have hsub : ∀ o ∈ countedOf toLowerCase expected policy nowMs observations',
      o ∈ countedOf toLowerCase expected policy nowMs observations :=
    fun o ho => hreadmitted o (hloss.mem ho) ho
  rcases evaluateQuorum_insufficient hinsufficient with hnil | hshort
  · obtain ⟨o, ho⟩ := List.exists_mem_of_ne_nil _ hne
    have hcounted := hsub o ho
    rw [hnil] at hcounted
    cases hcounted
  · have hfewer : (independentWitnesses collationKey (countedOf toLowerCase expected policy nowMs observations')).length ≤
        (independentWitnesses collationKey (countedOf toLowerCase expected policy nowMs observations)).length :=
      length_independentWitnesses_le hsub hlinked
    omega

end Loss

/-! ### Losses on fixed observations -/

section Samples

/-- An endpoint that stopped answering. -/
def silent (o : WitnessObservation) : WitnessObservation := { o with blockchainId := none }

/-- Two endpoints of one trust domain stay one failure domain when a third, behind the provider of one of them, falls
silent. -/
theorem loss_never_agrees_sample :
    (sampleQuorum [sampleWitness "e1" "a" "x" 900, sampleWitness "e2" "a" "y" 900,
      silent (sampleWitness "e3" "b" "y" 900)]).outcome ≠ .agreed := by
  let e1 := sampleWitness "e1" "a" "x" 900
  let e2 := sampleWitness "e2" "a" "y" 900
  let e3 := sampleWitness "e3" "b" "y" 900
  have hcounted : countedOf id sampleIdentity samplePolicy 0 [e1, e2, silent e3] = [e1, e2] := by decide +kernel
  have hloss : Lost id sampleIdentity samplePolicy 0 [e1, e2, e3] [e1, e2, silent e3] := by
    refine .cons (Or.inl rfl) (.cons (Or.inl rfl) (.cons (Or.inr ?_) .nil))
    rw [hcounted]
    decide +kernel
  have hinsufficient :
      (evaluateQuorum id codeUnits [e1, e2, e3] sampleIdentity samplePolicy 0).outcome = .insufficientWitnesses := by
    decide +kernel
  -- the trust domain alone links the two that are left
  have hlinked : ∀ a ∈ [e1, e2], ∀ b ∈ [e1, e2], Linked claimOf a b := by
    intro a ha b hb
    rcases List.mem_pair.1 ha with rfl | rfl <;> rcases List.mem_pair.1 hb with rfl | rfl <;> exact Or.inl rfl
  apply loss_never_agrees hloss
  · rw [hcounted]
    decide +kernel
  · rw [hcounted]
    exact fun a ha b hb _ => .of_linked ha hb (hlinked a ha b hb)
  · exact hinsufficient

/-- A leading endpoint that falls silent readmits two that lagged behind it, and an endpoint that shares a
trust domain with one witness and a provider group with another leaves them as two failure domains. -/
theorem loss_creates_quorum :
    let e1 := sampleWitness "e1" "a" "x" 900
    let e2 := sampleWitness "e2" "b" "y" 900
    let leader := sampleWitness "e3" "c" "z" 1000
    let link := sampleWitness "e3" "a" "y" 900
    (Lost id sampleIdentity samplePolicy 0 [e1, e2, leader] [e1, e2, silent leader] ∧
      (sampleQuorum [e1, e2, leader]).outcome = .insufficientWitnesses ∧
      (sampleQuorum [e1, e2, silent leader]).outcome = .agreed) ∧
    (Lost id sampleIdentity samplePolicy 0 [e1, e2, link] [e1, e2, silent link] ∧
      (sampleQuorum [e1, e2, link]).outcome = .insufficientWitnesses ∧
      (sampleQuorum [e1, e2, silent link]).outcome = .agreed) := by
  intro e1 e2 leader link
  have hleader : countedOf id sampleIdentity samplePolicy 0 [e1, e2, silent leader] = [e1, e2] := by decide +kernel
  have hlink : countedOf id sampleIdentity samplePolicy 0 [e1, e2, silent link] = [e1, e2] := by decide +kernel
  refine ⟨⟨?_, by decide +kernel, by decide +kernel⟩, ?_, by decide +kernel, by decide +kernel⟩
  · refine .cons (Or.inl rfl) (.cons (Or.inl rfl) (.cons (Or.inr ?_) .nil))
    rw [hleader]
    decide +kernel
  · refine .cons (Or.inl rfl) (.cons (Or.inl rfl) (.cons (Or.inr ?_) .nil))
    rw [hlink]
    decide +kernel

end Samples

end IcttSentinel.RpcQuorum
