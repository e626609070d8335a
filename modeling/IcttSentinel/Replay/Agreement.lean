/-
Witness agreement over one range, packages/replay/src/agreement.ts. Quorum is counted over distinct
provider groups, a diverging digest blocks the range, and an archive witness counts only where the
policy declares one.
-/
import IcttSentinel.Replay.Range

namespace IcttSentinel.Replay

open IcttSentinel.Lib IcttSentinel.Storage

structure AgreementPolicy where
  requiredIndependentGroups : Nat
  archiveFallbackDeclared : Bool
  deriving DecidableEq, Repr

inductive Agreement where
  | agreed (digest : String) (witnesses : List RangeResult)
  | blocked (reason : ReplayReason) (byDigest : List (String × List String))
  deriving DecidableEq, Repr

/-- The provider groups of the results. -/
def independentGroups (results : List RangeResult) : List String := (results.map (·.providerGroup)).eraseDups

def agree (results : List RangeResult) (policy : AgreementPolicy) : Agreement :=
  let byDigest := (groupBy (·.digest) results).rows.map fun (digest, group) => (digest, group.map (·.providerGroup))
  let usedUndeclaredArchive := results.any (·.viaArchive) && !policy.archiveFallbackDeclared
  let independent := independentGroups results
  if usedUndeclaredArchive then .blocked .archiveFallbackUnavailable byDigest
  else if byDigest.length > 1 then .blocked .providerDivergence byDigest
  else if independent.length < policy.requiredIndependentGroups then .blocked .insufficientWitnesses byDigest
  else match byDigest.head? with
    | none => .blocked .insufficientWitnesses byDigest
    | some (digest, _) =>
      .agreed digest ((sortStrings independent).filterMap fun g => results.find? fun r => r.providerGroup = g)

structure WitnessProvenance where
  digest : String
  providerGroups : List String
  requiredIndependentGroups : Nat
  startBlockHash : String
  endBlockHash : String
  deriving DecidableEq, Repr

/-- The provenance of an agreed range; `none` is the thrown error of an agreement without witness. -/
def provenanceOf (digest : String) (witnesses : List RangeResult) (policy : AgreementPolicy) :
    Option WitnessProvenance :=
  witnesses.head?.map fun first =>
    { digest
      providerGroups := witnesses.map (·.providerGroup)
      requiredIndependentGroups := policy.requiredIndependentGroups
      startBlockHash := first.startBlockHash
      endBlockHash := first.endBlockHash }

/-! ## What agreement means -/

theorem mem_independentGroups {results : List RangeResult} {g : String} :
    g ∈ independentGroups results ↔ ∃ r ∈ results, r.providerGroup = g := by
  simp [independentGroups, List.mem_eraseDups]

/-- A map with one key at most gives every value that key. -/
theorem digest_unique {results : List RangeResult} (h : ¬ (groupBy (·.digest) results).rows.length > 1)
    {r s : RangeResult} (hr : r ∈ results) (hs : s ∈ results) : r.digest = s.digest := by
  have hkey : ∀ x ∈ results, ∃ row ∈ (groupBy (·.digest) results).rows, row.1 = x.digest := fun x hx =>
    Keyed.has_iff.1 (has_groupBy.2 (List.mem_map.2 ⟨x, hx, rfl⟩))
  obtain ⟨a, ha, har⟩ := hkey r hr
  obtain ⟨b, hb, hbs⟩ := hkey s hs
  have hsingle : a = b := by
    match hrows : (groupBy (·.digest) results).rows with
    | [] => rw [hrows] at ha; simp at ha
    | [x] =>
      rw [hrows, List.mem_singleton] at ha hb
      rw [ha, hb]
    | x :: y :: rest => rw [hrows] at h; simp at h
  rw [← har, ← hbs, hsingle]

/-- An agreement was reached without undeclared archive, over one digest, by enough groups; its witnesses are
some of the results, and there is one. -/
theorem agree_agreed {results : List RangeResult} {policy : AgreementPolicy} {digest : String}
    {witnesses : List RangeResult} (h : agree results policy = .agreed digest witnesses) :
    (∀ r ∈ results, r.viaArchive = true → policy.archiveFallbackDeclared = true) ∧
      (∀ r ∈ results, r.digest = digest) ∧
      policy.requiredIndependentGroups ≤ (independentGroups results).length ∧
      (∀ w ∈ witnesses, w ∈ results) ∧ witnesses ≠ [] := by
  unfold agree at h
  dsimp only at h
  split at h
  · cases h
  · rename_i harchive
    split at h
    · cases h
    · rename_i hone
      rw [List.length_map] at hone
      split at h
      · cases h
      · rename_i henough
        split at h
        · cases h
        · rename_i d groups hhead
          cases h
          -- the reported digest is the key of a group, so a result has it
          have hsome : ∃ r ∈ results, r.digest = digest := by
            rw [List.head?_map, Option.map_eq_some_iff] at hhead
            obtain ⟨row, hrow, heq⟩ := hhead
            have hmem : (groupBy (·.digest) results).has row.1 = true :=
              Keyed.has_iff.2 ⟨row, List.mem_of_mem_head? hrow, rfl⟩
            obtain ⟨r, hr, hd⟩ := List.mem_map.1 (has_groupBy.1 hmem)
            exact ⟨r, hr, hd.trans (congrArg Prod.fst heq)⟩
          obtain ⟨r₀, hr₀, hd₀⟩ := hsome
          refine ⟨fun r hr hvia => ?_, fun r hr => ?_, by omega, fun w hw => ?_, ?_⟩
          · by_contra hdeclared
            refine harchive ?_
            rw [Bool.and_eq_true, List.any_eq_true]
            exact ⟨⟨r, hr, hvia⟩, by simpa using hdeclared⟩
          · rw [digest_unique hone hr hr₀, hd₀]
          · obtain ⟨g, -, hg⟩ := List.mem_filterMap.1 hw
            exact List.mem_of_find?_eq_some hg
          · -- the group of the first result finds a witness
            have hg : r₀.providerGroup ∈ sortStrings (independentGroups results) :=
              mem_sortStrings.2 (mem_independentGroups.2 ⟨r₀, hr₀, rfl⟩)
            obtain ⟨w, hw⟩ : ∃ w, results.find? (fun r => r.providerGroup = r₀.providerGroup) = some w := by
              rw [← Option.isSome_iff_exists, List.find?_isSome]
              exact ⟨r₀, hr₀, by simp⟩
            exact List.ne_nil_of_mem (List.mem_filterMap.2 ⟨_, hg, hw⟩)

/-- Over one digest nothing but an undeclared archive or too few groups stands against an agreement. -/
theorem agree_of_one_digest {results : List RangeResult} (policy : AgreementPolicy) {digest : String} (hne : results ≠ [])
    (hdigest : ∀ r ∈ results, r.digest = digest) :
    (∃ d witnesses, agree results policy = .agreed d witnesses) ↔
      ((∃ r ∈ results, r.viaArchive = true) → policy.archiveFallbackDeclared = true) ∧
        policy.requiredIndependentGroups ≤ (independentGroups results).length := by
  constructor
  · rintro ⟨d, witnesses, hagree⟩
    obtain ⟨harchive, -, henough, -⟩ := agree_agreed hagree
    exact ⟨fun ⟨r, hr, hvia⟩ => harchive r hr hvia, henough⟩
  · rintro ⟨harchive, henough⟩
    have hdeclared : ¬ (results.any (·.viaArchive) && !policy.archiveFallbackDeclared) = true := by
      rw [Bool.and_eq_true, List.any_eq_true]
      rintro ⟨hvia, hnot⟩
      rw [harchive hvia] at hnot
      cases hnot
    unfold agree
    dsimp only
    rw [rows_groupBy_of_const hne hdigest, if_neg hdeclared, if_neg (by simp), if_neg (Nat.not_lt.2 henough)]
    exact ⟨_, _, rfl⟩

end IcttSentinel.Replay
