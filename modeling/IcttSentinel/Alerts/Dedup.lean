/-
Alert identity of packages/alerts/src/dedup.ts: the keys an alert and its incident are stored
under, and the two predicates on a verdict change that the lifecycle is driven by.
-/
import IcttSentinel.Domain.Verdict

namespace IcttSentinel.Alerts

open IcttSentinel.Domain

/-- `AlertIdentity`. The `from` verdict is `'NONE'` (here `none`) before the first evaluation. -/
structure AlertIdentity where
  deploymentId : String
  ruleId : String
  reasonCode : String
  fromVerdict : Option Verdict
  toVerdict : Verdict
  evidenceDigest : String
  deriving DecidableEq, Repr

def domain : String := "ictt-sentinel/alert/v1"

/-- The text of a `Verdict | 'NONE'`. -/
def priorText : Option Verdict → String
  | none => "NONE"
  | some v => v.text

section Keys

-- `createHash('sha256')` over the concatenated updates, in hex
variable (sha256 : String → String)

def dedupKey (id : AlertIdentity) : String :=
  sha256 (domain ++ "\n" ++ "|".intercalate
    [id.deploymentId, id.ruleId, id.reasonCode,
      priorText id.fromVerdict ++ "->" ++ id.toVerdict.text, id.evidenceDigest])

/-- `incidentKey`: coarser than the dedup key, it groups the notifications of one incident. -/
def incidentKey (id : AlertIdentity) : String :=
  sha256 (domain ++ "/incident" ++ "\n" ++ "|".intercalate [id.deploymentId, id.ruleId, id.reasonCode])

end Keys

def severity : Option Verdict → Int
  | none => -1
  | some v => v.rank

@[simp] theorem severity_none : severity none = -1 := rfl

@[simp] theorem severity_some (v : Verdict) : severity (some v) = v.rank := rfl

def isEscalation (fromVerdict : Option Verdict) (toVerdict : Verdict) : Bool :=
  severity (some toVerdict) > severity fromVerdict

def isRecovery (fromVerdict : Option Verdict) (toVerdict : Verdict) : Bool :=
  fromVerdict ≠ none && severity (some toVerdict) < severity fromVerdict && toVerdict = .ok

theorem isEscalation_some {v w : Verdict} : isEscalation (some v) w = true ↔ v.rank < w.rank := by
  simp [isEscalation]

theorem isRecovery_some {v w : Verdict} : isRecovery (some v) w = true ↔ v ≠ .ok ∧ w = .ok := by
  cases v <;> cases w <;> decide

/-- A change for the worse never ends at OK, so it is never a recovery. -/
theorem isRecovery_of_isEscalation {v w : Verdict} (h : isEscalation (some v) w = true) :
    isRecovery (some v) w = false := by
  cases v <;> cases w <;> first | rfl | cases h

end IcttSentinel.Alerts
