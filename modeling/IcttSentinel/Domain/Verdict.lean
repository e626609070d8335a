/-
The verdict lattice of packages/domain/src/verdict.ts: four verdicts ordered
`CRITICAL > UNKNOWN > WARN > OK`. Every other package reports in these words.
-/
import Mathlib.Tactic

namespace IcttSentinel.Domain

inductive Verdict where
  | ok
  | warn
  | unknown
  | critical
  deriving DecidableEq, Repr

/-- The text of a verdict, as the source spells it in its string unions. -/
def Verdict.text : Verdict → String
  | .ok => "OK"
  | .warn => "WARN"
  | .unknown => "UNKNOWN"
  | .critical => "CRITICAL"

theorem Verdict.text_eq_ok {v : Verdict} : v.text = "OK" ↔ v = .ok := by
  cases v <;> decide

/-- `RANK`: higher wins when judgements are combined. -/
def Verdict.rank : Verdict → Nat
  | .ok => 0
  | .warn => 1
  | .unknown => 2
  | .critical => 3

end IcttSentinel.Domain
