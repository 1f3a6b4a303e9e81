import Narrowing.Fault

/-!
# Contract violations

A classifier keeps its contract when it answers with a miss, or with a hit that
carries the candidate itself and meets the declared target. Each way to break it
is a `Violation`, and `Violation.fault` is how it is reported (`ClassifierContractError`). The
parts of a violation are the written forms (`repr`) of the objects involved.
-/

namespace Narrowing

/-- The ways in which a contract can fail. -/
inductive Violation where
  /-- The outcome is neither a hit nor a miss. -/
  | notAnOutcome (outcome : String)
  /-- The hit carries something other than the candidate. -/
  | notTheCandidate (payload candidate : String)
  /-- The payload does not meet the target. -/
  | offTarget (payload target : String)
  /-- The target is one that nothing can be checked against. -/
  | uncheckable (value target : String)
deriving DecidableEq, Repr

namespace Violation

/-- The text of a violation. -/
def message : Violation → String
  | notAnOutcome r => s!"Classifier must return hit(...) or miss, got {r}"
  | notTheCandidate p c => s!"Hit must carry the candidate itself, got {p} for {c}"
  | offTarget p t => s!"Hit payload {p} is not a {t}"
  | uncheckable v t => s!"Cannot check {v} against {t} at runtime"

/-- A violation as a fault. -/
def fault (v : Violation) : Fault := ⟨.contract, v.message⟩

end Violation

end Narrowing
