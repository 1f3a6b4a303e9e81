import Narrowing.Session
import Narrowing.Target.Accepts

/-!
# The contract of a classifier

A classifier answers a candidate with an outcome. `Contract.check` (`validate_result`)
examines one outcome: a miss is always in order; anything else must be a hit, carry the
very candidate it was given, and meet the declared target if there is one. The first
requirement that fails is the one reported.

`Contract.enforce` runs a classifier and turns its outcome into a verdict: it is the
function that `create` gives back, `refine` without checks and `checked` with them. How far
the contract matters is a `Checking`: not at all, or with a violation reported as a
warning (`warnings.warn`), or as a fault.
-/

namespace Narrowing

namespace Contract

variable {α κ σ : Type} [DecidableEq α] [DecidableEq κ] (M : ObjectModel α κ)

/-- **One outcome examined** (`validate_result`). The texts of a violation are written down before it is
raised, so an object that cannot be written ends the check in a fault of its own. -/
def check (outcome candidate : α) (target : Option (Target α κ)) : Except Fault Unit := do
  if M.isMiss outcome then return ()
  if !M.isHit outcome then
    throw (Violation.notAnOutcome (← M.display outcome)).fault
  let payload ← M.payload outcome
  if payload ≠ candidate then
    throw (Violation.notTheCandidate (← M.display payload) (← M.display candidate)).fault
  match target with
  | none => return ()
  | some t =>
      if ← t.accepts M payload then return ()
      throw (Violation.offTarget (← M.display payload) (← t.label M)).fault

/-- How outcomes are checked. The object kept in `on` decides, by its truth, whether a
violation is a fault. -/
inductive Checking (α : Type) where
  | off
  | on (strict : α)
deriving DecidableEq, Repr

/-- The warning about a violation by the classifier of this title. -/
def warning (title : String) (text : String) : String := s!"Contract violation in {title}: {text}"

/-- A failed check: a broken contract is a fault or a warning, as `strict` says, and
any other fault passes. -/
def report (strict : α) (title : String) (f : Fault) : Eval σ α Unit := do
  if f.kind = .contract then
    if ← Eval.ofExcept (M.truth strict) then throw f else Eval.warn (warning title f.text)
  else throw f

/-- The outcome of a classifier checked as asked. -/
def review (checking : Checking α) (target : Option (Target α κ)) (title : String)
    (outcome candidate : α) : Eval σ α Unit :=
  match checking with
  | .off => pure ()
  | .on strict =>
      match check M outcome candidate target with
      | .ok () => pure ()
      | .error f => report M strict title f

/-- **The verdict of a classifier**: whether its outcome counts as a hit (`isinstance` of `Hit`), after the
outcome has been checked. -/
def enforce (checking : Checking α) (target : Option (Target α κ)) (title : String)
    (classify : α → Eval σ α α) (candidate : α) : Eval σ α α := do
  let outcome ← classify candidate
  review M checking target title outcome candidate
  return M.ofBool (M.isHit outcome)

end Contract

end Narrowing
