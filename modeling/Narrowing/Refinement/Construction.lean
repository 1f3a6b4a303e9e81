import Narrowing.Refinement.Profile
import Narrowing.Settings

/-!
# Building refinements

* `Refinement.ofClassifier` (`create`): a classifier with a declared target, checked as the
  settings say at the time it is built;
* `Refinement.allOf` (`compose`), `Refinement.anyOf` (`either`), `Refinement.complement`
  (`not_`): combinations. A single stage is that stage itself; alternatives need at least
  two siblings;
* `Refinement.instanceOf` (`instance_of`), `Refinement.oneOf` (`one_of`), `Refinement.absent`
  (`is_none`): the ready-made refinements.

The argument `handle` becomes the handle of the refinement that is built.
-/

namespace Narrowing.Refinement

variable {ι α κ : Type} [DecidableEq κ] (M : ObjectModel α κ) (ofFunction : ι → Profile α)

/-- **A refinement from a classifier** (`create`). With the checks enabled the classifier is
written out whether or not it has a qualified name, and its title is the qualified
name where it has one. A classifier whose profile cannot be adopted is refused. -/
def ofClassifier (handle : Nat) (classifier : Refinement ι α κ) (settings : Settings α)
    (target : Option (Target α κ)) : Except Fault (Refinement ι α κ) := do
  let own ← classifier.profile M ofFunction
  let enabled ← settings.checksEnabled M
  if ← M.truth enabled then
    let shown ← own.shown
    let title := own.qualname.text?.getD shown
    let built := classified handle classifier (.on settings.strict) target title
    let _ ← built.profile M ofFunction
    return built
  else
    let built := classified handle classifier .off target ""
    let _ ← built.profile M ofFunction
    return built

/-- **All of some stages** (`compose`), of which there is at least one. -/
def allOf (handle : Nat) : List (Refinement ι α κ) → Except Fault (Refinement ι α κ)
  | [] => typeFault "compose() requires at least one refinement"
  | [stage] => .ok stage
  | stages => .ok (all handle stages)

/-- **Any of some siblings** (`either`), of which there are at least two. -/
def anyOf (handle : Nat) (siblings : List (Refinement ι α κ)) : Except Fault (Refinement ι α κ) :=
  if siblings.length < 2 then
    typeFault s!"either() requires at least two refinements, got {siblings.length}"
  else .ok (any handle siblings)

/-- **Instances of any of some targets** (`instance_of`), of which there is at least one. -/
def instanceOf (handle : Nat) (settings : Settings α) (targets : List (Target α κ)) :
    Except Fault (Refinement ι α κ) :=
  if targets.isEmpty then typeFault "instance_of() requires at least one class"
  else ofClassifier M ofFunction handle (readymade handle (.instances targets)) settings
    (some (.ofAlternatives targets))

/-- **Members of a list of values** (`one_of`), which is not empty. -/
def oneOf (handle : Nat) (settings : Settings α) (values : List α) :
    Except Fault (Refinement ι α κ) :=
  match values with
  | [] => typeFault "one_of() requires at least one value"
  | vs => ofClassifier M ofFunction handle (readymade handle (.values vs)) settings none

/-- **The empty value alone** (`is_none`). -/
def absent (handle : Nat) (settings : Settings α) : Except Fault (Refinement ι α κ) :=
  ofClassifier M ofFunction handle (readymade handle .absence) settings
    (some (.species M.noneSpecies))

end Narrowing.Refinement
