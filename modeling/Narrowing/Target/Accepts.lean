import Narrowing.Target.Display
import Narrowing.Target.Instance
import Narrowing.Violation

/-!
# Meeting a target

`Target.accepts` (`matches_type`) decides whether a value meets a target. It scans
alternatives from left to right and stops at the first that accepts or fails; it looks
through notes (`Annotated`); it asks the options of a `Literal` for likeness (`==`) and equal
species (`type`); and it puts the plain instance check (`isinstance`) to everything else. A
leaf on which that check is a type fault is reported as a contract violation that names the
leaf, by the written forms (`repr`) of the value and of the leaf.

Alternatives and options are scanned by `any` over a generator, so each of them is behind a
seal (`sealedCheck`).

* `Target.accepts`: the decision;
* `Target.acceptsSome`: the scan over alternatives;
* `Target.acceptsOption`: the scan over literal options.
-/

namespace Narrowing

namespace Target

variable {α κ : Type} [DecidableEq κ] (M : ObjectModel α κ)

/-- Whether a value is one of some literal options: alike, and of the same species. The
likeness is asked of the value, inside a lazily evaluated condition. -/
def acceptsOption (v : α) : List α → Except Fault Bool
  | [] => .ok false
  | o :: os => do
      let found ← sealedCheck do
        if ← M.truth (← M.equal v o) then return decide (M.speciesOf v = M.speciesOf o)
        else return false
      if found then return true else acceptsOption v os

/-- A leaf is checked by what stands behind it; a type fault becomes a violation. -/
def acceptsLeaf (v : α) (t : Target α κ) : Except Fault Bool :=
  match hasInstance M v t.underlying with
  | .ok b => .ok b
  | .error f =>
      if f.kind.isTypeError then do
        throw (Violation.uncheckable (← M.display v) (← display M t)).fault
      else .error f

mutual

/-- **Whether a value meets a target** (`matches_type`). -/
def accepts (v : α) : Target α κ → Except Fault Bool
  | any => .ok true
  | tuple _ ms | union _ ms => acceptsSome v ms
  | annotated base _ => accepts v base
  | literal os => acceptsOption M v os
  | t => acceptsLeaf M v t

/-- Alternatives from left to right, up to the first that accepts or fails. -/
def acceptsSome (v : α) : List (Target α κ) → Except Fault Bool
  | [] => .ok false
  | t :: ts => do if ← sealedCheck (accepts v t) then return true else acceptsSome v ts

end

end Target

end Narrowing
