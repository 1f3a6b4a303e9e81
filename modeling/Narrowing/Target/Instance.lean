import Narrowing.Target

/-!
# Plain instance checks

The plain question whether an object is an instance of a target (`isinstance`). A form that does not
allow the question answers with a type fault that says why. A form written out in full
asks about the object's species; a tuple asks about the object itself, member by member,
and stops at the first yes.

* `Target.hasInstance`: the question about an object;
* `Target.hasSubspecies`: the same question about a species (`issubclass`).
-/

namespace Narrowing

/-- The question can be about an object or about a species. -/
inductive Question where
  | aboutObject
  | aboutSpecies
deriving DecidableEq, Repr

namespace Question

/-- The name of the question. -/
def name : Question → String
  | aboutObject => "isinstance"
  | aboutSpecies => "issubclass"

/-- The refusal of something that is no species at all. -/
def notASpecies : Question → String
  | aboutObject => "isinstance() arg 2 must be a type, a tuple of types, or a union"
  | aboutSpecies => "issubclass() arg 2 must be a class, a tuple of classes, or a union"

/-- The refusal of a built-in species that has been given arguments. -/
def builtinSubscript (q : Question) : String :=
  s!"{q.name}() argument 2 cannot be a parameterized generic"

/-- The refusal of any other form that has been given arguments. -/
def subscript (_ : Question) : String :=
  "Subscripted generics cannot be used with class and instance checks"

/-- The refusal of a special form. -/
def specialForm (q : Question) (form : String) : String :=
  s!"typing.{form} cannot be used with {q.name}()"

/-- The refusal of an uncheckable form. -/
def refusal (q : Question) : Uncheckable → String
  | .parameter .. | .newtype .. | .forward _ => q.notASpecies
  | .never => q.specialForm "Never"
  | .qualifier r => q.specialForm r.name

end Question

namespace Target

variable {α κ : Type} (M : ObjectModel α κ)

mutual

/-- Whether every object of species `s` is an instance of a target. -/
def hasSubspecies (s : κ) : Target α κ → Except Fault Bool
  | any => .ok false
  | species c | bare _ c => M.descends s c
  | object _ | list _ => typeFault Question.aboutSpecies.notASpecies
  | tuple _ ms | union _ ms => hasSubspeciesSome s ms
  | subscripted head _ =>
      typeFault (if head.isBuiltin then Question.aboutSpecies.builtinSubscript
        else Question.aboutSpecies.subscript)
  | literal _ | annotated _ _ => typeFault Question.aboutSpecies.subscript
  | uncheckable u => typeFault (Question.aboutSpecies.refusal u)

/-- The question put to targets from left to right, up to the first yes. -/
def hasSubspeciesSome (s : κ) : List (Target α κ) → Except Fault Bool
  | [] => .ok false
  | t :: ts => do if ← hasSubspecies s t then return true else hasSubspeciesSome s ts

end

/-- Whether a target is a built-in species with arguments. -/
def isBuiltinSubscript : Target α κ → Bool
  | subscripted head _ => head.isBuiltin
  | _ => false

mutual

/-- **The plain instance check.** -/
def hasInstance (v : α) : Target α κ → Except Fault Bool
  | any => typeFault (Question.aboutObject.specialForm "Any")
  | species c => M.belongs v c
  | bare _ c => M.descends (M.speciesOf v) c
  | object _ | list _ => typeFault Question.aboutObject.notASpecies
  | tuple _ ms => hasInstanceSome v ms
  | union .spelled ms => hasSubspeciesSome M (M.speciesOf v) ms
  | union .piped ms =>
      if ms.any isBuiltinSubscript then
        typeFault Question.aboutObject.builtinSubscript
      else hasInstanceSome v ms
  | subscripted head _ =>
      typeFault (if head.isBuiltin then Question.aboutObject.builtinSubscript
        else Question.aboutObject.subscript)
  | literal _ | annotated _ _ => typeFault Question.aboutObject.subscript
  | uncheckable u => typeFault (Question.aboutObject.refusal u)

/-- The question put to targets from left to right, up to the first yes. -/
def hasInstanceSome (v : α) : List (Target α κ) → Except Fault Bool
  | [] => .ok false
  | t :: ts => do if ← hasInstance v t then return true else hasInstanceSome v ts

end

end Target

end Narrowing
