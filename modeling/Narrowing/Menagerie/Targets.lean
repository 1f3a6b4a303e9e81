import Narrowing.Menagerie.Model
import Narrowing.Target.Operators

/-!
# Targets over the menagerie

* `namedTarget?`: the target that a name stands for;
* `Species.arity`: what the species make of arguments;
* `Value.asTarget`: an object in the place of a target;
* `Value.ofTarget?`: a target in the place of an object.
-/

namespace Narrowing.Menagerie

namespace Species

/-- **What a species makes of arguments.** -/
def arity : Species → Arity
  | list | tuple | dict | sort | pair | movie | sequence | mapping => .free
  | box | hit => .exactly 1
  | meows | canMeow | hasId => .undeclared
  | callable => .signature
  | color | level => .members
  | _ => .refused

end Species

/-- The targets that are named but are not species. -/
def specialTargets : List (String × Target Value Species) :=
  [("Any", .any),
    ("P", .uncheckable (.parameter "P" false)),
    ("P_co", .uncheckable (.parameter "P_co" true)),
    ("UserId", .uncheckable (.newtype "zoo.UserId" "UserId")),
    ("Never", .uncheckable .never),
    ("ClassVar", .uncheckable (.qualifier .classVar)),
    ("Final", .uncheckable (.qualifier .final)),
    ("List", .bare "List" .list),
    ("Dict", .bare "Dict" .dict),
    ("Tuple", .bare "Tuple" .tuple),
    ("Type", .bare "Type" .sort),
    ("Callable", .bare "Callable" .callable)]

/-- **The target that a name stands for.** -/
def namedTarget? (name : String) : Option (Target Value Species) :=
  ((Species.ofName? name).map .species).or
    ((specialTargets.find? fun entry => entry.1 == name).map Prod.snd)

namespace Value

mutual

/-- **An object in the place of a target**: a species is one, and so is a tuple of targets. -/
def asTarget : Value → Target Value Species
  | ofSpecies s => .species s
  | sequence _ .list items => .list (asTargets items)
  | sequence _ .tuple items => .tuple .plain (asTargets items)
  | sequence _ .pair items => .tuple (.named "Pair" ["a", "b"]) (asTargets items)
  | v => .object v

/-- Objects in the place of targets. -/
def asTargets : List Value → List (Target Value Species)
  | [] => []
  | v :: vs => asTarget v :: asTargets vs

end

mutual

/-- A target in the place of an object, if it is one: a form is none. -/
def ofTarget? : Target Value Species → Option Value
  | .species s => some (ofSpecies s)
  | .object v => some v
  | .tuple _ ms => (ofTargets? ms).map (sequence .shared .tuple)
  | _ => Option.none

/-- Targets in the place of objects. -/
def ofTargets? : List (Target Value Species) → Option (List Value)
  | [] => some []
  | t :: ts => do
      let v ← ofTarget? t
      let vs ← ofTargets? ts
      return v :: vs

end

end Value

end Narrowing.Menagerie
