import Narrowing.Menagerie.Conversion
import Narrowing.Menagerie.Truth

/-!
# Calling objects

A species can be called with an argument (`__call__`): it makes one of its own of it. A species of
creatures uses the argument as a label; the species of plain values convert it, and say so
when they cannot. Nothing else in the menagerie can be called.

* `Species.call`: a species called with an argument;
* `Value.call`: any object called with an argument.
-/

namespace Narrowing.Menagerie

namespace Species

/-- **A species called with an argument.** -/
def call (fresh : Nat) (s : Species) (v : Value) : Except Fault Value :=
  match s with
  | hit => .ok (.hit (.token fresh) .own v)
  | bool => do return .bool (← v.truth)
  | int => do return .ofInt fresh (← v.toInt)
  | intHeir => do return .atom (.int (.token fresh) true (← v.toInt))
  | float => v.toNumber fresh
  | text =>
      match v with
      | .atom (.text _ false _) => .ok v
      | _ => do return .ofString fresh (← v.plain)
  | textHeir => do return .atom (.text (.token fresh) true (← v.plain))
  | octets => do return .ofOctets fresh (← v.toOctets fresh)
  | list => do return .ofItems fresh .list (← v.toItems fresh)
  | tuple =>
      match v with
      | .sequence _ .tuple _ => .ok v
      | _ => do return .ofItems fresh .tuple (← v.toItems fresh)
  | dict | movie => do
      let entries ← v.toEntries fresh
      return .dict (.token fresh) (entries.map Prod.fst) (entries.map Prod.snd)
  | sort => .ok (.ofSpecies v.species)
  | color => v.toColor fresh
  | level => v.toLevel fresh
  | pair => typeFault "Pair.__new__() missing 1 required positional argument: 'b'"
  | meows | canMeow | hasId => typeFault "Protocols cannot be instantiated"
  | void => typeFault "NoneType takes no arguments"
  | s =>
      if s.isCreature then .ok (.creature (.token fresh) s v)
      else typeFault s!"{s.title.name}() takes no arguments"

end Species

namespace Value

/-- **An object called with an argument.** -/
def call (fresh : Nat) (f v : Value) : Except Fault Value :=
  match f with
  | ofSpecies s => s.call fresh v
  | _ => typeFault s!"'{f.species.title.name}' object is not callable"

end Value

end Narrowing.Menagerie
