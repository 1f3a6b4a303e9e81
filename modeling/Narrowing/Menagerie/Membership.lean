import Narrowing.Menagerie.Object

/-!
# Membership in species

Whether an object is an instance of a species (`isinstance`). An object belongs to its own
species, whatever that species says. Otherwise some species decide for themselves
(`__instancecheck__`, `__subclasshook__`): a few refuse the question, one takes in everything, one takes in
nobody, and two ask what an object can do or has. All others go by inheritance, of the
species an object is of (`type`) or of the one it passes itself off as (`__class__`).
-/

namespace Narrowing.Menagerie

namespace Value

/-- Whether an object can meow. A species can if its members can. -/
def meows : Value → Bool
  | creature _ s _ => s.meowing
  | ofSpecies s => s.meowing || s == .canMeow || s == .meows
  | _ => false

/-- Whether an object has a label. -/
def isLabelled : Value → Bool
  | creature .. => true
  | _ => false

/-- **Membership** (`isinstance`). -/
def belongs (v : Value) (s : Species) : Except Fault Bool :=
  if v.species = s then .ok true
  else match s with
    | .picky => typeFault "picky"
    | .grumpy => .error ⟨.valueError, "grumpy"⟩
    | .everything => .ok true
    | .nothing => .ok false
    | .canMeow => .ok v.meows
    | .hasId => .ok v.isLabelled
    | .meows | .movie | .sized | .sequence | .mapping | .hashable | .callable =>
        v.species.counts s
    | _ => .ok (v.species.descends s || v.claimedSpecies.descends s)

/-- Every object belongs to its own species. -/
theorem belongs_species (v : Value) : v.belongs v.species = .ok true := by simp [belongs]

end Value

end Narrowing.Menagerie
