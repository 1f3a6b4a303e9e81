import Narrowing.Fault
import Narrowing.Text.Quoted

/-!
# Attributes

An object keeps values under names. An attempt to change one of them (`setattr`, `delattr`) is refused
where the object guards the name, and else it changes what is kept under this name alone.

* `Attributes`: what is kept under which name, and `Attributes.find?`, `Attributes.put`,
  `Attributes.drop`;
* `Guard`: how far an object lets its attributes be changed (`__setattr__`, `__delattr__`, `__slots__`);
* `Attempt`: an attempt to change an attribute, and `Attempt.IsOrdinary`: one on an ordinary name;
* `Attributes.attempt`, `Attributes.attemptAll`: one attempt on attributes, and a run of attempts.
-/

namespace Narrowing

/-- The values that an object keeps, under their names. -/
abbrev Attributes (α : Type) : Type := List (String × α)

/-- How far an object lets its attributes be changed. -/
inductive Guard where
  /-- Every change is refused. -/
  | frozen
  /-- Changes of some named fields are refused. -/
  | fields (names : List String)
  /-- There is no room for attributes. -/
  | closed
  /-- A species that is built in. -/
  | immutable
deriving DecidableEq, Repr

/-- Whether every change of an attribute of this name is refused. -/
def Guard.protects : Guard → String → Bool
  | fields names, name => names.contains name
  | _, _ => true

/-- An attempt to change an attribute. -/
inductive Attempt (α : Type) where
  | assign (name : String) (value : α)
  | remove (name : String)
deriving DecidableEq

namespace Attempt

variable {α : Type}

/-- The attribute that an attempt is about. -/
def name : Attempt α → String
  | assign n _ | remove n => n

/-- An attempt on an **ordinary** attribute: the name is not set between double underscores. -/
def IsOrdinary (a : Attempt α) : Prop :=
  ¬ (['_', '_'] <+: a.name.toList ∧ ['_', '_'] <:+ a.name.toList ∧ 4 < a.name.toList.length)

instance (a : Attempt α) : Decidable a.IsOrdinary := inferInstanceAs (Decidable (¬ _))

/-- The refusal of a protected field. -/
def frozenFault (a : Attempt α) : Fault :=
  let verb := match a with
    | assign .. => "assign to"
    | remove _ => "delete"
  ⟨.frozenField, s!"cannot {verb} field {Text.quote a.name}"⟩

end Attempt

namespace Attributes

variable {α : Type}

/-- The value under a name. -/
def find? (t : Attributes α) (name : String) : Option α :=
  (List.find? (fun entry => entry.1 == name) t).map Prod.snd

/-- Attributes with a value under a name, in place of the one that was there. -/
def put (t : Attributes α) (name : String) (value : α) : Attributes α :=
  if t.any fun entry => entry.1 == name then
    t.map fun entry => if entry.1 == name then (name, value) else entry
  else t ++ [(name, value)]

/-- Attributes with nothing under a name. -/
def drop (t : Attributes α) (name : String) : Attributes α := t.filter fun entry => entry.1 != name

/-- **One attempt on attributes** of which some names are guarded. There has to be something to
remove. -/
def attempt (guarded : String → Bool) (t : Attributes α) (a : Attempt α) : Option (Attributes α) :=
  if guarded a.name then none
  else match a with
    | .assign name value => some (t.put name value)
    | .remove name => if (t.find? name).isSome then some (t.drop name) else none

/-- **A run of attempts.** Those that are refused leave the attributes as they are. -/
def attemptAll (guarded : String → Bool) (t : Attributes α) (attempts : List (Attempt α)) :
    Attributes α :=
  attempts.foldl (fun t a => (t.attempt guarded a).getD t) t

end Attributes

end Narrowing
