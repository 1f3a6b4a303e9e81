import Narrowing.Menagerie.Display
import Narrowing.Menagerie.Environment
import Narrowing.Menagerie.Inborn
import Narrowing.Outcome

/-!
# Changing attributes

An object can be asked to take a new attribute (`setattr`) or to drop one (`delattr`). A **subject** is an object
together with the attributes it keeps, some of which it is made of: a hit of its payload, a
creature of its label.

* `Value.guard`: how far an object lets its attributes be changed. A hit and settings let none be
  changed, a descendant of a hit protects only what it is made of, and a miss has no room
  for any;
* `Subject.attempt`: one attempt to change an attribute;
* `Subject.attemptAll`: a run of attempts, of which those that are refused leave no trace;
* `Subject.find`: an attribute of a subject (`getattr`);
* `Subject.current`: the object that the attributes now make up.
-/

namespace Narrowing.Menagerie

/-- An attempt to change an attribute of an object of the menagerie. -/
abbrev Attempt : Type := Narrowing.Attempt Value

namespace Value

/-- How an object guards its attributes. -/
def guard : Value → Guard
  | hit _ .own _ => .frozen
  | settings .. => .frozen
  | hit _ _ _ => .fields ["value"]
  | atom (.miss _ (.heir _)) | atom (.liar _ _) | creature .. => .fields []
  | atom (.int _ true _) | atom (.text _ true _) => .fields []
  | atom (.color _) | atom (.level _) => .fields ["name", "value"]
  | ofSpecies .color => .fields ([.red, .blue].map Color.name)
  | ofSpecies .level => .fields ([.low, .high].map Level.name)
  | ofSpecies s => if s.title.home.isNone then .immutable else .fields []
  | _ => .closed

/-- The attributes that an object is made of. -/
def madeOf : Value → Attributes Value
  | hit _ _ payload => Outcome.fieldsOfHit payload
  | creature _ _ label => [("id", label)]
  | settings _ debug strict => Settings.fields ⟨debug, strict⟩
  | _ => []

end Value

/-- **An object with its attributes.** -/
structure Subject where
  object : Value
  attributes : Attributes Value
deriving DecidableEq

namespace Subject

/-- An object as it is made. -/
def ofValue (v : Value) : Subject := ⟨v, v.madeOf⟩

/-- The value of an attribute. -/
def find (s : Subject) (name : String) : Except Fault Value :=
  match s.attributes.find? name, s.object with
  | some v, _ => .ok v
  | none, .ofSpecies species => species.lacks name
  | none, v => v.missing name

/-- **The object that the attributes make up.** It takes the attributes that it is made of
to be there. -/
def current (s : Subject) : Except Fault Value :=
  match s.object with
  | .hit i kind _ => do return .hit i kind (← s.find "value")
  | .creature i kind _ => do return .creature i kind (← s.find "id")
  | .settings i _ _ => do return .settings i (← s.find "debug") (← s.find "strict")
  | v => .ok v

/-- The written form of a subject. A creature of one species refuses it before it looks. -/
def display (s : Subject) : Except Fault String :=
  match s.object with
  | .creature _ .badDisplay _ => s.object.display
  | _ => do (← s.current).display

/-- A subject with an attribute given a value, in place of the one it had. -/
def put (s : Subject) (name : String) (value : Value) : Subject :=
  { s with attributes := s.attributes.put name value }

/-- All attributes replaced at once, by those that a dictionary holds. A species keeps what it
has. -/
def replaceAll (s : Subject) (a : Attempt) : Except Fault Subject :=
  match s.object, a with
  | .ofSpecies _, _ =>
      .error ⟨.attributeError, "attribute '__dict__' of 'type' objects is not writable"⟩
  | _, .assign _ (.dict _ keys values) =>
      .ok { s with attributes := Value.textEntries keys values }
  | _, .assign _ v =>
      typeFault s!"__dict__ must be set to a dictionary, not a '{v.species.title.name}'"
  | _, .remove _ => .ok { s with attributes := [] }

/-- **A change of species.** Creatures pass freely from one species of creatures to another;
every other object keeps its own, and an impostor guards what it claims to be. -/
def changeSpecies (s : Subject) (a : Attempt) : Except Fault Subject :=
  let own := s.object.species
  match s.object, a with
  | .atom (.liar ..), _ =>
      let way := match a with
        | .assign .. => "setter"
        | .remove _ => "deleter"
      .error ⟨.attributeError, s!"property '__class__' of '{own.title.name}' object has no {way}"⟩
  | _, .remove _ => typeFault "can't delete __class__ attribute"
  | v, .assign _ (.ofSpecies new) =>
      let misfit := typeFault
        s!"__class__ assignment: '{new.title.name}' object layout differs from '{own.title.name}'"
      if own.title.home.isNone || new.title.home.isNone then
        typeFault "__class__ assignment only supported for mutable types or ModuleType subclasses"
      else if own == new then .ok s
      else match v with
        | .creature i _ label =>
            if new.isCreature then .ok { s with object := .creature i new label } else misfit
        | _ => misfit
  | _, .assign _ v =>
      typeFault s!"__class__ must be set to a class, not '{v.species.title.name}' object"

/-- An attempt on a subject that has room for attributes. -/
def change (s : Subject) (a : Attempt) : Except Fault Subject :=
  if a.name = "__class__" then s.changeSpecies a
  else if a.name = "__dict__" then s.replaceAll a
  else match a with
    | .assign name value => .ok (s.put name value)
    | .remove name => do
        let _ ← s.find name
        return { s with attributes := s.attributes.drop name }

/-- The refusal of an attempt on an object without room for attributes. The places of a pair are
known by name, and so is everything inborn. -/
def refuse (s : Subject) (a : Attempt) : Except Fault Subject :=
  let own := s.object.species
  if a.name = "__class__" then s.changeSpecies a
  else if own = .pair ∧ (a.name = "a" ∨ a.name = "b") then
    let verb := match a with
      | .assign .. => "set"
      | .remove _ => "delete"
    .error ⟨.attributeError, s!"can't {verb} attribute"⟩
  else if own.inborn.contains a.name then
    .error ⟨.attributeError, s!"'{own.title.name}' object attribute '{a.name}' is read-only"⟩
  else s.object.missing a.name

/-- The refusal of a change of a named field. The members of a species of named ones, and the
names and numbers of those, have texts of their own. -/
def refuseField (v : Value) (a : Attempt) : Except Fault Subject :=
  match v with
  | .ofSpecies s =>
      match a with
      | .assign .. => .error ⟨.attributeError, s!"cannot reassign member '{a.name}'"⟩
      | .remove _ => .error ⟨.attributeError, s!"'{s.title.name}' cannot delete member '{a.name}'."⟩
  | .atom _ =>
      let verb := match a with
        | .assign .. => "set"
        | .remove _ => "delete"
      .error ⟨.attributeError, s!"<enum 'Enum'> cannot {verb} attribute '{a.name}'"⟩
  | _ => .error a.frozenFault

/-- An attempt on an object that guards its attributes. -/
def attemptGuarded (s : Subject) (a : Attempt) : Except Fault Subject :=
  match s.object.guard with
  | .frozen => .error a.frozenFault
  | .fields names => if names.contains a.name then refuseField s.object a else s.change a
  | .closed => s.refuse a
  | .immutable =>
      let species := s.object.asSpecies.getD .sort
      typeFault s!"cannot set '{a.name}' attribute of immutable type '{species.title.name}'"

/-- **One attempt to change an attribute.** The parts of a number cannot be changed at all. -/
def attempt (s : Subject) (a : Attempt) : Except Fault Subject :=
  match s.object.species.partOwner? a.name with
  | some owner =>
      .error ⟨.attributeError,
        s!"attribute '{a.name}' of '{owner.title.name}' objects is not writable"⟩
  | none => s.attemptGuarded a

/-- A run of attempts. Those that are refused leave the subject as it was. -/
def attemptAll (s : Subject) (attempts : List Attempt) : Subject :=
  attempts.foldl (fun s a => (s.attempt a).toOption.getD s) s

end Subject

end Narrowing.Menagerie
