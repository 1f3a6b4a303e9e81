import Narrowing.Menagerie.Description
import Narrowing.Menagerie.Environment
import Narrowing.Script.Making

/-!
# Profiles of scripted predicates

What can be told of the bare predicates of scripts without calling them. A scripted
predicate is made with a profile; any other object has the profile that its attributes make
up; and the public function that makes hits has one of its own.

* `Profile.assign`: an attribute given to a predicate that is being made;
* `Profile.assignChecked`: the same for a plain function, which is particular about some;
* `Function.profile`: the profile of a bare predicate.
-/

namespace Narrowing.Script

open Menagerie

/-- The description of the function that makes hits. -/
def hitFunctionDescription : String :=
  "\n    Wrap a recognized candidate.\n\n    Example:\n        " ++
  ">>> create(lambda pet: hit(pet) if isinstance(pet, Cat) else miss)\n    "

/-- The attributes of an object that can be seen from outside. -/
def visibleAttributes : Value → List (String × Value)
  | .atom (.color c) =>
      [("_value_", .ofInt 0 c.number), ("_name_", .ofText c.name),
        ("_sort_order_", .ofInt 0 (c.number - 1))]
  | .atom (.level l) =>
      [("_value_", .ofInt 0 l.number), ("_name_", .ofText l.name),
        ("_sort_order_", .ofInt 0 (l.number - 1))]
  | .hit _ _ payload => [("value", payload)]
  | .creature _ _ label => [("id", label)]
  | .settings _ debug strict => [("debug", debug), ("strict", strict)]
  | _ => []

/-- The profile of an object. Only a species has a name. -/
def profileOfObject (v : Value) : Profile Value :=
  match v with
  | .ofSpecies s =>
      ⟨.text s.title.name, .text s.title.path, s.description, [], false, v.display⟩
  | _ => ⟨.absent, .absent, v.species.description, visibleAttributes v, false, v.display⟩

end Narrowing.Script

namespace Narrowing.Profile

open Menagerie

/-- An attribute in the place of a name. -/
def nameTag (v : Value) : NameTag :=
  match v.text? with
  | some s => .text s
  | none => .other

/-- An attribute among others, in place of one with the same name. -/
def put (extras : List (String × Value)) (name : String) (v : Value) : List (String × Value) :=
  (extras.filter fun entry => entry.1 != name) ++ [(name, v)]

/-- **An attribute given to a predicate that is being made.** -/
def assign (p : Profile Value) (name : String) (v : Value) : Profile Value :=
  match name with
  | "__name__" => { p with name := nameTag v }
  | "__qualname__" => { p with qualname := nameTag v }
  | "__doc__" => { p with doc := v.text? }
  | _ => { p with extras := put p.extras name v }

/-- All attributes given to a predicate that is being made. -/
def assignAll (p : Profile Value) (names : List String) (values : List Value) : Profile Value :=
  (names.zip values).foldl (fun p entry => assign p entry.1 entry.2) p

/-- What a plain function accepts in the places that it keeps for itself. -/
def checkPlace (name : String) (v : Value) : Except Fault Unit :=
  let want (fits : Bool) (thing : String) : Except Fault Unit :=
    if fits then .ok () else typeFault s!"{name} must be set to a {thing} object"
  match name with
  | "__name__" | "__qualname__" => want v.text?.isSome "string"
  | "__code__" => want false "code"
  | "__defaults__" => want (v = .none || v.species.descends .tuple) "tuple"
  | "__kwdefaults__" | "__annotations__" => want (v = .none || v.species.descends .dict) "dict"
  | "__globals__" | "__closure__" | "__builtins__" =>
      .error ⟨.attributeError, "readonly attribute"⟩
  | "__dict__" =>
      if v.species.descends .dict then .ok ()
      else typeFault s!"__dict__ must be set to a dictionary, not a '{v.species.title.name}'"
  | "__class__" =>
      if v.asSpecies.isSome then
        typeFault "__class__ assignment only supported for mutable types or ModuleType subclasses"
      else typeFault s!"__class__ must be set to a class, not '{v.species.title.name}' object"
  | _ => .ok ()

/-- **An attribute given to a plain function.** All of them can be replaced at once. -/
def assignChecked (p : Profile Value) (name : String) (v : Value) :
    Except Fault (Profile Value) := do
  checkPlace name v
  match name, v with
  | "__dict__", .dict _ keys values => return { p with extras := Value.textEntries keys values }
  | _, _ => return p.assign name v

/-- All attributes given to a plain function, one after the other. -/
def assignAllChecked (p : Profile Value) (names : List String) (values : List Value) :
    Except Fault (Profile Value) :=
  (names.zip values).foldlM (fun p entry => assignChecked p entry.1 entry.2) p

/-- The profile of an object that can be called: it has no name unless it is given one. -/
def ofCallable (shown : Option String) : Profile Value :=
  let written : Except Fault String :=
    match shown with
    | some s => .ok s
    | none => .error ⟨.runtimeError, "repr exploded"⟩
  ⟨.absent, .absent, some "A callable object.", [], false, written⟩

end Narrowing.Profile

namespace Narrowing.Script

open Menagerie

/-- **The profile of a bare predicate.** -/
def Function.profile : Function → Profile Value
  | scripted _ p _ => p
  | object v => profileOfObject v
  | hit => .ofFunction "hit" "hit" (some hitFunctionDescription) []

end Narrowing.Script
