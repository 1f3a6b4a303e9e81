import Narrowing.ObjectModel

/-!
# The species of the menagerie

The menagerie is a concrete universe of objects: plain values, containers, outcomes,
settings, and creatures of a small family of species, some of which answer questions
about themselves in unusual ways.

* `Species.title`: how a species is written;
* `Species.parents`, `Species.descends`: inheritance (`issubclass`), as a walk up the family tree;
* `Species.isCreature`: the species a creature can be made of.
-/

namespace Narrowing.Menagerie

/-- **The species.** An heir is a plain descendant, known by its name, of the species of
hits or of that of misses; `void` is the species of the empty value; `sort` and `sortOf`
are species whose members are species. -/
inductive Species where
  | object | int | bool | float | text | octets | list | tuple | dict | sort | void
  | textHeir | intHeir | color | level | pair
  | thing | pet | cat | dog | puppy | catDog | fruit | orange | mango | banana | vegetable
  | inner | box
  | point | wild | hermit | bomb | echo | falsy | boolBomb | badDisplay | nothing
  | meows | canMeow | hasId | movie | picky | grumpy | everything
  | sized | sequence | mapping | hashable | callable
  | hit | hitHeir (name : String) | both | miss | missHeir (name : String)
  | hitLiar | missLiar | settings
  | sortOf (home name : String)
deriving DecidableEq, Repr

namespace Species

/-- A species from the place where the creatures live. -/
def zoo (name : String) : Title := ⟨name, name, some "zoo"⟩

/-- A built-in species. -/
def builtin (name : String) : Title := ⟨name, name, none⟩

/-- A capability. -/
def capability (name : String) : Title := ⟨name, name, some "collections.abc"⟩

/-- A species of outcomes. -/
def outcome (name : String) : Title := ⟨name, name, some "refinements.types.result"⟩

/-- **How a species is written.** -/
def title : Species → Title
  | object => builtin "object" | int => builtin "int" | bool => builtin "bool"
  | float => builtin "float" | text => builtin "str" | octets => builtin "bytes"
  | list => builtin "list" | tuple => builtin "tuple" | dict => builtin "dict"
  | sort => builtin "type" | void => builtin "NoneType"
  | textHeir => zoo "StrSub" | intHeir => zoo "IntSub" | color => zoo "Color"
  | level => zoo "Level" | pair => zoo "Pair"
  | thing => zoo "Thing" | pet => zoo "Pet" | cat => zoo "Cat" | dog => zoo "Dog"
  | puppy => zoo "Puppy" | catDog => zoo "CatDog" | fruit => zoo "Fruit"
  | orange => zoo "Orange" | mango => zoo "Mango" | banana => zoo "Banana"
  | vegetable => zoo "Vegetable" | inner => ⟨"Inner", "Outer.Inner", some "zoo"⟩
  | box => zoo "Box"
  | point => zoo "Point" | wild => zoo "Wild" | hermit => zoo "Hermit" | bomb => zoo "Bomb"
  | echo => zoo "Echo" | falsy => zoo "Falsy" | boolBomb => zoo "BoolBomb"
  | badDisplay => zoo "BadRepr" | nothing => zoo "Nothing"
  | meows => zoo "Meows" | canMeow => zoo "CanMeow" | hasId => zoo "HasId" | movie => zoo "Movie"
  | picky => zoo "Picky" | grumpy => zoo "Grumpy" | everything => zoo "Everything"
  | sized => capability "Sized" | sequence => capability "Sequence"
  | mapping => capability "Mapping" | hashable => capability "Hashable"
  | callable => capability "Callable"
  | hit => outcome "Hit" | hitHeir n => zoo n | both => zoo "Both"
  | miss => outcome "Miss" | missHeir n => zoo n
  | hitLiar => zoo "HitLiar" | missLiar => zoo "MissLiar"
  | settings => ⟨"Runtime", "Runtime", some "refinements.core.runtime"⟩
  | sortOf h n => ⟨n, n, some h⟩

/-- The species that creatures can be made of. -/
def creatures : List Species :=
  [pet, cat, dog, puppy, catDog, fruit, orange, mango, banana, vegetable, inner, box, point, wild,
    hermit, bomb, echo, falsy, boolBomb, badDisplay, nothing]

/-- Whether creatures can be made of a species. -/
def isCreature (s : Species) : Bool := creatures.contains s

/-- The species that a name can stand for, with the names that are not their titles. -/
def ofName? (name : String) : Option Species :=
  let plain := creatures ++ [object, int, bool, float, text, octets, list, tuple, dict, sort, void,
    textHeir, intHeir, color, level, pair, meows, canMeow, hasId, movie, picky, grumpy, everything,
    hit, miss]
  let abstract_ := [sized, sequence, mapping, hashable, callable]
  (plain.find? fun s => s.title.name == name).or
    (abstract_.find? fun s => s!"abc.{s.title.name}" == name)

/-- The species right above a species, in the order in which they are consulted. -/
def parents : Species → List Species
  | object => []
  | bool | level | intHeir => [int]
  | textHeir => [text]
  | pair => [tuple]
  | cat | dog => [pet]
  | puppy => [dog]
  | catDog => [cat, dog]
  | orange | mango | banana => [fruit]
  | pet | fruit | vegetable | inner | box | point | wild | hermit | bomb | echo | falsy | boolBomb
  | badDisplay | nothing => [thing]
  | hitHeir _ => [hit]
  | both => [hit, miss]
  | missHeir _ => [miss]
  | sortOf .. => [sort]
  | _ => [object]

/-- A species and those above it, up to `height` steps. -/
def lineage : (height : Nat) → Species → List Species
  | 0, s => [s]
  | height + 1, s => s :: s.parents.flatMap (lineage height)

/-- **Inheritance.** No species is more than five steps below the root. -/
def descends (s above : Species) : Bool := (lineage 5 s).contains above

/-- Whether a species is a proper descendant of another. -/
def properHeir (s above : Species) : Bool := s != above && descends s above

/-- The species that a species itself belongs to. -/
def sortOfSpecies : Species → Species
  | color | level => sortOf "enum" "EnumType"
  | sized | sequence | mapping | hashable | callable => sortOf "abc" "ABCMeta"
  | meows | canMeow | hasId => sortOf "typing" "_ProtocolMeta"
  | movie => sortOf "typing" "_TypedDictMeta"
  | picky => sortOf "zoo" "PickyMeta"
  | grumpy => sortOf "zoo" "GrumpyMeta"
  | everything => sortOf "zoo" "EverythingMeta"
  | nothing => sortOf "zoo" "NothingMeta"
  | _ => sort

/-- Whether the members of a species have a length. -/
def isSized (s : Species) : Bool :=
  [text, octets, list, tuple, dict].any (descends s) || s == sortOf "enum" "EnumType"

/-- Whether the members of a species are sequences. -/
def isSequence (s : Species) : Bool := [text, octets, list, tuple].any (descends s)

/-- Whether the members of a species have fingerprints, as far as the species tells. -/
def isHashable (s : Species) : Bool := !([list, dict, point].any (descends s))

/-- Whether the members of a species that are themselves creatures can meow. -/
def meowing (s : Species) : Bool := descends s cat

/-- **Whether a species counts as a descendant of another**, where the second may have
its own idea of that. -/
def counts (s above : Species) : Except Fault Bool :=
  match above with
  | meows => typeFault "Instance and class checks can only be used with @runtime_checkable protocols"
  | hasId => typeFault "Protocols with non-method members don't support issubclass()"
  | movie => typeFault "TypedDict does not support instance and class checks"
  | canMeow => .ok (meowing s || s == canMeow)
  | sized => .ok (isSized s || s == sized || s == sequence || s == mapping)
  | sequence => .ok (isSequence s || s == sequence)
  | mapping => .ok (descends s dict || s == mapping)
  | hashable => .ok (isHashable s)
  | callable => .ok (descends s sort || s == callable)
  | _ => .ok (descends s above)

end Species

end Narrowing.Menagerie
