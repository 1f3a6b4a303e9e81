import Narrowing.Menagerie.Species
import Narrowing.Number.Binary

/-!
# The objects of the menagerie

An object is a value with an **identity**: two objects are the same one exactly when
they are equal as elements of `Value` (`Value.same_iff`). Objects that exist only
once share the identity `shared`; every other object has a token of its own.

* `Value`: the objects;
* `Value.species`: the species of an object (`type`);
* `Value.claimedSpecies`: the species it passes itself off as (`__class__`).
-/

namespace Narrowing.Menagerie

/-- What tells objects of equal content apart. -/
inductive Identity where
  | shared
  | token (n : Nat)
deriving DecidableEq, Repr

/-- The colours: equal only to themselves. -/
inductive Color where
  | red
  | blue
deriving DecidableEq, Repr

/-- The levels: numbers with names. -/
inductive Level where
  | low
  | high
deriving DecidableEq, Repr

/-- A floating-point number, and how it is written. -/
structure Floating where
  written : String
  number : Binary
deriving DecidableEq, Repr

/-- A hit is one outright, an instance of a plain heir, or a hit and a miss at once. -/
inductive HitSort where
  | own
  | heir (name : String)
  | both
deriving DecidableEq, Repr

/-- A miss is one outright, or an instance of a plain heir. -/
inductive MissSort where
  | own
  | heir (name : String)
deriving DecidableEq, Repr

/-- What a liar passes itself off as. -/
inductive Claim where
  | hit
  | miss
deriving DecidableEq, Repr

/-- The ordered containers. A pair is a tuple of two with named places. -/
inductive SequenceSort where
  | list
  | tuple
  | pair
deriving DecidableEq, Repr

/-- Objects without parts. An heir, of a number or a text, has a species of its own. -/
inductive Atom where
  | none
  | bool (b : Bool)
  | int (identity : Identity) (heir : Bool) (n : Int)
  | float (identity : Identity) (x : Floating)
  | text (identity : Identity) (heir : Bool) (s : String)
  | octets (identity : Identity) (bs : List UInt8)
  | color (c : Color)
  | level (l : Level)
  | species (s : Species)
  | miss (identity : Identity) (sort : MissSort)
  | liar (identity : Identity) (claim : Claim)
deriving DecidableEq, Repr

/-- **The objects.** A dictionary keeps its keys and its values in order. -/
inductive Value where
  | atom (a : Atom)
  | sequence (identity : Identity) (sort : SequenceSort) (items : List Value)
  | dict (identity : Identity) (keys values : List Value)
  | creature (identity : Identity) (species : Species) (label : Value)
  | hit (identity : Identity) (sort : HitSort) (payload : Value)
  | settings (identity : Identity) (debug strict : Value)

namespace Value

mutual

/-- Whether two objects are the same one. -/
def same : Value → Value → Bool
  | atom a, atom b => a == b
  | sequence i s xs, sequence j t ys => i == j && s == t && sameEach xs ys
  | dict i ks vs, dict j ls ws => i == j && sameEach ks ls && sameEach vs ws
  | creature i s x, creature j t y => i == j && s == t && same x y
  | hit i s x, hit j t y => i == j && s == t && same x y
  | settings i d s, settings j e t => i == j && same d e && same s t
  | _, _ => false

def sameEach : List Value → List Value → Bool
  | [], [] => true
  | x :: xs, y :: ys => same x y && sameEach xs ys
  | _, _ => false

end

mutual

/-- **Sameness is equality.** -/
theorem same_iff : ∀ x y : Value, same x y = true ↔ x = y
  | atom a, y => by cases y <;> simp [same]
  | sequence i s xs, y => by
      cases y <;> simp [same, and_assoc, sameEach_iff xs]
  | dict i ks vs, y => by
      cases y <;> simp [same, and_assoc, sameEach_iff ks, sameEach_iff vs]
  | creature i s x, y => by cases y <;> simp [same, and_assoc, same_iff x]
  | hit i s x, y => by cases y <;> simp [same, and_assoc, same_iff x]
  | settings i d s, y => by cases y <;> simp [same, and_assoc, same_iff d, same_iff s]

theorem sameEach_iff : ∀ xs ys : List Value, sameEach xs ys = true ↔ xs = ys
  | [], ys => by cases ys <;> simp [sameEach]
  | x :: xs, ys => by cases ys <;> simp [sameEach, same_iff x, sameEach_iff xs]

end

instance : DecidableEq Value := fun x y => decidable_of_iff _ (same_iff x y)

/-- The empty value, truth values, and the miss that exists once. -/
@[match_pattern] abbrev none : Value := atom .none

@[match_pattern, inherit_doc none] abbrev bool (b : Bool) : Value := atom (.bool b)

@[match_pattern, inherit_doc none] abbrev miss : Value := atom (.miss .shared .own)

/-- A species as an object. -/
@[match_pattern] abbrev ofSpecies (s : Species) : Value := atom (.species s)

/-- A text that nothing is told of but its content. -/
def ofText (s : String) : Value := atom (.text .shared false s)

end Value

/-- The species of a hit. -/
def HitSort.species : HitSort → Species
  | own => .hit
  | heir n => .hitHeir n
  | both => .both

/-- The species of a miss. -/
def MissSort.species : MissSort → Species
  | own => .miss
  | heir n => .missHeir n

/-- The species of an ordered container. -/
def SequenceSort.species : SequenceSort → Species
  | list => .list
  | tuple => .tuple
  | pair => .pair

/-- The species of an object without parts. -/
def Atom.speciesOf : Atom → Species
  | none => .void
  | bool _ => .bool
  | int _ heir _ => if heir then .intHeir else .int
  | float _ _ => .float
  | text _ heir _ => if heir then .textHeir else .text
  | octets _ _ => .octets
  | color _ => .color
  | level _ => .level
  | species s => s.sortOfSpecies
  | miss _ s => s.species
  | liar _ .hit => .hitLiar
  | liar _ .miss => .missLiar

namespace Value

/-- **The species of an object.** -/
def species : Value → Species
  | atom a => a.speciesOf
  | sequence _ s _ => s.species
  | dict .. => .dict
  | creature _ s _ => s
  | hit _ s _ => s.species
  | settings .. => .settings

/-- The species an object passes itself off as: its own, unless it is a liar. -/
def claimedSpecies : Value → Species
  | atom (.liar _ .hit) => .hit
  | atom (.liar _ .miss) => .miss
  | v => v.species

/-- Whether an object counts as a hit, by its species or by its claim. -/
def isHit (v : Value) : Bool := v.species.descends .hit || v.claimedSpecies.descends .hit

/-- Whether an object counts as a miss, by its species or by its claim. -/
def isMiss (v : Value) : Bool := v.species.descends .miss || v.claimedSpecies.descends .miss

/-- The text that an object is, heirs included. -/
def text? : Value → Option String
  | atom (.text _ _ s) => some s
  | _ => Option.none

/-- The integer that an object is: truth values, levels and heirs included. -/
def int? : Value → Option Int
  | atom (.bool b) => some (if b then 1 else 0)
  | atom (.int _ _ n) => some n
  | atom (.level .low) => some 1
  | atom (.level .high) => some 2
  | _ => Option.none

/-- The number that an object is, exactly. -/
def number? : Value → Option Binary
  | atom (.float _ x) => some x.number
  | v => v.int?.map Binary.ofInt

/-- The species that an object is. -/
def asSpecies : Value → Option Species
  | atom (.species s) => some s
  | _ => Option.none

/-- **What a hit carries.** A liar has nothing to show. -/
def payload : Value → Except Fault Value
  | hit _ _ p => .ok p
  | v => missingAttribute v.species.title.name "value"

end Value

end Narrowing.Menagerie
