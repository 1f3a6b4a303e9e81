import Narrowing.ObjectModel

/-!
# Oddities

A universe of a few objects that answer for themselves as one likes. Which of them are equal, and how they
are written, are its **hooks** (`==` and `repr`). They all have the same `hash`, so that a set compares
them by equality alone. What holds of targets under some condition on these hooks can fail here.

* `Oddity`: the objects. Three of them are members of one species of suits.
* `Oddity.Hooks`: how objects are compared and written.
* `Oddity.model`: the object model with some hooks.
-/

namespace Narrowing

namespace Oddity

/-- The species. There is no object of the species of ranks and of guilds. -/
inductive Kind where
  | void | truth | hit | miss | kind | suit | rank | guild
deriving DecidableEq, Repr

end Oddity

/-- **The objects**: the empty value, truth values, outcomes, species, and three suits. -/
inductive Oddity where
  | none
  | bool (b : Bool)
  | hit (payload : Oddity)
  | miss
  | ofKind (k : Oddity.Kind)
  | red
  | blue
  | joker
deriving DecidableEq, Repr

namespace Oddity

/-- How a species is called. -/
def Kind.name : Kind → String
  | void => "Void"
  | truth => "Truth"
  | hit => "Hit"
  | miss => "Miss"
  | kind => "Kind"
  | suit => "Suit"
  | rank => "Rank"
  | guild => "Guild"

/-- The species of an object. -/
def species : Oddity → Kind
  | none => .void
  | bool _ => .truth
  | hit _ => .hit
  | miss => .miss
  | ofKind _ => .kind
  | red | blue | joker => .suit

/-- How objects are compared and written. Truth values are written as ever. -/
structure Hooks where
  equal : Oddity → Oddity → Bool
  display : Oddity → Except Fault String

/-- The instance check, which guilds refuse. -/
def belongs (a : Oddity) (k : Kind) : Except Fault Bool :=
  if k = .guild then typeFault "guilds are closed" else .ok (decide (a.species = k))

/-- **The object model with some hooks.** -/
def model (hooks : Hooks) : ObjectModel Oddity Kind where
  none := none
  ofBool := bool
  hit := hit
  miss := miss
  speciesOf := species
  ofSpecies := ofKind
  asSpecies
    | ofKind k => some k
    | _ => Option.none
  noneSpecies := .void
  title k := ⟨k.name, k.name, Option.none⟩
  belongs := belongs
  descends k above := .ok (decide (k = above))
  equal a b := .ok (bool (hooks.equal a b))
  truth
    | none => .ok false
    | bool b => .ok b
    | _ => .ok true
  display
    | bool b => .ok (if b then "True" else "False")
    | a => hooks.display a
  fingerprint _ := .ok (.ofNumber 0)
  textOf _ := Option.none
  isHit
    | hit _ => true
    | _ => false
  isMiss
    | miss => true
    | _ => false
  payload
    | hit a => .ok a
    | a => missingAttribute a.species.name "value"
  truth_ofBool _ := rfl
  display_ofBool _ := rfl
  isHit_ofBool _ := rfl
  isMiss_ofBool _ := rfl
  isHit_hit _ := rfl
  isMiss_hit _ := rfl
  payload_hit _ := rfl
  isHit_miss := rfl
  isMiss_miss := rfl
  speciesOf_none := rfl
  belongs_speciesOf a := by cases a <;> rfl

/-- Objects that are equal to themselves alone. -/
def byIdentity (a b : Oddity) : Bool := a = b

/-- Every object is written in the same way. -/
def written (_ : Oddity) : Except Fault String := .ok "oddity"

/-- The species of guilds cannot be written. -/
def unnamedGuild : Oddity → Except Fault String
  | ofKind .guild => .error ⟨.runtimeError, "guilds have no name"⟩
  | _ => .ok "oddity"

/-- No object can be written: each ends in an exhausted iterator. -/
def exhausting (_ : Oddity) : Except Fault String := .error ⟨.stopIteration, ""⟩

end Oddity

end Narrowing
