import Narrowing.Target

/-!
# Operators on objects and species

A target is built by giving something arguments, by looking something up in it, or by
joining things by bars. What that comes to for the objects and species of a universe is for
the universe to say.

* `Arity`: what a species makes of arguments;
* `Operators`: what the objects and species of a universe make of all this.
-/

namespace Narrowing

/-- What a species makes of arguments. -/
inductive Arity where
  /-- It takes none. -/
  | refused
  /-- It takes any number of them. -/
  | free
  /-- It is declared with this many. -/
  | exactly (count : Nat)
  /-- It could be declared with some but is not. -/
  | undeclared
  /-- It takes a list of arguments and a result. -/
  | signature
  /-- It looks its members up by them. -/
  | members
deriving DecidableEq, Repr

/-- **The operators of a universe** of objects `α` and species `κ`. -/
structure Operators (α κ : Type) where
  /-- What a species makes of arguments. -/
  arity : κ → Arity
  /-- What an object holds under a key. -/
  item : α → Target α κ → Except Fault (Target α κ)
  /-- The place that an object stands for among ordered members, if it can stand for one. -/
  place? : α → Option Int
  /-- What two objects that are no targets come to when they are joined by a bar, if
  anything. -/
  join? : α → α → Option (Except Fault α)
  /-- Whether alternatives that cannot stand in a set are compared one by one, instead of being
  refused. -/
  comparesUnhashable : Bool
  /-- The form of an object between other words. -/
  plain : α → Except Fault String

end Narrowing
