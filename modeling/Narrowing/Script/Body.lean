import Narrowing.Script.Recipe

/-!
# Bodies

What a scripted predicate does with its candidate is written down as a **body**, and the
conditions in it as **tests**. A test may ask a refinement, by the name it is defined under
at the time of asking.
-/

namespace Narrowing.Script

/-- How two numbers may be related. -/
inductive Relation where
  | lt
  | le
  | gt
  | ge
  | eq
deriving DecidableEq, Repr

/-- **A condition on a candidate.** -/
inductive Test where
  | always (verdict : Bool)
  /-- Whether it belongs to one of some species. -/
  | isa (names : List String)
  | equals (r : Recipe)
  | is (r : Recipe)
  /-- How it compares with a number. -/
  | compares (relation : Relation) (x : Binary)
  /-- Whether it leaves this remainder. -/
  | leaves (modulus remainder : Int)
  /-- How its length compares with a number. -/
  | measures (relation : Relation) (n : Int)
  | not (t : Test)
  | and (ts : List Test)
  | or (ts : List Test)
  /-- Whether a refinement accepts it, or accepts all or any of its members. -/
  | accepted (name : String)
  | allAccepted (name : String)
  | anyAccepted (name : String)
  | malformed (text : String)

/-- **What a scripted predicate answers.** -/
inductive Body where
  | hit
  | miss
  | newMiss
  | candidate
  | hitHeir
  | missHeir
  | both
  | hitWith (r : Recipe)
  | give (r : Recipe)
  | branch (test : Test) (yes no : Body)
  | fault (kind : String) (text : Option String)
  | note (tag : String) (next : Body)
  /-- A different body each time, and the last one from then on. -/
  | inTurn (bodies : List Body)
  | malformed (text : String)

end Narrowing.Script
