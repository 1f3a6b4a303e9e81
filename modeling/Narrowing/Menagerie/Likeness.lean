import Narrowing.Menagerie.Fingerprint
import Narrowing.Menagerie.Truth
import Narrowing.Outcome

/-!
# The likeness of objects

Whether one object equals another (`==`) is first a question to the object on the left, and
then, if that one declines, to the object on the right; an object on the right that is
of a proper heir of the left one's species is asked first. If both decline, only the
same object is equal. The answer need not be a truth value. Whether they are unequal (`!=`)
is asked in the same way.

* `Value.opinion`: what an object that stands on its own answers (`__eq__`);
* `Value.compare`: the comparison, told from the side that one object stands on;
* `Value.equal`: the comparison of a left object with a right one;
* `Value.answer`, `Value.unequal`: what every object answers, and its opposite.

Members of containers, and the parts of outcomes and settings, are alike when they are
the same object or when the answer of their comparison is true.
-/

namespace Narrowing.Menagerie

/-- The side on which an object stands in a comparison. -/
inductive Side where
  | left
  | right
deriving DecidableEq, Repr

/-- The other side. -/
def Side.other : Side → Side
  | left => right
  | right => left

namespace Value

/-- **What an object answers about another one**, if it does: numbers compare by value,
texts and octets by content, misses accept each other, and some creatures have an answer
for everybody. A hit takes a liar for one of its own and looks for what it carries. -/
def opinion (a b : Value) : Opinion Value :=
  match a with
  | creature _ .wild _ => some (.ok (bool true))
  | creature _ .hermit _ => some (.ok (bool false))
  | creature _ .bomb _ => some (.error ⟨.runtimeError, "eq exploded"⟩)
  | creature _ .echo _ => some (.ok b)
  | atom (.miss _ _) => Outcome.ofMiss bool b.isMiss
  | atom (.text _ _ s) => b.text?.map fun t => .ok (bool (s == t))
  | atom (.octets _ bs) =>
      match b with
      | atom (.octets _ cs) => some (.ok (bool (bs == cs)))
      | _ => Option.none
  | hit _ .own _ =>
      match b with
      | atom (.liar _ .hit) => some b.payload
      | _ => Option.none
  | _ => a.number?.bind fun x => b.number?.map fun y => .ok (bool (x.eq y))

/-- The opinions of an object on one side and of the one opposite, settled: only sameness counts
if there is none. -/
def settleOn (side : Side) (mine theirs : Value) (opinion reply : Opinion Value) :
    Except Fault Value :=
  match side with
  | .left =>
      Opinion.settle (theirs.species.properHeir mine.species) opinion reply
        (bool (mine = theirs))
  | .right =>
      Opinion.settle (mine.species.properHeir theirs.species) reply opinion
        (bool (theirs = mine))

/-- The comparison of two objects that stand on their own. -/
def settle (left right : Value) : Except Fault Value :=
  Opinion.settle (right.species.properHeir left.species) (left.opinion right) (right.opinion left)
    (bool (left = right))

/-- Whether two objects are alike, given the answer of their comparison. -/
def sameOr (a b : Value) (answer : Except Fault Value) : Except Fault Bool :=
  if a = b then .ok true else do truth (← answer)

/-- An object together with the likeness of it to others, on either side. -/
structure Peer where
  object : Value
  alike : Side → Value → Except Fault Bool

/-- Members in turn, and then their number. -/
def compareItems (side : Side) (mine : List Peer) (theirs : List Value) : Except Fault Bool := do
  if ← (mine.zip theirs).allM fun (x, y) => x.alike side y then
    return mine.length = theirs.length
  else return false

/-- Whether a key is the same as another: equal fingerprints, which keys have, and alike. -/
def sameKey (k : Peer) (side : Side) (other : Value) : Except Fault Bool :=
  if k.object.fingerprint.toOption = other.fingerprint.toOption then k.alike side other
  else .ok false

/-- Two dictionaries of the same size. The entries of the one on the left are looked up in
the other one; a key or value that is found there is the left one of its own comparison. -/
def compareEntries (side : Side) (mine : List (Peer × Peer)) (theirs : List (Value × Value)) :
    Except Fault Bool :=
  match side with
  | .left => mine.allM fun (k, v) => do
      match ← theirs.findM? fun entry => sameKey k .right entry.1 with
      | Option.none => return false
      | some entry => v.alike .right entry.2
  | .right => theirs.allM fun (k, v) => do
      match ← mine.findM? fun entry => sameKey entry.1 .left k with
      | Option.none => return false
      | some entry => entry.2.alike .left v

mutual

/-- **The comparison of an object that stands on one side with the other one.** A list is
compared with a list, of the same length or else unequal at once; a tuple with a tuple,
where a pair takes the left side; a point with a point by their labels; a hit with a hit
of the very same species by what they carry; settings by their switches. -/
def compare : Value → Side → Value → Except Fault Value
  | sequence _ .list xs, side, sequence _ .list ys => do
      if xs.length ≠ ys.length then return bool false
      else return bool (← compareItems side (peers xs) ys)
  | sequence _ .tuple xs, side, sequence _ .tuple ys
  | sequence _ .pair xs, side, sequence _ .pair ys => do
      return bool (← compareItems side (peers xs) ys)
  | sequence _ .pair xs, _, sequence _ .tuple ys => do
      return bool (← compareItems .left (peers xs) ys)
  | sequence _ .tuple xs, _, sequence _ .pair ys => do
      return bool (← compareItems .right (peers xs) ys)
  | dict _ keys values, side, dict _ otherKeys otherValues => do
      if keys.length ≠ otherKeys.length then return bool false
      else
        let mine := (peers keys).zip (peers values)
        return bool (← compareEntries side mine (otherKeys.zip otherValues))
  | creature _ .point x, side, creature _ .point y => compare x side y
  | hit i s x, side, hit j t y =>
      let payloads := (sameOr x y (compare x side y)).map bool
      settleOn side (hit i s x) (hit j t y) (Outcome.ofHit s t payloads) (Outcome.ofHit t s payloads)
  | settings _ d s, side, settings _ e t => do
      if ← sameOr d e (compare d side e) then return bool (← sameOr s t (compare s side t))
      else return bool false
  -- no two parts to compare: each of the two answers as it stands
  | a, side, b => settleOn side a b (a.opinion b) (b.opinion a)

/-- Objects as peers. -/
def peers : List Value → List Peer
  | [] => []
  | v :: vs => ⟨v, fun side other => sameOr v other (compare v side other)⟩ :: peers vs

end

/-- **The answer of a left object's comparison with a right one.** -/
def equal (a b : Value) : Except Fault Value := compare a .left b

/-- **What every object answers about another one**, if it does: containers, points, hits and settings
about their like, and all others as they stand. -/
def answer (a b : Value) : Opinion Value :=
  match a with
  | sequence _ .list _ =>
      match b with
      | sequence _ .list _ => some (equal a b)
      | _ => Option.none
  | sequence _ _ xs =>
      match b with
      | sequence _ .list _ => Option.none
      | sequence _ _ ys => some do return bool (← compareItems .left (peers xs) ys)
      | _ => Option.none
  | dict _ _ _ =>
      match b with
      | dict _ _ _ => some (equal a b)
      | _ => Option.none
  | creature _ .point _ =>
      match b with
      | creature _ .point _ => some (equal a b)
      | _ => Option.none
  | hit _ s x =>
      match b with
      | hit _ t y => Outcome.ofHit s t ((sameOr x y (equal x y)).map bool)
      | _ => a.opinion b
  | settings _ _ _ =>
      match b with
      | settings _ _ _ => some (equal a b)
      | _ => Option.none
  | _ => a.opinion b

/-- **Whether two objects are unequal.** Each object turns its answer around. -/
def unequal (a b : Value) : Except Fault Value :=
  Opinion.settle (b.species.properHeir a.species) ((a.answer b).opposite truth bool)
    ((b.answer a).opposite truth bool) (bool !decide (a = b))

end Value

end Narrowing.Menagerie
