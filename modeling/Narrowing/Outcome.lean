import Narrowing.Attributes
import Narrowing.Fingerprint
import Narrowing.Opinion

/-!
# Outcomes

The outcome of a classifier is a hit (`Hit`), which carries a payload, or a miss (`Miss`), which carries
nothing. An outcome can also be of a descendant of these species. How outcomes compare does not depend on
what payloads are, nor on how far species descend from each other.

* `Likeness`: how the objects of a universe compare;
* `Outcome.ofHit`, `Outcome.ofMiss`: the opinions that a hit and a miss have (`__eq__`);
* `Outcome.printOfHit`: the fingerprint of a hit (`__hash__`);
* `Outcome.fieldsOfHit`: the attributes that a hit is made of;
* `Outcome.equal`, `Outcome.unequal`: outcomes compared (`==`, `!=`);
* `Outcome.likeness`: outcomes as a universe of objects, which can be payloads in turn.
-/

namespace Narrowing

/-- **How the objects of a universe compare**: which are alike, that is, the same one or equal, and what
their fingerprints are. -/
structure Likeness (β : Type) where
  alike : β → β → Except Fault Bool
  fingerprint : β → Except Fault Fingerprint

/-- **An outcome over some payloads**, of one of some species. The identity tells outcomes of the same
content apart. -/
inductive Outcome (ι κ β : Type) where
  | hit (identity : ι) (species : κ) (payload : β)
  | miss (identity : ι) (species : κ)
deriving DecidableEq

namespace Outcome

variable {ι κ β α : Type}

/-- **The opinion of a hit on a hit.** It has one if they are of the very same species: what comes of
comparing the payloads. -/
def ofHit [DecidableEq κ] (mine theirs : κ) (payloads : Except Fault α) : Opinion α :=
  if mine = theirs then some payloads else none

/-- **The opinion of a miss**, on whatever there is: whether that counts as a miss. -/
def ofMiss (ofBool : Bool → α) (counts : Bool) : Opinion α := some (.ok (ofBool counts))

/-- The fingerprint of a hit: the one of a sequence with its payload. -/
def printOfHit (payload : Except Fault Fingerprint) : Except Fault Fingerprint := do
  return .ofList [← payload]

/-- The attributes that a hit is made of. -/
def fieldsOfHit (payload : α) : Attributes α := [("value", payload)]

/-- The species of an outcome. -/
def species : Outcome ι κ β → κ
  | hit _ k _ | miss _ k => k

/-- Whether an outcome is a miss. -/
def isMiss : Outcome ι κ β → Bool
  | hit .. => false
  | miss .. => true

/-- The attributes that an outcome is made of. -/
def fields : Outcome ι κ β → Attributes β
  | hit _ _ x => fieldsOfHit x
  | miss .. => []

/-- **The outcome that some attributes make up**, in place of those that it was made of. -/
def remade (t : Attributes β) : Outcome ι κ β → Option (Outcome ι κ β)
  | hit i k _ => (t.find? "value").map (hit i k)
  | miss i k => some (miss i k)

section Comparison

variable [DecidableEq ι] [DecidableEq κ] [DecidableEq β] (L : Likeness β) (heir : κ → κ → Bool)

/-- What an outcome answers about another one, if it does. -/
def opinion : Outcome ι κ β → Outcome ι κ β → Opinion Bool
  | hit _ k x, hit _ l y => ofHit k l (L.alike x y)
  | hit .., miss .. => none
  | miss .., b => ofMiss id b.isMiss

/-- **Whether two outcomes are equal.** Species that are heirs go first. -/
def equal (a b : Outcome ι κ β) : Except Fault Bool :=
  Opinion.settle (heir b.species a.species) (opinion L a b) (opinion L b a) (decide (a = b))

/-- **Whether two outcomes are unequal.** -/
def unequal (a b : Outcome ι κ β) : Except Fault Bool :=
  Opinion.settle (heir b.species a.species) ((opinion L a b).opposite .ok id)
    ((opinion L b a).opposite .ok id) (!decide (a = b))

/-- The fingerprint of an outcome. All misses share one. -/
def fingerprint (missed : Fingerprint) : Outcome ι κ β → Except Fault Fingerprint
  | hit _ _ x => printOfHit (L.fingerprint x)
  | miss .. => .ok missed

/-- **Outcomes as a universe of objects.** -/
def likeness (missed : Fingerprint) : Likeness (Outcome ι κ β) where
  alike a b := if a = b then .ok true else equal L heir a b
  fingerprint := fingerprint L missed

end Comparison

end Outcome

end Narrowing
