import Narrowing.Fault
import Narrowing.Fingerprint

/-!
# Object models

Candidates, outcomes and the options of a target are objects of some universe
`α`, each belonging to a species in `κ`. An **object model** says how the objects
of a universe answer the questions that narrowing asks of them. Every answer that
an object gives for itself may be a fault instead.

The identity of objects is equality of `α`: two objects are the same one exactly
when they are equal elements. The likeness of objects, `ObjectModel.equal`, is
their own affair and need not even be reflexive.

* `ObjectModel.speciesOf`, `ObjectModel.belongs`, `ObjectModel.descends`: what `type`, `isinstance` and
  `issubclass` say;
* `ObjectModel.equal`, `ObjectModel.truth`, `ObjectModel.display`, `ObjectModel.fingerprint`: what the
  hooks of an object answer to `==`, `bool`, `repr` and `hash` (`__eq__`, `__bool__`, `__repr__`,
  `__hash__`);
* `ObjectModel.isHit`, `ObjectModel.isMiss`, `ObjectModel.payload`: whether an object is an instance of
  `Hit` or of `Miss`, and its `value`.
-/

namespace Narrowing

/-- How a species is written: its name, the path it is nested under, and the place
it is from, unless it is built in. -/
structure Title where
  name : String
  path : String
  home : Option String
deriving DecidableEq, Repr

namespace Title

/-- The title as written inside a larger form. -/
def reference (t : Title) : String :=
  match t.home with
  | none => t.path
  | some h => s!"{h}.{t.path}"

end Title

/-- **An object model**: the questions asked of objects, and the laws that hold of
the objects narrowing itself makes. -/
structure ObjectModel (α κ : Type) where
  /-- The empty value, the truth values, and the two outcomes a classifier can give. -/
  none : α
  ofBool : Bool → α
  hit : α → α
  miss : α
  /-- Species: that of an object (`type`), whether an object is one itself, and how it is written. -/
  speciesOf : α → κ
  ofSpecies : κ → α
  asSpecies : α → Option κ
  noneSpecies : κ
  title : κ → Title
  /-- Whether an object is an instance of a species (`isinstance`), and whether a species is a descendant
  of another (`issubclass`). The species may have a say in both (`__instancecheck__`). -/
  belongs : α → κ → Except Fault Bool
  descends : κ → κ → Except Fault Bool
  /-- What an object answers for itself: to `==`, in a condition (`bool`), to `repr`, and to `hash`. -/
  equal : α → α → Except Fault α
  truth : α → Except Fault Bool
  display : α → Except Fault String
  fingerprint : α → Except Fault Fingerprint
  textOf : α → Option String
  /-- Outcomes: which kind an object counts as, and what a hit carries. -/
  isHit : α → Bool
  isMiss : α → Bool
  payload : α → Except Fault α
  truth_ofBool : ∀ b, truth (ofBool b) = .ok b
  display_ofBool : ∀ b, display (ofBool b) = .ok (if b then "True" else "False")
  isHit_ofBool : ∀ b, isHit (ofBool b) = false
  isMiss_ofBool : ∀ b, isMiss (ofBool b) = false
  isHit_hit : ∀ a, isHit (hit a) = true
  isMiss_hit : ∀ a, isMiss (hit a) = false
  payload_hit : ∀ a, payload (hit a) = .ok a
  isHit_miss : isHit miss = false
  isMiss_miss : isMiss miss = true
  speciesOf_none : speciesOf none = noneSpecies
  belongs_speciesOf : ∀ a, belongs a (speciesOf a) = .ok true

namespace ObjectModel

variable {α κ : Type} [DecidableEq α] (M : ObjectModel α κ)

/-- Two objects are **alike** when they are the same one, or say so of themselves. -/
def alike (a b : α) : Except Fault Bool :=
  if a = b then .ok true else do M.truth (← M.equal a b)

/-- The name of the species of an object. -/
def speciesName (a : α) : String := (M.title (M.speciesOf a)).name

/-- Whether an object can stand in a set. -/
def hashable (a : α) : Except Fault Unit := do let _ ← M.fingerprint a

/-- Whether a set takes two objects for one: same fingerprint, and alike. -/
def interchangeable (a b : α) : Bool :=
  match M.fingerprint a, M.fingerprint b with
  | .ok f, .ok g => f == g && (M.alike a b).toOption == some true
  | _, _ => false

theorem alike_refl (a : α) : M.alike a a = .ok true := by simp [alike]

end ObjectModel

end Narrowing
