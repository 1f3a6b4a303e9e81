import Narrowing.Contract

/-!
# Refinements

A **refinement** is a predicate over objects that, when it accepts a candidate,
certifies that the candidate meets some target. Refinements are kept as data, so
that they can be compared and described; `Refinement.run` is what they do.

* a classifier with its contract (`classified`, what `create` and `refinement` make),
  answered through `Contract.enforce`;
* all of several stages (`all`, of `compose`), any of several siblings (`any`, of `either`),
  and the complement of one (`complement`, of `not_`): stages and siblings are asked from
  left to right, and none is asked once the verdict is settled;
* a classifier of the library (`readymade`, of `instance_of`, `one_of` and `is_none`);
* a bare predicate (`function`), which may answer anything.

Every refinement that is built carries a handle, which is what makes it the same
refinement as another one.
-/

namespace Narrowing

/-- The classifiers that come with the library: instances of some targets (`instance_of`), members of a
list of values (`one_of`), and the empty value (`is_none`). -/
inductive Readymade (α κ : Type) where
  | instances (targets : List (Target α κ))
  | values (options : List α)
  | absence

/-- **Refinements** over bare predicates `ι`, objects `α` and species `κ`. -/
inductive Refinement (ι α κ : Type) where
  | function (f : ι)
  | readymade (handle : Nat) (r : Readymade α κ)
  | classified (handle : Nat) (classifier : Refinement ι α κ) (checking : Contract.Checking α)
      (target : Option (Target α κ)) (title : String)
  | all (handle : Nat) (stages : List (Refinement ι α κ))
  | any (handle : Nat) (siblings : List (Refinement ι α κ))
  | complement (handle : Nat) (inner : Refinement ι α κ)

/-- The handle of a refinement. A bare predicate has none. -/
def Refinement.handle? {ι α κ : Type} : Refinement ι α κ → Option Nat
  | .function _ => none
  | .readymade h _ | .classified h _ _ _ _ | .all h _ | .any h _ | .complement h _ => some h

namespace Readymade

variable {α κ σ : Type} [DecidableEq α] (M : ObjectModel α κ)

/-- Whether a candidate equals one of some values, by its own account. The values are
compared from left to right, each comparison leaves an event, and the first that
holds settles the question. -/
def among (candidate : α) : List α → Eval σ α Bool
  | [] => pure false
  | v :: vs => do
      Eval.emit (.compared candidate v)
      let answer ← Eval.ofExcept (M.equal candidate v)
      if ← Eval.ofExcept (M.truth answer) then return true else among candidate vs

/-- What a ready-made classifier recognizes. -/
def recognizes (candidate : α) : Readymade α κ → Eval σ α Bool
  | instances ts => Eval.ofExcept ((Target.ofAlternatives ts).hasInstance M candidate)
  | values vs => among M candidate vs
  | absence => pure (candidate = M.none)

/-- **A ready-made classifier**: a hit with the candidate itself, or a miss. -/
def classify (r : Readymade α κ) (candidate : α) : Eval σ α α := do
  return if ← r.recognizes M candidate then M.hit candidate else M.miss

end Readymade

namespace Refinement

variable {ι α κ σ : Type} [DecidableEq α] [DecidableEq κ] (M : ObjectModel α κ)
  (call : ι → α → Eval σ α α)

mutual

/-- **What a refinement answers to a candidate.** The answer of a bare predicate is
passed on as it is; every other refinement answers with a truth value. -/
def run : Refinement ι α κ → α → Eval σ α α
  | function f, candidate => call f candidate
  | readymade _ r, candidate => r.classify M candidate
  | classified _ classifier checking target title, candidate =>
      Contract.enforce M checking target title (run classifier) candidate
  | all _ stages, candidate => M.ofBool <$> runAll stages candidate
  | any _ siblings, candidate => M.ofBool <$> runAny siblings candidate
  | complement _ inner, candidate => do
      let answer ← run inner candidate
      return M.ofBool (!(← Eval.ofExcept (M.truth answer)))

/-- Stages from left to right, up to the first that rejects (`all` over a generator, behind a seal). -/
def runAll : List (Refinement ι α κ) → α → Eval σ α Bool
  | [], _ => pure true
  | r :: rs, candidate => do
      let answer ← Eval.sealed (run r candidate)
      if ← Eval.ofExcept (M.truth answer) then runAll rs candidate else return false

/-- Siblings from left to right, up to the first that accepts (`any` over a generator, behind a seal). -/
def runAny : List (Refinement ι α κ) → α → Eval σ α Bool
  | [], _ => pure false
  | r :: rs, candidate => do
      let answer ← Eval.sealed (run r candidate)
      if ← Eval.ofExcept (M.truth answer) then return true else runAny rs candidate

end

end Refinement

end Narrowing
