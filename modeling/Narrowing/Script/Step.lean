import Narrowing.Script.Draft
import Narrowing.Script.Evaluation

/-!
# Steps

A script is a list of steps: some give names to objects and refinements, some run a
refinement and report what came of it, and some tell what a refinement looks like. A step
that ends in a fault reports the fault, and the script goes on; only a malformed recipe ends
the whole script.

* `observe`: a run together with the notes and warnings it left behind;
* `Step.run`: one step, with its report.
-/

namespace Narrowing.Script

open Menagerie

/-- **What is told of an object**: truth values and the empty value as such, and anything
else by its written form. -/
inductive Reply where
  | truth (b : Bool)
  | empty
  | shown (text : String)
deriving DecidableEq, Repr

/-- What is told of an object. -/
def replyOf : Value → Except Fault Reply
  | .bool b => .ok (.truth b)
  | .none => .ok .empty
  | v => do return .shown (← v.display)

/-- A run that reports its outcome. A malformed recipe is no outcome. -/
def attempt {β : Type} (x : Run β) : Run (Except Fault β) :=
  tryCatch (do return .ok (← x)) fun f => do
    if f.kind = .malformed then throw f else return .error f

/-- **A run together with what it left behind.** -/
structure Observation (β : Type) where
  outcome : Except Fault β
  notes : List String
  warnings : List String

/-- **A run observed.** What was left behind before it does not count. -/
def observe {β : Type} (x : Run β) : Run (Observation β) := do
  modify fun session => { session with history := [] }
  let outcome ← attempt x
  let session ← get
  return ⟨outcome, session.notes, session.warnings⟩

/-- What a refinement looks like. -/
structure Description where
  name : String
  qualname : String
  doc : Option String
  wraps : Bool
  extras : List (String × String)
deriving DecidableEq, Repr

/-- **A step.** -/
inductive Step where
  | bind (name : String) (r : Recipe)
  | define (name : String) (d : Draft)
  | call (d : Draft) (r : Recipe)
  | sweep (d : Draft) (rs : List Recipe)
  | keep (d : Draft) (rs : List Recipe)
  | describe (d : Draft)
  | compare (a b : Draft)
  | malformed (text : String)

/-- **The report of a step.** -/
inductive Report where
  | shown (text : String)
  | done
  | called (o : Observation Reply)
  | swept (os : List (Observation Reply))
  | kept (o : Observation (List String))
  | described (d : Description)
  | compared (same : Bool)
  | failed (f : Fault)

/-- The answer of a refinement to an object that is made for it. -/
def answer (p : Predicate) (r : Recipe) : Run Reply := do
  let v ← r.make
  let answer ← runPredicate p v
  Eval.ofExcept (replyOf answer)

/-- The written forms of the objects that a refinement accepts. -/
def keepAccepted (p : Predicate) : List Recipe → Run (List String)
  | [] => pure []
  | r :: rs => do
      let v ← r.make
      let answer ← runPredicate p v
      if ← Eval.ofExcept answer.truth then
        let shown ← Eval.ofExcept v.display
        let others ← keepAccepted p rs
        return shown :: others
      else keepAccepted p rs

/-- **The description of a profile**, where names that are not there are refused. Attributes
that are not for outsiders are left out, and the others come in the order of their names. -/
def describeProfile (refuse : String → Except Fault String) (p : Profile Value) :
    Except Fault Description := do
  let name ← p.name.text?.elim (refuse "__name__") .ok
  let qualname ← p.qualname.text?.elim (refuse "__qualname__") .ok
  let own := p.extras.filter fun entry => !entry.1.startsWith "__"
  let sorted := own.mergeSort fun a b => decide (a.1 ≤ b.1)
  let extras ← sorted.mapM fun entry => do
    let shown ← entry.2.display
    return (entry.1, shown)
  return ⟨name, qualname, p.doc, p.wraps, extras⟩

/-- The description of a refinement. -/
def describePredicate (p : Predicate) : Except Fault Description := do
  let refuse (field : String) : Except Fault String :=
    match p with
    | .function (.object v) => v.missing field
    | _ => missingAttribute "function" field
  describeProfile refuse (← p.profile model Function.profile)

/-- A step reported, or the fault that it ended in. -/
def reported (x : Run Report) : Run Report := do
  match ← attempt x with
  | .ok report => return report
  | .error f => return .failed f

namespace Step

/-- **One step run.** -/
def run : Step → Run Report
  | bind name r => reported do
      let v ← r.make
      bindObject name v
      return .shown (← Eval.ofExcept v.display)
  | define name d => reported do
      let p ← d.build
      Script.define name p
      return .done
  | call d r => do return .called (← observe do answer (← d.build) r)
  | sweep d rs => reported do
      let p ← d.build
      return .swept (← rs.mapM fun r => observe (answer p r))
  | keep d rs => do return .kept (← observe do keepAccepted (← d.build) rs)
  | describe d => reported do
      return .described (← Eval.ofExcept (describePredicate (← d.build)))
  | compare a b => reported do
      let p ← a.build
      return .compared (isSame p (← b.build))
  | malformed problem => Script.malformed problem

end Step

/-- Steps run one after the other. -/
def runSteps : List Step → Run (List Report)
  | [] => pure []
  | s :: ss => do
      let report ← s.run
      let others ← runSteps ss
      return report :: others

end Narrowing.Script
