import Narrowing.Script.Draft
import Narrowing.Script.Evaluation

/-!
# The catalogue

The public names of the library, and what comes of calling them with objects. Each function
has a signature, which is the first thing a call is checked against.

* `publicNames`, `version`: what is public;
* `callPublic`: a public name called.
-/

namespace Narrowing.Script

open Menagerie

/-- **The public names**, in order. -/
def publicNames : List String :=
  ["ClassifierContractError", "Hit", "Miss", "Refinement", "RefinementContractWarning", "Result",
    "Runtime", "T", "U", "V", "W", "X", "Y", "compose", "create", "either", "hit", "instance_of",
    "is_none", "miss", "negate", "not_", "one_of", "refinement"]

/-- The version of the library. -/
def version : String := "0.1.0"

/-- **What comes of a call**: an object, a refinement, or something that is only written. -/
inductive Product where
  | object (v : Value)
  | predicate (p : Predicate)
  | written (text : String)

/-- Arguments by name. -/
abbrev Named : Type := List (String × Value)

/-- The signature of the function that builds refinements from classifiers. -/
def createSignature : Signature :=
  ⟨"create", ["classify"], [], ["narrows_to", "runtime"], false, false⟩

/-- The signature of its form as a decorator. -/
def refinementSignature : Signature :=
  ⟨"refinement", [], ["classify"], ["narrows_to", "runtime"], false, false⟩

/-- The signature of the function that reads settings from an environment. -/
def fromEnvironmentSignature : Signature := ⟨"Runtime.from_env", [], ["environ"], [], false, true⟩

/-- An object as a refinement. -/
def asPredicate (v : Value) : Predicate := .function (.object v)

/-- The refinement that arguments ask for. -/
def createFrom (a : Arguments Value) (classifier : Value) : Run Product := do
  let target := (a.find? "narrows_to").getD .none
  let settings := (a.find? "runtime").getD .none
  return .predicate (← classify (asPredicate classifier) (declared target.asTarget) settings)

/-- Settings from an environment that is an object; without one, from an empty one. -/
def readEnvironment (environment : Value) : Run Value := do
  let read ← Eval.ofExcept <|
    match environment with
    | .none => .ok ⟨false, false⟩
    | v => v.readSettings
  return settingsObject (← fresh) (read.map .bool)

/-- The call of a kind of fault: it is written with its arguments. -/
def writeFault (name : String) (args : List Value) (named : Named) : Except Fault String := do
  if !named.isEmpty then typeFault s!"{name}() takes no keyword arguments"
  let shown ← Value.displayEach args
  let inside := Text.commas shown
  return s!"{name}({inside})"

/-- A bound argument. -/
def argument (a : Arguments Value) (name : String) : Value := (a.find? name).getD .none

/-- **A public name called.** -/
def callPublic (name : String) (args : List Value) (named : Named) : Run Product :=
  match name with
  | "hit" => do
      let a ← Eval.ofExcept ((Signature.ofRequired "hit" ["value"]).bind args named)
      return .object (.hit (.token (← fresh)) .own (argument a "value"))
  | "Hit" => do
      let signature := { Signature.ofRequired "Hit.__init__" ["value"] with receiver := true }
      let a ← Eval.ofExcept (signature.bind args named)
      return .object (.hit (.token (← fresh)) .own (argument a "value"))
  | "Miss" =>
      if args.isEmpty && named.isEmpty then do return .object (← Recipe.newMiss.make)
      else refuse "Miss() takes no arguments"
  | "miss" => refuse "'Miss' object is not callable"
  | "Runtime" => do
      let s ← Eval.ofExcept (settingsOf args named)
      return .object (settingsObject (← fresh) s)
  | "from_env" => do
      let a ← Eval.ofExcept (fromEnvironmentSignature.bind args named)
      return .object (← readEnvironment (argument a "environ"))
  | "create" => do
      let a ← Eval.ofExcept (createSignature.bind args named)
      createFrom a (argument a "classify")
  | "refinement" => do
      let a ← Eval.ofExcept (refinementSignature.bind args named)
      match argument a "classify" with
      | .none => return .written "<function refinement.<locals>.decorator>"
      | classifier => createFrom a classifier
  | "compose" => do
      let a ← Eval.ofExcept ((Signature.ofGathering name).bind args named)
      let built := Refinement.allOf (← fresh) (a.gathered.map asPredicate)
      return .predicate (← Eval.ofExcept built)
  | "either" => do
      let a ← Eval.ofExcept ((Signature.ofGathering name).bind args named)
      let built := Refinement.anyOf (← fresh) (a.gathered.map asPredicate)
      return .predicate (← Eval.ofExcept built)
  | "not_" | "negate" => do
      let a ← Eval.ofExcept ((Signature.ofRequired "not_" ["refinement"]).bind args named)
      return .predicate (.complement (← fresh) (asPredicate (argument a "refinement")))
  | "instance_of" => do
      let a ← Eval.ofExcept ((Signature.ofGathering name).bind args named)
      return .predicate (← instancesOf (a.gathered.map Value.asTarget))
  | "one_of" => do
      let a ← Eval.ofExcept ((Signature.ofGathering name).bind args named)
      return .predicate (← valuesOf a.gathered)
  | "is_none" => do
      let a ← Eval.ofExcept ((Signature.ofRequired "_classify_none" ["candidate"]).bind args named)
      return .object (← runPredicate (← absence) (argument a "candidate"))
  | "ClassifierContractError" | "RefinementContractWarning" => do
      return .written (← Eval.ofExcept (writeFault name args named))
  | "Refinement" =>
      refuse "Can't instantiate abstract class Callable with abstract method __call__"
  | "Result" => refuse "Cannot instantiate typing.Union"
  | "T" | "U" | "V" | "W" | "X" | "Y" => refuse "'TypeVar' object is not callable"
  | _ => throw ⟨.keyError, Text.quote name⟩

/-- The written form of a refinement, or the object that it is. -/
def productReply (p : Product) : Except Fault (Value ⊕ String) :=
  match p with
  | .object v => .ok (.inl v)
  | .written text => .ok (.inr text)
  | .predicate (.function (.object v)) => .ok (.inl v)
  | .predicate p => do
      let profile ← p.profile model Function.profile
      return .inr (← profile.shown)

end Narrowing.Script
