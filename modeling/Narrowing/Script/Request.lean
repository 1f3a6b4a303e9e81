import Narrowing.Menagerie.Attributes
import Narrowing.Script.Catalogue
import Narrowing.Script.Step

/-!
# Requests

A request names some objects, says which flags are set in the environment, and asks one
thing: whether an object meets a target, whether an outcome keeps the contract, what
settings look like, how two objects compare, what becomes of an attribute, what a public
name answers, or what a script reports. `Request.answer` answers it.
-/

namespace Narrowing.Script

open Menagerie

/-- Where settings are read from. -/
inductive Source where
  /-- A mapping. -/
  | entries (keys : List String) (values : List Recipe)
  /-- The variables of the process. -/
  | process (entries : List (String × String))
  /-- Any object. -/
  | object (r : Recipe)

/-- **What can be asked.** -/
inductive Inquiry where
  | meets (object : Recipe) (target : TargetRecipe)
  | keepsContract (outcome candidate : Recipe) (target : Option TargetRecipe)
  | readSettings (source : Source)
  | settings (r : Recipe)
  | compare (a b : Recipe)
  | change (object : Recipe) (attributeName : String) (value : Option Recipe)
  | callPublic (name : String) (args : List Recipe) (names : List String) (named : List Recipe)
  | exports
  | script (steps : List Step)
  | malformed (text : String)

/-- **A request.** -/
structure Request where
  environment : List (String × String)
  bindings : List (String × Recipe)
  policy : WarningPolicy
  inquiry : Inquiry

/-- What settings look like. -/
structure SettingsReport where
  shown : String
  debug : Reply
  strict : Reply
  checksEnabled : Reply
deriving DecidableEq, Repr

/-- How two objects compare. -/
structure Comparison where
  shownLeft : Except Fault String
  shownRight : Except Fault String
  equal : Except Fault Reply
  unequal : Except Fault Reply
  sameFingerprint : Except Fault Bool
  same : Bool
  leftIsHit : Bool
  leftIsMiss : Bool

/-- What is public. -/
structure Exports where
  names : List String
  version : String
  negateIsComplement : Bool
  defaults : String
deriving DecidableEq, Repr

/-- **Answers.** -/
inductive Answer where
  | truth (b : Bool)
  | inOrder
  | settings (s : SettingsReport)
  | comparison (c : Comparison)
  | changed (attempt : Except Fault Unit) (after : Except Fault String)
  | reply (r : Reply)
  | exports (e : Exports)
  | reports (rs : List Report)
  | failed (f : Fault)

/-- **What settings look like.** Anything else has no switches to show. -/
def reportSettings (v : Value) : Except Fault SettingsReport := do
  let shown ← v.display
  match v with
  | .settings _ debug strict =>
      let debugReply ← replyOf debug
      let strictReply ← replyOf strict
      let enabled ← (Settings.mk debug strict).checksEnabled model
      return ⟨shown, debugReply, strictReply, ← replyOf enabled⟩
  | _ => v.missing "debug"

/-- **How two objects compare.** -/
def compareObjects (a b : Value) : Comparison where
  shownLeft := a.display
  shownRight := b.display
  equal := do replyOf (← a.equal b)
  unequal := do replyOf (← a.unequal b)
  sameFingerprint := do
    let left ← a.fingerprint
    let right ← b.fingerprint
    return left = right
  same := a = b
  leftIsHit := a.isHit
  leftIsMiss := a.isMiss

/-- An attempt to change an attribute, and the object afterwards. -/
def changeObject (v : Value) (a : Menagerie.Attempt) : Answer :=
  let before := Subject.ofValue v
  match before.attempt a with
  | .ok after => .changed (.ok ()) after.display
  | .error f => .changed (.error f) before.display

/-- Settings read from a source. -/
def Source.read : Source → Run Value
  | entries keys values => (Recipe.settingsFrom keys values).make
  | process vs => do
      Eval.ofExcept (Environment.checkVariables vs)
      let read ← Eval.ofExcept (Settings.ofVariables vs)
      return settingsObject (← fresh) (read.map .bool)
  | object r => do readEnvironment (← r.make)

/-- What is public, with the settings that apply by default. -/
def exportsOf (defaults : Settings Value) : Except Fault Exports := do
  let shown ← (settingsObject 0 defaults).display
  return ⟨publicNames, version, true, shown⟩

namespace Inquiry

/-- **An inquiry answered.** -/
def answer : Inquiry → Run Answer
  | meets object target => do
      let v ← object.make
      let t ← target.make
      return .truth (← Eval.ofExcept (t.accepts model v))
  | keepsContract outcome candidate target => do
      let result ← outcome.make
      let c ← candidate.make
      let t ← makeDeclared target
      Eval.ofExcept (Contract.check model result c t)
      return .inOrder
  | readSettings source => do
      return .settings (← Eval.ofExcept (reportSettings (← source.read)))
  | settings r => do return .settings (← Eval.ofExcept (reportSettings (← r.make)))
  | compare a b => do
      let left ← a.make
      return .comparison (compareObjects left (← b.make))
  | change object name value => do
      let v ← object.make
      match value with
      | none => return changeObject v (.remove name)
      | some r => return changeObject v (.assign name (← r.make))
  | callPublic name args names named => do
      let made ← Recipe.makeEach args
      let madeNamed ← Recipe.makeEach named
      let product ← Script.callPublic name made (names.zip madeNamed)
      match ← Eval.ofExcept (productReply product) with
      | .inl v => return .reply (← Eval.ofExcept (replyOf v))
      | .inr text => return .reply (.shown text)
  | exports => do return .exports (← Eval.ofExcept (exportsOf (← defaults)))
  | script steps => do return .reports (← runSteps steps)
  | malformed problem => Script.malformed problem

end Inquiry

namespace Request

/-- Names bound in order. -/
def bindAll : List (String × Recipe) → Run Unit
  | [] => pure ()
  | (name, r) :: rest => do
      let v ← r.make
      bindObject name v
      bindAll rest

/-- **A request answered.** -/
def answer (r : Request) : Answer :=
  match Settings.ofVariables r.environment with
  | .error f => .failed f
  | .ok defaults =>
      let session : Session State Value := ⟨r.policy, [], .initial (defaults.map .bool)⟩
      let run : Run Answer := do
        bindAll r.bindings
        r.inquiry.answer
      match (run.run session).1 with
      | .ok a => a
      | .error f => .failed f

end Request

end Narrowing.Script
