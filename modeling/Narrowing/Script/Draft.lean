import Narrowing.Script.Profiles

/-!
# Drafts

A refinement or a classifier is written down as a **draft**, and `Draft.build` builds what
it stands for, part by part in the order in which the parts are written. Whatever is built
is new, save for what a name stands for and for the one refinement of the empty value.
-/

namespace Narrowing.Script

open Menagerie

/-- **How a refinement or a classifier is built.** -/
inductive Draft where
  | named (name : String)
  | function (name qualname : String) (doc : Option String) (attributes : List String)
      (given : List Recipe) (body : Body)
  /-- An object that can be called; without a written form, it refuses to be written. -/
  | callable (shown : Option String) (attributes : List String) (given : List Recipe) (body : Body)
  | object (r : Recipe)
  | published (name : String)
  | classified (classifier : Draft) (target : Option TargetRecipe) (settings : Option Recipe)
  | all (stages : List Draft)
  | any (siblings : List Draft)
  | complement (inner : Draft)
  | instances (targets : List TargetRecipe)
  | values (options : List Recipe)
  | absence
  | malformed (text : String)

/-- The handle of the refinement of the empty value, which is built once. -/
def absenceHandle : Nat := 0

/-- The settings that apply by default. -/
def defaults : Run (Settings Value) := do return (← get).state.defaults

/-- A target as declared: the empty value declares none. -/
def declared (t : Target Value Species) : Option (Target Value Species) :=
  if t.isEmptyValue model then none else some t

/-- A refinement from a classifier. -/
def classify (classifier : Predicate) (target : Option (Target Value Species))
    (settings : Value) : Run Predicate := do
  let settings ← Eval.ofExcept (asSettings (← defaults) settings)
  Eval.ofExcept
    (Refinement.ofClassifier model Function.profile (← fresh) classifier settings target)

/-- The refinement of instances. -/
def instancesOf (targets : List (Target Value Species)) : Run Predicate := do
  Eval.ofExcept (Refinement.instanceOf model Function.profile (← fresh) (← defaults) targets)

/-- The refinement of listed values. -/
def valuesOf (options : List Value) : Run Predicate := do
  Eval.ofExcept (Refinement.oneOf model Function.profile (← fresh) (← defaults) options)

/-- The refinement of the empty value. -/
def absence : Run Predicate := do
  Eval.ofExcept (Refinement.absent model Function.profile absenceHandle (← defaults))

/-- The public objects that can serve as classifiers. -/
def publishedClassifier (name : String) : Run Predicate :=
  match name with
  | "hit" => pure (.function .hit)
  | "Hit" => pure (.function (.object (.ofSpecies .hit)))
  | "Miss" => pure (.function (.object (.ofSpecies .miss)))
  | "miss" => pure (.function (.object .miss))
  | "is_none" => absence
  | _ => throw ⟨.keyError, Text.quote name⟩

/-- The recipe of a target, where there is one. -/
def makeDeclared : Option TargetRecipe → Run (Option (Target Value Species))
  | none => pure none
  | some t => do return declared (← t.make)

/-- The recipe of settings, where there is one. -/
def makeSettings : Option Recipe → Run Value
  | none => pure .none
  | some r => r.make

namespace Draft

mutual

/-- **The refinement or classifier that a draft stands for.** -/
def build : Draft → Run Predicate
  | named name => definedPredicate name
  | function name qualname doc attributes given body => do
      let made ← Recipe.makeEach given
      let bare := Profile.ofFunction name qualname doc []
      let profile ← Eval.ofExcept (bare.assignAllChecked attributes made)
      return .function (.scripted (← fresh) profile body)
  | callable shown attributes given body => do
      let made ← Recipe.makeEach given
      let profile := (Profile.ofCallable shown).assignAll attributes made
      return .function (.scripted (← fresh) profile body)
  | object r => do return .function (.object (← r.make))
  | published name => publishedClassifier name
  | classified classifier target settings => do
      let built ← classifier.build
      let target ← makeDeclared target
      classify built target (← makeSettings settings)
  | all stages => do
      let built ← buildEach stages
      Eval.ofExcept (Refinement.allOf (← fresh) built)
  | any siblings => do
      let built ← buildEach siblings
      Eval.ofExcept (Refinement.anyOf (← fresh) built)
  | complement inner => do
      let built ← inner.build
      return .complement (← fresh) built
  | instances targets => do instancesOf (← TargetRecipe.makeEach targets)
  | values options => do valuesOf (← Recipe.makeEach options)
  | absence => Script.absence
  | malformed problem => Script.malformed problem

/-- The refinements that drafts stand for, in order. -/
def buildEach : List Draft → Run (List Predicate)
  | [] => pure []
  | d :: ds => do
      let built ← build d
      let others ← buildEach ds
      return built :: others

end

end Draft

/-- Whether two bare predicates are the same one. -/
def Function.isSame : Function → Function → Bool
  | scripted h _ _, scripted k _ _ => h = k
  | object v, object w => v = w
  | hit, hit => true
  | _, _ => false

/-- **Whether two refinements are the same one.** -/
def isSame (p q : Predicate) : Bool :=
  match p, q with
  | .function f, .function g => f.isSame g
  | p, q => p.handle?.isSome && p.handle? = q.handle?

end Narrowing.Script
