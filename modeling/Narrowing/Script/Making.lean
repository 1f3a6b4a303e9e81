import Narrowing.Menagerie.Conversion
import Narrowing.Menagerie.Environment
import Narrowing.Menagerie.Operators
import Narrowing.Script.Machine
import Narrowing.Signature

/-!
# Following recipes

`Recipe.make` makes the object that a recipe stands for, part by part in the order in which
they are written, and `TargetRecipe.make` makes a target.

* `settingsSignature`: the arguments that settings take;
* `asSettings`: an object in the place of settings.
-/

namespace Narrowing.Script

open Menagerie

/-- What is wrong with a recipe that is malformed. -/
def malformed {β : Type} (text : String) : Run β := throw ⟨.malformed, text⟩

/-- **The arguments that settings take.** -/
def settingsSignature : Signature :=
  ⟨"Runtime.__init__", [], ["debug", "strict"], [], false, true⟩

/-- Settings from arguments. What is left out is off. -/
def settingsOf (places : List Value) (named : List (String × Value)) :
    Except Fault (Settings Value) := do
  let arguments ← settingsSignature.bind places named
  let switch (name : String) := (arguments.find? name).getD (.bool false)
  return ⟨switch "debug", switch "strict"⟩

/-- Settings as an object. -/
def settingsObject (identity : Nat) (s : Settings Value) : Value :=
  .settings (.token identity) s.debug s.strict

/-- **An object in the place of settings**: the empty value stands for the settings that
apply by default. -/
def asSettings (defaults : Settings Value) (v : Value) : Except Fault (Settings Value) :=
  match v with
  | .settings _ debug strict => .ok ⟨debug, strict⟩
  | .none => .ok defaults
  | v => v.missing "checks_enabled"

/-- The species of creatures under a name. -/
def creatureSpecies (name : String) : Run Species :=
  match (Species.ofName? name).filter Species.isCreature with
  | some s => pure s
  | none => throw ⟨.keyError, Text.quote name⟩

/-- The species under a name. -/
def namedSpecies (name : String) : Run Species :=
  match Species.ofName? name with
  | some s => pure s
  | none => throw ⟨.keyError, Text.quote name⟩

namespace Recipe

mutual

/-- **The object that a recipe stands for.** -/
def make : Recipe → Run Value
  | none => pure .none
  | bool b => pure (.bool b)
  | int n => do return .ofInt (← fresh) n
  | text s => do return .ofString (← fresh) s
  | reference name => boundObject name
  | float written => do Eval.ofExcept ((Value.ofText written).toNumber (← fresh))
  | octets bs => do return .ofOctets (← fresh) bs
  -- parts are made first, so that they are older than the whole
  | sequence sort items => do
      let made ← makeEach items
      return .ofItems (← fresh) sort made
  | dict parts => do
      let kept ← makeEntries [] parts
      return .dict (.token (← fresh)) (kept.map Prod.fst) (kept.map Prod.snd)
  | creature name label => do
      let s ← creatureSpecies name
      let made ← label.make
      return .creature (.token (← fresh)) s made
  | textHeir s => do return .atom (.text (.token (← fresh)) true s)
  | intHeir n => do return .atom (.int (.token (← fresh)) true n)
  | color c => pure (.atom (.color c))
  | level l => pure (.atom (.level l))
  | species name => do return .ofSpecies (← namedSpecies name)
  | hit sort payload => do
      let made ← payload.make
      return .hit (.token (← fresh)) sort made
  | miss => pure .miss
  | newMiss => do return .atom (.miss (.token (← fresh)) .own)
  | missHeir => do return .atom (.miss (.token (← fresh)) (.heir "SubMiss"))
  | liar claim => do return .atom (.liar (.token (← fresh)) claim)
  | settings places names named => do
      let made ← makeEach places
      let madeNamed ← makeEach named
      let built ← Eval.ofExcept (settingsOf made (names.zip madeNamed))
      return settingsObject (← fresh) built
  | settingsFrom keys entries => do
      let made ← makeEach entries
      let built ← Eval.ofExcept (Settings.ofEntries Value.flag (keys.zip made))
      return settingsObject (← fresh) (built.map .bool)
  | malformed problem => Script.malformed problem

/-- The objects that recipes stand for, in order. -/
def makeEach : List Recipe → Run (List Value)
  | [] => pure []
  | r :: rs => do
      let made ← make r
      let others ← makeEach rs
      return made :: others

/-- The entries of a dictionary, each put in its place as soon as it is made. -/
def makeEntries (kept : List (Value × Value)) : List Recipe → Run (List (Value × Value))
  | key :: value :: rest => do
      let k ← make key
      let v ← make value
      makeEntries (← Eval.ofExcept (Value.insertEntry k v kept)) rest
  | _ => pure kept

end

end Recipe

namespace OptionRecipe

mutual

/-- The options that an option stands for: literals within literals are flattened. -/
def make : OptionRecipe → Run (List Value)
  | option r => do return [← r.make]
  | literal options => do
      match Target.literalOf model (← makeEach options) with
      | .literal kept => return kept
      | _ => return []

/-- The options that several options stand for. -/
def makeEach : List OptionRecipe → Run (List Value)
  | [] => pure []
  | o :: os => do
      let made ← make o
      let others ← makeEach os
      return made ++ others

end

end OptionRecipe

namespace TargetRecipe

mutual

/-- **The target that a recipe stands for.** -/
def make : TargetRecipe → Run (Target Value Species)
  | named name =>
      match namedTarget? name with
      | some t => pure t
      | none => throw ⟨.keyError, Text.quote name⟩
  | object r => do return (← r.make).asTarget
  | tuple members => do return .tuple .plain (← makeEach members)
  | literal options => do return Target.literalOf model (← OptionRecipe.makeEach options)
  | spelled members => do Eval.ofExcept (Target.spelled model operators (← makeEach members))
  | optional member => do Eval.ofExcept (Target.optional model operators (← make member))
  | piped members => do Eval.ofExcept (Target.piped model operators (← makeEach members))
  | annotated base notes => do
      let made ← make base
      Eval.ofExcept (Target.annotate model made (← Recipe.makeEach notes))
  | subscripted head arguments => do
      let made ← make head
      Eval.ofExcept (Target.subscript model operators made (← makeEach arguments))
  | malformed problem => Script.malformed problem

/-- The targets that recipes stand for, in order. -/
def makeEach : List TargetRecipe → Run (List (Target Value Species))
  | [] => pure []
  | t :: ts => do
      let made ← make t
      let others ← makeEach ts
      return made :: others

end

end TargetRecipe

end Narrowing.Script
