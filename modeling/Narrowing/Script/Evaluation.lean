import Narrowing.Menagerie.Calling
import Narrowing.Script.Making

/-!
# Evaluating bodies

`Body.eval` runs the body of a scripted predicate on a candidate, and `Test.eval` decides a
condition on it. Both are told how to ask a refinement by name. `runPredicate` runs a
refinement of a script: a body that asks for refinements can ask for the one it belongs to,
so the depth of such questions is bounded.
-/

namespace Narrowing.Script

open Menagerie

/-- How a refinement is asked by name. -/
abbrev Ask : Type := String → Value → Run Bool

/-- Whether a relation holds between two numbers. -/
def Relation.holds (r : Relation) (x y : Binary) : Bool :=
  match r with
  | lt => x.lt y
  | le => x.lt y || x.eq y
  | gt => y.lt x
  | ge => y.lt x || x.eq y
  | eq => x.eq y

/-- The length of an object that has one. -/
def lengthOf? : Value → Option Nat
  | .atom (.text _ _ s) => some s.length
  | .atom (.octets _ bs) => some bs.length
  | .sequence _ _ items => some items.length
  | .dict _ keys _ => some keys.length
  | _ => none

/-- The members of an ordered container. -/
def members? : Value → Option (List Value)
  | .sequence _ _ items => some items
  | _ => none

/-- A type fault in a script. -/
def refuse {β : Type} (text : String) : Run β := throw ⟨.typeError, text⟩

/-- Whether a candidate belongs to one of some species, asked from left to right. -/
def belongsToSome (c : Value) : List Species → Except Fault Bool
  | [] => .ok false
  | s :: rest => do if ← c.belongs s then return true else belongsToSome c rest

/-- Whether an asked refinement accepts all of some objects, up to the first it rejects. -/
def acceptsAll (ask : Ask) (name : String) : List Value → Run Bool
  | [] => pure true
  | v :: vs => do if ← ask name v then acceptsAll ask name vs else return false

/-- Whether an asked refinement accepts any of some objects, up to the first it accepts. -/
def acceptsAny (ask : Ask) (name : String) : List Value → Run Bool
  | [] => pure false
  | v :: vs => do if ← ask name v then return true else acceptsAny ask name vs

namespace Test

/-- The remainder of a division that rounds down. -/
def remainder (c : Value) (modulus : Int) : Run Int :=
  match c.int? with
  | some n =>
      if modulus = 0 then throw ⟨.zeroDivision, "integer modulo by zero"⟩
      else pure (n.fmod modulus)
  | none => refuse "not an integer"

mutual

/-- **A condition decided.** -/
def eval (ask : Ask) (c : Value) : Test → Run Bool
  | always verdict => pure verdict
  | isa names => do
      let species ← names.mapM namedSpecies
      Eval.ofExcept (belongsToSome c species)
  | equals r => do
      let v ← r.make
      Eval.ofExcept (do (← c.equal v).truth)
  | is r => do return c = (← r.make)
  | compares relation y =>
      match c.number? with
      | some x => pure (relation.holds x y)
      | none => refuse "not a number"
  | leaves modulus expected => do return (← remainder c modulus) = expected
  | measures relation n =>
      match lengthOf? c with
      | some l => pure (relation.holds (.ofInt l) (.ofInt n))
      | none => refuse "no length"
  | not t => do return !(← eval ask c t)
  | and ts => evalAll ask c ts
  | or ts => evalAny ask c ts
  | accepted name => ask name c
  | allAccepted name =>
      match members? c with
      | some vs => acceptsAll ask name vs
      | none => pure false
  | anyAccepted name =>
      match members? c with
      | some vs => acceptsAny ask name vs
      | none => pure false
  | malformed problem => Script.malformed problem

/-- Conditions from left to right, up to the first that fails. -/
def evalAll (ask : Ask) (c : Value) : List Test → Run Bool
  | [] => pure true
  | t :: ts => do if ← eval ask c t then evalAll ask c ts else return false

/-- Conditions from left to right, up to the first that holds. -/
def evalAny (ask : Ask) (c : Value) : List Test → Run Bool
  | [] => pure false
  | t :: ts => do if ← eval ask c t then return true else evalAny ask c ts

end

end Test

/-- The fault that a body asks for. A key is written in quotes. -/
def askedFault (kind : String) (text : Option String) : Fault :=
  match FaultKind.ofName kind, text with
  | .keyError, some s => ⟨.keyError, Text.quote s⟩
  | k, s => ⟨k, s.getD ""⟩

namespace Body

mutual

/-- **The answer of a body to a candidate.** The path leads to this part of the body. -/
def eval (ask : Ask) (handle : Nat) (c : Value) : (path : List Nat) → Body → Run Value
  | _, hit => do return .hit (.token (← fresh)) .own c
  | _, miss => pure .miss
  | _, newMiss => Recipe.newMiss.make
  | _, candidate => pure c
  | _, hitHeir => do return .hit (.token (← fresh)) (.heir "SubHit") c
  | _, missHeir => Recipe.missHeir.make
  | _, both => do return .hit (.token (← fresh)) .both c
  | _, hitWith r => do return .hit (.token (← fresh)) .own (← r.make)
  | _, give r => r.make
  | path, branch test yes no => do
      if ← test.eval ask c then eval ask handle c (0 :: path) yes
      else eval ask handle c (1 :: path) no
  | _, fault kind text => throw (askedFault kind text)
  | path, note tag next => do
      Eval.note tag
      eval ask handle c (0 :: path) next
  | path, inTurn bodies => do
      let turn ← takeTurn ⟨handle, path⟩
      evalNth ask handle c path 0 turn bodies
  | _, malformed problem => Script.malformed problem

/-- The body whose turn it is: the last one, if they have all had theirs. -/
def evalNth (ask : Ask) (handle : Nat) (c : Value) :
    (path : List Nat) → (index turn : Nat) → List Body → Run Value
  | _, _, _, [] => throw ⟨.named "IndexError", "list index out of range"⟩
  | path, index, _, [b] => eval ask handle c (index :: path) b
  | path, index, 0, b :: _ :: _ => eval ask handle c (index :: path) b
  | path, index, turn + 1, _ :: b :: bs => evalNth ask handle c path (index + 1) turn (b :: bs)

end

end Body

/-- A bare predicate called with a candidate, to a bounded depth of questions. -/
def callWithin : (depth : Nat) → Function → Value → Run Value
  | 0, _, _ => throw ⟨.named "RecursionError", "maximum recursion depth exceeded"⟩
  | depth + 1, .scripted handle _ body, c =>
      let ask (name : String) (v : Value) : Run Bool := do
        let p ← definedPredicate name
        let answer ← p.run model (callWithin depth) v
        Eval.ofExcept answer.truth
      body.eval ask handle c []
  | _, .object v, c => do Eval.ofExcept (v.call (← fresh) c)
  | _, .hit, c => do return .hit (.token (← fresh)) .own c

/-- The depth to which questions may be nested. -/
def askingDepth : Nat := 1000

/-- **The answer of a refinement to a candidate.** -/
def runPredicate (p : Predicate) (c : Value) : Run Value := p.run model (callWithin askingDepth) c

end Narrowing.Script
