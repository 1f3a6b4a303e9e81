import Narrowing.Menagerie.Targets
import Narrowing.Refinement.Construction
import Narrowing.Script.Body
import Narrowing.Session

/-!
# The machine behind scripts

A script runs over the menagerie. What it leaves behind, besides events, is a `State`: how
many objects have been made, which names stand for which objects and refinements, and how
often each place of a body has had its turn.

* `Function`: the bare predicates of scripts;
* `Run`: an evaluation of a script;
* `fresh`, `lookUp`, `takeTurn`: what it does with its state.
-/

namespace Narrowing.Script

open Menagerie (Value Species)

/-- **The bare predicates of scripts**: one with a body, any object at all, and the public
function that makes hits. A scripted one has a handle that tells it from others. -/
inductive Function where
  | scripted (handle : Nat) (profile : Profile Value) (body : Body)
  | object (v : Value)
  | hit

/-- The refinements of scripts. -/
abbrev Predicate : Type := Refinement Function Value Species

/-- A place in the body of a scripted predicate. -/
structure Place where
  handle : Nat
  path : List Nat
deriving DecidableEq, Repr

/-- **What a script leaves behind.** -/
structure State where
  supply : Nat
  bindings : List (String × Value)
  definitions : List (String × Predicate)
  turns : List (Place × Nat)
  defaults : Settings Value

/-- **Evaluations of scripts.** -/
abbrev Run (β : Type) : Type := Eval State Value β

namespace State

/-- The state before anything is run, with the settings that apply by default. -/
def initial (defaults : Settings Value) : State := ⟨1, [], [], [], defaults⟩

end State

/-- A token that has not been given out. -/
def fresh : Run Nat := do
  let session ← get
  set { session with state := { session.state with supply := session.state.supply + 1 } }
  return session.state.supply

/-- Change what is left behind. -/
def update (f : State → State) : Run Unit := modify fun session =>
  { session with state := f session.state }

/-- What a name stands for: of several entries, the last one. -/
def lookUp {β : Type} (entries : List (String × β)) (name : String) : Run β :=
  match Environment.find? entries name with
  | some b => pure b
  | none => throw ⟨.keyError, Text.quote name⟩

/-- The object that a name stands for. -/
def boundObject (name : String) : Run Value := do lookUp (← get).state.bindings name

/-- The refinement that a name stands for. -/
def definedPredicate (name : String) : Run Predicate := do lookUp (← get).state.definitions name

/-- Let a name stand for an object. -/
def bindObject (name : String) (v : Value) : Run Unit :=
  update fun s => { s with bindings := s.bindings ++ [(name, v)] }

/-- Let a name stand for a refinement. -/
def define (name : String) (p : Predicate) : Run Unit :=
  update fun s => { s with definitions := s.definitions ++ [(name, p)] }

/-- How often a place has had its turn before this one. -/
def takeTurn (place : Place) : Run Nat := do
  let turns := (← get).state.turns
  let count := ((turns.find? fun entry => entry.1 = place).map Prod.snd).getD 0
  let others := turns.filter fun entry => entry.1 ≠ place
  update fun s => { s with turns := (place, count + 1) :: others }
  return count

end Narrowing.Script
