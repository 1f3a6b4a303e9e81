import Narrowing.Target.Substitution

/-!
# Giving arguments

Arguments stand in brackets behind what takes them. A species takes them as it is declared
to, a form with parameters takes one for each parameter, and what holds members is looked
up in.

* `Target.lookUp`: the member at a place;
* `Target.subscript`: what stands in front of the brackets given what stands in them.
-/

namespace Narrowing

namespace Target

variable {α κ : Type} [DecidableEq α] [DecidableEq κ] (M : ObjectModel α κ) (O : Operators α κ)

/-- The number of arguments that goes with the long name of a built-in species. -/
def longNameCount : String → Option Nat
  | "List" | "Type" => some 1
  | "Dict" => some 2
  | _ => none

/-- The form of a target between other words. -/
def plain : Target α κ → Except Fault String
  | object v => O.plain v
  | t => display M t

/-- The refusal of anything but two arguments where one says what something is called with
and the other what it answers. -/
def signatureFault {β : Type} : Except Fault β :=
  typeFault "Callable must be used as Callable[[arg, ...], result]."

/-- What can be called with some arguments and answers with a result, under its own name.
The arguments stand in a list or in a tuple. -/
def subscriptSignature (c : κ) (ts : List (Target α κ)) : Except Fault (Target α κ) :=
  match ts with
  | [list ms, result] | [tuple _ ms, result] =>
      .ok (subscripted (.signature false c) (ms ++ [result]))
  | [t, _] => do
      let shown ← plain M O t
      typeFault s!"Expected a list of types, an ellipsis, ParamSpec, or Concatenate. Got {shown}"
  | _ => signatureFault

/-- What can be called, under its long name. A single argument needs no list. -/
def subscriptLongSignature (c : κ) (ts : List (Target α κ)) : Except Fault (Target α κ) :=
  match ts with
  | [t, result] => do
      let checked ← asArgument M "Callable[args, result]: result must be a type." false result
      let given := match t with
        | list ms | tuple _ ms => ms
        | t => [t]
      return subscripted (.signature true c) ((← given.mapM (convert M)) ++ [checked])
  | _ => signatureFault

/-- **The member at a place**, which counts from the end if it is negative. What stands for no
place is refused by the name of its species, and a place has to fit a machine word. -/
def lookUp {β : Type} (place? : α → Option Int) (refusal : String → String) (outside : String)
    (ms : List β) (key : Target α κ) : Except Fault β :=
  let place := match key with
    | object v => place? v
    | _ => none
  match place with
  | none => typeFault (refusal (kindName M key))
  | some i =>
      if i < -Int.pow 2 63 || Int.pow 2 63 ≤ i then
        .error ⟨.named "IndexError", s!"cannot fit '{kindName M key}' into an index-sized integer"⟩
      else
        let fromStart := if i < 0 then i + ms.length else i
        match if fromStart < 0 then none else ms[fromStart.toNat]? with
        | some m => .ok m
        | none => .error ⟨.named "IndexError", outside⟩

/-- A key to look up: a single argument, or a tuple of several. -/
def asKey : List (Target α κ) → Target α κ
  | [t] => t
  | ts => tuple .plain ts

/-- The member of a tuple or of a list under a key. -/
def memberUnder (kind : String) (ms : List (Target α κ)) (key : Target α κ) :
    Except Fault (Target α κ) :=
  lookUp M O.place? (fun other => s!"{kind} indices must be integers or slices, not {other}")
    s!"{kind} index out of range" ms key

/-- A species with arguments. -/
def subscriptSpecies (c : κ) (ts : List (Target α κ)) : Except Fault (Target α κ) := do
  match O.arity c with
  | .refused => typeFault s!"type '{(M.title c).name}' is not subscriptable"
  | .free => return subscripted (.builtin c) (spread ts)
  | .exactly count =>
      let checked ← (spread ts).mapM (convert M)
      let shown ← M.display (M.ofSpecies c)
      checkCount shown checked.length count
      return subscripted (.declared c) checked
  | .undeclared =>
      let _ ← (spread ts).mapM (convert M)
      let shown ← M.display (M.ofSpecies c)
      typeFault s!"{shown} is not a generic class"
  | .signature => subscriptSignature M O c (spread ts)
  | .members => O.item (M.ofSpecies c) (asKey ts)

/-- The long name of a built-in species with arguments. -/
def subscriptLongName (name : String) (c : κ) (ts : List (Target α κ)) :
    Except Fault (Target α κ) := do
  if name = "Callable" then subscriptLongSignature M c ts
  else
    let demand := if name = "Tuple" then "Tuple[t0, t1, ...]: each t must be a type."
      else "Parameters to generic types must be types."
    let checked ← ts.mapM (asArgument M demand false)
    match longNameCount name with
    | some count => checkCount s!"typing.{name}" checked.length count
    | none => pure ()
    return subscripted (.named name c) checked

/-- A qualifier with its one argument. -/
def subscriptQualifier (q : Qualifier) (ts : List (Target α κ)) : Except Fault (Target α κ) := do
  let checked ← asArgument M s!"typing.{q.name} accepts only single type." false (asKey ts)
  return subscripted (.qualifier q) [checked]

/-- **What stands in front of brackets given what stands in them.** -/
def subscript (head : Target α κ) (ts : List (Target α κ)) : Except Fault (Target α κ) :=
  match head with
  | species c => subscriptSpecies M O c ts
  | bare name c => subscriptLongName M name c (spread ts)
  | uncheckable (.qualifier q) => subscriptQualifier M q ts
  | any => typeFault "type 'Any' is not subscriptable"
  | object v => O.item v (asKey ts)
  | tuple _ ms => memberUnder M O "tuple" ms (asKey ts)
  | list ms => memberUnder M O "list" ms (asKey ts)
  | uncheckable .never => typeFault "typing.Never is not subscriptable"
  | uncheckable _ => typeFault s!"'{kindName M head}' object is not subscriptable"
  | union _ _ | literal _ | annotated _ _ | subscripted _ _ => fillWith M O head ts

end Target

end Narrowing
