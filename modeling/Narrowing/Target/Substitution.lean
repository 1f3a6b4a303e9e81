import Narrowing.Target.Construction

/-!
# Filling parameters

A form with parameters in it is open: it can be given arguments again, one for each of its
parameters in the order in which they first appear, and each parameter is replaced by its
argument wherever it stands.

* `Target.parameters`: the parameters of a form;
* `Target.fill`: a form with its parameters replaced;
* `Target.fillWith`: an open form given arguments.
-/

namespace Narrowing

namespace Target

variable {α κ : Type} [DecidableEq α] [DecidableEq κ] (M : ObjectModel α κ) (O : Operators α κ)

/-- The parameters of the species that an object is a plain member of. Nothing can be put in
their place. -/
def ownParameters (v : α) : List Uncheckable :=
  match O.arity (M.speciesOf v) with
  | .exactly count =>
      (List.range count).map fun i =>
        .parameter s!"{(M.title (M.speciesOf v)).reference}.{i}" false
  | _ => []

/-- Parameters without those that are there twice. -/
def once (ps : List Uncheckable) : List Uncheckable := ps.eraseDups

mutual

/-- **The parameters of a form**, in the order in which they first appear. What stands in a
tuple or in a list is not looked at. -/
def parameters : Target α κ → List Uncheckable
  | uncheckable (.parameter name covariant) => [.parameter name covariant]
  | object v => ownParameters M O v
  | literal os => once (os.flatMap (ownParameters M O))
  | union _ ms => once (parametersOfEach ms)
  | subscripted _ ts => once (parametersOfEach ts)
  | annotated base _ => parameters base
  | _ => []

/-- The parameters of forms one after the other. -/
def parametersOfEach : List (Target α κ) → List Uncheckable
  | [] => []
  | t :: ts => parameters t ++ parametersOfEach ts

end

/-- What stands for the parameters. -/
abbrev Assignment (α κ : Type) : Type := List (Uncheckable × Target α κ)

/-- What stands for a parameter. A parameter that nothing stands for stays. -/
def Assignment.find (a : Assignment α κ) (p : Uncheckable) : Target α κ :=
  match a.find? fun entry => entry.1 = p with
  | some entry => entry.2
  | none => uncheckable p

/-- Whether a form converts its arguments before it looks at them. -/
def converts : Target α κ → Bool
  | subscripted head _ => !head.isBuiltin
  | union style _ => style = .spelled
  | annotated _ _ => true
  | _ => false

/-- An assignment as a form sees it: for its own parameters alone, and converted if the form
converts arguments. -/
def narrowTo (a : Assignment α κ) (t : Target α κ) : Except Fault (Assignment α κ) :=
  (parameters M O t).mapM fun p => do
    if converts t then return (p, ← convert M (a.find p)) else return (p, a.find p)

/-- The members of a tuple, in the place of the tuple. -/
def unpacked : Target α κ → List (Target α κ)
  | tuple _ ms => ms
  | t => [t]

/-- A form given its head and its filled arguments. What something is called with may have
become a single tuple or list, which then stands for all of it. -/
def refilled (head : Head κ) (ts : List (Target α κ)) : Except Fault (Target α κ) :=
  match head, ts with
  | .signature true _, _ => .ok (subscripted head (ts.flatMap unpacked))
  | .signature false _, tuple _ ms :: rest | .signature false _, list ms :: rest =>
      match rest with
      | [result] => .ok (subscripted head (ms ++ [result]))
      | _ => typeFault "Callable must be used as Callable[[arg, ...], result]."
  | _, _ => .ok (subscripted head ts)

mutual

/-- **A form with its parameters replaced.** A form without parameters stays as it is, and
what replaces a parameter has to be a valid argument. -/
def fill (a : Assignment α κ) (t : Target α κ) : Except Fault (Target α κ) :=
  match t with
  | uncheckable (.parameter name covariant) =>
      asArgument M "Parameters to generic types must be types." false
        (a.find (.parameter name covariant))
  | object v =>
      if (ownParameters M O v).isEmpty then .ok (object v)
      else typeFault s!"'{M.speciesName v}' object is not subscriptable"
  | literal os =>
      match os.find? fun o => !(ownParameters M O o).isEmpty with
      | some o => typeFault s!"'{M.speciesName o}' object is not subscriptable"
      | none => .ok (literal os)
  | union style ms => do
      -- a form without parameters is not built again, and so is not checked again
      let own ← narrowTo M O a (union style ms)
      if own.isEmpty then return union style ms
      let filled ← fillEach own ms
      match style with
      | .spelled => spelled M O filled
      | .piped => piped M O filled
  | subscripted head ts => do
      let own ← narrowTo M O a (subscripted head ts)
      if own.isEmpty then return subscripted head ts
      refilled head (← fillEach own ts)
  | annotated base notes => do
      let own ← narrowTo M O a (annotated base notes)
      if own.isEmpty then return annotated base notes
      withNotes M (← fill own base) notes
  | other => .ok other

/-- Forms with their parameters replaced, in order. -/
def fillEach (a : Assignment α κ) : List (Target α κ) → Except Fault (List (Target α κ))
  | [] => .ok []
  | t :: ts => do
      let filled ← fill a t
      return filled :: (← fillEach a ts)

end

/-- The number of arguments against the number of parameters. -/
def checkCount (shown : String) (actual expected : Nat) : Except Fault Unit :=
  if actual = expected then .ok ()
  else
    let fault := if expected < actual then "many" else "few"
    typeFault s!"Too {fault} arguments for {shown}; actual {actual}, expected {expected}"

/-- A single tuple of arguments is as good as the arguments. -/
def spread : List (Target α κ) → List (Target α κ)
  | [tuple _ ms] => ms
  | ts => ts

/-- A form whose base says that it is the same as a special form takes no arguments. -/
def refuseClaim : Target α κ → Except Fault Unit
  | annotated (object v) notes => do
      if ← claimsForm M v then
        let shown ← display M (annotated (object v) notes)
        typeFault s!"Cannot subscript already-subscripted {shown}"
  | _ => .ok ()

/-- **An open form given arguments**: one for each of its parameters. -/
def fillWith (t : Target α κ) (ts : List (Target α κ)) : Except Fault (Target α κ) := do
  refuseClaim M t
  let own := parameters M O t
  if own.isEmpty then
    let shown ← display M t
    typeFault s!"{shown} is not a generic class"
  let given ← if converts t then (spread ts).mapM (convert M) else pure (spread ts)
  if given.length ≠ own.length then
    let shown ← display M t
    checkCount shown given.length own.length
  fill M O (own.zip given) t

end Target

end Narrowing
