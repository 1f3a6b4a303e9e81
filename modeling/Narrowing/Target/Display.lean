import Narrowing.Target
import Narrowing.Text.Listing
import Narrowing.Text.Quoted

/-!
# Writing targets

Two written forms of a target:

* `Target.display`: the full form (`repr`), in which a species inside a larger form is
  written by its reference and alternatives keep the style they were joined in;
* `Target.label`: the short form used when a payload is off target (`_describe`), in
  which a species is its path and a tuple is a list of alternatives.

Writing a target can fail, because it writes the objects it holds.
-/

namespace Narrowing

namespace TupleStyle

/-- The members of a tuple, written between parentheses. -/
def display (members : List String) : TupleStyle → String
  | plain => Text.parentheses members
  | named name places =>
      let inside := Text.commas (List.zipWith (fun place shown => s!"{place}={shown}") places members)
      s!"{name}({inside})"

end TupleStyle

namespace Head

variable {α κ : Type} (M : ObjectModel α κ)

/-- The head of a subscripted form, as written before the arguments. -/
def display : Head κ → String
  | builtin c | declared c | signature false c => (M.title c).reference
  | named n _ => s!"typing.{n}"
  | signature true c => s!"typing.{(M.title c).name}"
  | qualifier q => s!"typing.{q.name}"

end Head

namespace Uncheckable

/-- How an uncheckable form is written. -/
def display : Uncheckable → String
  | parameter n covariant => if covariant then s!"+{n}" else s!"~{n}"
  | newtype path _ => path
  | forward n => s!"ForwardRef({Text.quote n})"
  | never => "typing.Never"
  | qualifier q => s!"typing.{q.name}"

end Uncheckable

namespace Target

variable {α κ : Type} (M : ObjectModel α κ)

/-- Objects in brackets: one that is a species is written by its reference. -/
def displayOption (v : α) : Except Fault String :=
  match M.asSpecies v with
  | some c => .ok (M.title c).reference
  | none => M.display v

/-- Items between brackets; no items are written as an empty pair of parentheses. -/
def bracketed : List String → String
  | [] => "[()]"
  | items => Text.brackets items

variable [DecidableEq κ]

/-- Whether a target is the species of the empty value. -/
def isNoneSpecies : Target α κ → Bool
  | species c => c = M.noneSpecies
  | _ => false

/-- Whether an alternative counts as the species of the empty value: it is that species, or
an object that says that it is the same. -/
def countsAsNoneSpecies : Target α κ → Bool
  | object v => (do M.truth (← M.equal v (M.ofSpecies M.noneSpecies))).toOption == some true
  | t => isNoneSpecies M t

/-- Alternatives written in full. A pair of which one is the species of the empty
value is written as an option, and one of which an object says that it is that species is
named as one. -/
def displaySpelled (ms : List (Target α κ)) (shown : List String) : String :=
  match ms, shown with
  | [a, b], [shownA, shownB] =>
      if isNoneSpecies M a then s!"typing.Optional[{shownB}]"
      else if isNoneSpecies M b then s!"typing.Optional[{shownA}]"
      else if countsAsNoneSpecies M a || countsAsNoneSpecies M b then
        s!"typing.Optional[{shownA}, {shownB}]"
      else s!"typing.Union[{shownA}, {shownB}]"
  | _, _ => s!"typing.Union{bracketed shown}"

/-- Whether what something is called with is a single argument that stands for all of
them: a list and, under the long name, a tuple. -/
def isArgumentList (long : Bool) : Target α κ → Bool
  | list _ => true
  | tuple _ _ => long
  | _ => false

/-- A form with arguments, given the head and the arguments as written. What something is
called with is a list of its own, unless a single argument stands for it. -/
def displaySubscripted (head : Head κ) (ts : List (Target α κ)) (shown : List String) : String :=
  match head, ts with
  | .signature long _, [t, _] =>
      if isArgumentList long t then head.display M ++ bracketed shown
      else head.display M ++ Text.brackets [Text.brackets shown.dropLast, shown.getLastD ""]
  | .signature _ _, _ =>
      head.display M ++ Text.brackets [Text.brackets shown.dropLast, shown.getLastD ""]
  | _, _ => head.display M ++ bracketed shown

/-- A target inside a larger form, given its full form: a species is written by its
reference there. -/
def insideForm (t : Target α κ) (full : Except Fault String) : Except Fault String :=
  match t with
  | species c => .ok (M.title c).reference
  | object v => displayOption M v
  | _ => full

/-- A target joined to others by a bar, given its full form: the species of the empty
value is written as that value. -/
def pipedForm (t : Target α κ) (full : Except Fault String) : Except Fault String :=
  if isNoneSpecies M t then .ok "None" else insideForm M t full

mutual

/-- **The full written form.** -/
def display : Target α κ → Except Fault String
  | any => .ok "typing.Any"
  | species c => M.display (M.ofSpecies c)
  | object v => M.display v
  | tuple style ms => do return style.display (← displayEach ms)
  | list ms => do return Text.brackets (← displayEach ms)
  | literal os => do return "typing.Literal" ++ bracketed (← os.mapM (displayOption M))
  | union .spelled ms => do return displaySpelled M ms (← displayInside ms)
  | union .piped ms => do return " | ".intercalate (← displayPiped ms)
  | annotated base notes => do
      let shown ← insideForm M base (display base)
      return "typing.Annotated" ++ Text.brackets (shown :: (← notes.mapM M.display))
  | bare n _ => .ok s!"typing.{n}"
  | subscripted head ts => do return displaySubscripted M head ts (← displayInside ts)
  | uncheckable u => .ok u.display

/-- Targets on their own. -/
def displayEach : List (Target α κ) → Except Fault (List String)
  | [] => .ok []
  | t :: ts => do return (← display t) :: (← displayEach ts)

/-- Targets inside a larger form. -/
def displayInside : List (Target α κ) → Except Fault (List String)
  | [] => .ok []
  | t :: ts => do return (← insideForm M t (display t)) :: (← displayInside ts)

/-- Targets joined by bars. -/
def displayPiped : List (Target α κ) → Except Fault (List String)
  | [] => .ok []
  | t :: ts => do return (← pipedForm M t (display t)) :: (← displayPiped ts)

end

mutual

/-- **The short form**: a species by its path, a tuple as its members joined by
bars, and everything else in full. -/
def label : Target α κ → Except Fault String
  | any => .ok "Any"
  | species c => .ok (M.title c).path
  | tuple _ ms => do return " | ".intercalate (← labelEach ms)
  | t => display M t

/-- Short forms on their own. They are written one at a time, while the alternatives are being
joined. -/
def labelEach : List (Target α κ) → Except Fault (List String)
  | [] => .ok []
  | t :: ts => do return (← sealedCheck (label t)) :: (← labelEach ts)

end

end Target

end Narrowing
