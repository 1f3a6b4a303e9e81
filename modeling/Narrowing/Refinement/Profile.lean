import Narrowing.Refinement
import Narrowing.Target.Display

/-!
# Profiles

What can be told of a predicate without calling it: its name (`__name__`), its qualified
name (`__qualname__`), a description (`__doc__`), and further attributes. A refinement made
from a classifier adopts the classifier's profile (`Profile.adopt`, for `functools.wraps`); a
combination has a profile of its own.

* `Profile.adopt`: what is taken over, and when it is refused;
* `Refinement.profile`: the profile of a refinement.
-/

namespace Narrowing

/-- A name that an object may have, lack, or hold something other than a text for. -/
inductive NameTag where
  | absent
  | text (s : String)
  | other
deriving DecidableEq, Repr

namespace NameTag

/-- The text of a name tag, if it holds one. -/
def text? : NameTag → Option String
  | text s => some s
  | _ => none

/-- The name tag `outer` is replaced by a name that is there, which must be a text. -/
def adopt (field : String) (outer inner : NameTag) : Except Fault NameTag :=
  match inner with
  | absent => .ok outer
  | text s => .ok (text s)
  | other => typeFault s!"{field} must be set to a string object"

end NameTag

/-- **The profile of a predicate.** `shown` is its own written form, `wraps` says that it
stands for another predicate. -/
structure Profile (α : Type) where
  name : NameTag
  qualname : NameTag
  doc : Option String
  extras : List (String × α)
  wraps : Bool
  shown : Except Fault String

namespace Profile

variable {α : Type}

/-- The profile of a plain function. -/
def ofFunction (name qualname : String) (doc : Option String) (extras : List (String × α)) :
    Profile α :=
  ⟨.text name, .text qualname, doc, extras, false, .ok s!"<function {qualname}>"⟩

/-- **The profile of a wrapper around another predicate.** -/
def adopt (outer inner : Profile α) : Except Fault (Profile α) := do
  let name ← outer.name.adopt "__name__" inner.name
  let qualname ← outer.qualname.adopt "__qualname__" inner.qualname
  let path := qualname.text?.getD ""
  let shown := s!"<function {path}>"
  return ⟨name, qualname, inner.doc, outer.extras ++ inner.extras, true, .ok shown⟩

/-- A function that is local to another one. -/
def within (owner name : String) : Profile α :=
  ofFunction name s!"{owner}.<locals>.{name}" none []

end Profile

namespace Target

variable {α κ : Type} [DecidableEq κ] (M : ObjectModel α κ)

/-- **The name of a target.** Not every form has one. -/
def name : Target α κ → Except Fault String
  | any => .ok "Any"
  | species c => .ok (M.title c).name
  | object v => missingAttribute (M.speciesName v) "__name__"
  | tuple style _ => missingAttribute style.speciesName "__name__"
  | list _ => missingAttribute "list" "__name__"
  | literal _ => .ok "Literal"
  | union .spelled [a, b] =>
      .ok (if countsAsNoneSpecies M a || countsAsNoneSpecies M b then "Optional" else "Union")
  | union .spelled _ => .ok "Union"
  | union .piped _ => missingAttribute "types.UnionType" "__name__"
  | annotated _ _ => .ok "Annotated"
  | bare n _ => .ok n
  | subscripted head _ =>
      .ok <| match head with
        | .builtin c | .declared c | .signature _ c => (M.title c).name
        | .named n _ => n
        | .qualifier q => q.name
  | uncheckable u =>
      match u with
      | .parameter n _ | .newtype _ n => .ok n
      | .forward _ => missingAttribute "ForwardRef" "__name__"
      | .never => .ok "Never"
      | .qualifier q => .ok q.name

end Target

namespace Readymade

variable {α κ : Type} [DecidableEq κ] (M : ObjectModel α κ)

/-- The profile of a ready-made classifier. -/
def profile : Readymade α κ → Except Fault (Profile α)
  | instances ts => do
      let names ← ts.mapM fun t => t.name M
      let n := "instance_of_" ++ "_or_".intercalate names
      return Profile.ofFunction n n none []
  | values _ => .ok (Profile.ofFunction "one_of" "one_of" none [])
  | absence => .ok (Profile.ofFunction "_classify_none" "_classify_none" none [])

end Readymade

namespace Refinement

variable {ι α κ : Type} [DecidableEq κ] (M : ObjectModel α κ) (ofFunction : ι → Profile α)

/-- The function that wraps a classifier, before it adopts the classifier's profile. -/
def wrapper : Contract.Checking α → Profile α
  | .off => .within "create" "refine"
  | .on _ => .within "create" "checked"

/-- **The profile of a refinement.** -/
def profile : Refinement ι α κ → Except Fault (Profile α)
  | function f => .ok (ofFunction f)
  | readymade _ r => r.profile M
  | classified _ classifier checking _ _ => do (wrapper checking).adopt (← profile classifier)
  | all _ _ => .ok (.within "compose" "composed")
  | any _ _ => .ok (.within "either" "alternated")
  | complement _ _ => .ok (.within "not_" "negated")

end Refinement

end Narrowing
