import Narrowing.ObjectModel

/-!
# Targets

A **target** (`narrows_to`) says what a hit is supposed to be narrowed to: a species, several
alternatives (a tuple, `Union`, `|`, `Optional`), a set of literal options (`Literal`), a form
with arguments or notes (`Annotated`), or something nothing can be checked against.

* `Target`: the forms a target takes;
* `Head`: what takes arguments;
* `Target.underlying`: the species that stands behind a form, where there is one (`get_origin`).
-/

namespace Narrowing

/-- Alternatives are written out in full, or joined by bars. -/
inductive UnionStyle where
  | spelled
  | piped
deriving DecidableEq, Repr

/-- A form that only qualifies a declaration. -/
inductive Qualifier where
  | classVar
  | final
deriving DecidableEq, Repr

/-- Forms with no species behind them: nothing can be checked against them. -/
inductive Uncheckable where
  | parameter (name : String) (covariant : Bool)
  | newtype (path : String) (name : String)
  | forward (name : String)
  | never
  | qualifier (q : Qualifier)
deriving DecidableEq, Repr

/-- A tuple is written with its members alone, or as one of a species of tuples whose
places have names. -/
inductive TupleStyle where
  | plain
  | named (name : String) (places : List String)
deriving DecidableEq, Repr

/-- What takes the arguments of a subscripted form: a built-in species, the long
name of one, a species declared with parameters, or a qualifier. The species of things
that can be called, under its own or its long name, takes what they are called with and,
last, what they answer. -/
inductive Head (κ : Type) where
  | builtin (species : κ)
  | named (name : String) (species : κ)
  | declared (species : κ)
  | signature (long : Bool) (species : κ)
  | qualifier (q : Qualifier)
deriving DecidableEq, Repr

/-- **Targets** over objects `α` and species `κ`. A `list` of targets is no target that
anything meets: it stands for what something is called with. -/
inductive Target (α κ : Type) where
  | any
  | species (c : κ)
  | object (v : α)
  | tuple (style : TupleStyle) (members : List (Target α κ))
  | list (members : List (Target α κ))
  | literal (options : List α)
  | union (style : UnionStyle) (members : List (Target α κ))
  | annotated (base : Target α κ) (notes : List α)
  | bare (name : String) (c : κ)
  | subscripted (head : Head κ) (arguments : List (Target α κ))
  | uncheckable (u : Uncheckable)

namespace TupleStyle

/-- The name of the species of a tuple. -/
def speciesName : TupleStyle → String
  | plain => "tuple"
  | named name _ => name

end TupleStyle

namespace Qualifier

/-- The name of a qualifier. -/
def name : Qualifier → String
  | classVar => "ClassVar"
  | final => "Final"

end Qualifier

namespace Head

/-- The species behind a head. A qualifier has none. -/
def species? {κ : Type} : Head κ → Option κ
  | builtin c | named _ c | declared c | signature _ c => some c
  | qualifier _ => none

/-- A head apart from the species behind it. -/
def form {κ : Type} : Head κ → Head Unit
  | builtin _ => builtin ()
  | named name _ => named name ()
  | declared _ => declared ()
  | signature long _ => signature long ()
  | qualifier q => qualifier q

/-- Whether a head is a built-in species under its own name. -/
def isBuiltin {κ : Type} : Head κ → Bool
  | builtin _ | signature false _ => true
  | _ => false

end Head

namespace Target

/-- Several alternatives as one target: a single one stands for itself. -/
def ofAlternatives {α κ : Type} : List (Target α κ) → Target α κ
  | [t] => t
  | ts => tuple .plain ts

/-- **What a leaf is checked by**: a form with a species behind it is checked by
that species alone, whatever its arguments. -/
def underlying {α κ : Type} : Target α κ → Target α κ
  | bare _ c => species c
  | subscripted (.qualifier q) _ => uncheckable (.qualifier q)
  | subscripted (.builtin c) _ | subscripted (.named _ c) _ | subscripted (.declared c) _
  | subscripted (.signature _ c) _ => species c
  | t => t

end Target

end Narrowing
