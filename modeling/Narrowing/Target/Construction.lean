import Narrowing.Target.Display
import Narrowing.Target.Operators
import Narrowing.Target.Sameness
import Narrowing.Text.Expression

/-!
# Building targets

Targets are written down as forms over other targets. Building one flattens what is nested,
drops what is written twice, and refuses what cannot be an argument.

* `Target.asArgument`: a target as an argument of a form;
* `Target.spelled`, `Target.optional`: alternatives written out in full (`Union`, `Optional`);
* `Target.piped`: alternatives joined by bars (`|`);
* `Target.literalOf`: literal options (`Literal`);
* `Target.annotate`: a target with notes (`Annotated`).
-/

namespace Narrowing

namespace Target

variable {α κ : Type} [DecidableEq α] [DecidableEq κ] (M : ObjectModel α κ)

/-- Whether a text can stand for a target that is not there yet: it reads as an expression, or
would do so behind a star in a tuple. -/
def isForwardable (text : String) : Bool :=
  Text.isExpression (if text.startsWith "*" then "(" ++ text ++ ",)[0]" else text)

/-- A target that is not there yet. -/
def forwardOf (text : String) : Except Fault (Target α κ) :=
  if text.toList.any (·.toNat == 0) then
    .error ⟨.valueError, "source code string cannot contain null bytes"⟩
  else if isForwardable text then .ok (uncheckable (.forward text))
  else .error ⟨.named "SyntaxError",
    s!"Forward reference must be an expression -- got {Text.quote text}"⟩

/-- **A target as it is taken between brackets**: the empty value stands for its species, and
a text for a target that is not there yet. -/
def convert (t : Target α κ) : Except Fault (Target α κ) :=
  match t with
  | object v =>
      if v = M.none then .ok (species M.noneSpecies)
      else match M.textOf v with
        | some text => forwardOf text
        | none => .ok t
  | _ => .ok t

/-- Whether an object says that it is the same as a special form. -/
def claimsForm (v : α) : Except Fault Bool := M.alike (M.ofSpecies M.noneSpecies) v

/-- **A target as an argument of a form.** It is converted; an object is then compared with
the special forms. A qualifier, a note on something that is the same as a special form, or a
tuple, is refused. -/
def asArgument (demand : String) (allowQualifiers : Bool) (t : Target α κ) :
    Except Fault (Target α κ) := do
  let t ← convert M t
  match t with
  | object v => do
      let _ ← claimsForm M v
      return t
  | uncheckable (.qualifier q) =>
      if allowQualifiers then return t
      else typeFault s!"Plain typing.{q.name} is not valid as type argument"
  | subscripted (.qualifier _) _ | annotated (uncheckable (.qualifier _)) _ => do
      if allowQualifiers then return t
      let shown ← display M t
      typeFault s!"{shown} is not valid as type argument"
  | annotated (object v) _ => do
      if !(← claimsForm M v) then return t
      let shown ← display M t
      typeFault s!"{shown} is not valid as type argument"
  | tuple .plain _ => do
      let shown ← display M t
      typeFault s!"{demand} Got {shown.take 100}."
  | _ => return t

/-- The alternatives that a target stands for. -/
def alternatives : Target α κ → List (Target α κ)
  | union _ ms => ms
  | t => [t]

/-- Several alternatives in a style: a single one is itself. -/
def unionOf (style : UnionStyle) : List (Target α κ) → Target α κ
  | [t] => t
  | ts => union style ts

/-- **Members without those that are there twice.** They are compared in a set. Where one of them
cannot stand in a set, they are compared one by one if the universe has it so, and refused if
not. -/
def withoutRepeats (O : Operators α κ) (ts : List (Target α κ)) :
    Except Fault (List (Target α κ)) :=
  match hashableEach M ts with
  | .ok () => .ok (distinctBy (sameAs M) ts)
  | .error f =>
      if O.comparesUnhashable && f.kind.isTypeError then
        distinctWith (fun t kept => equal M kept t) [] ts
      else .error f

/-- **Alternatives written out in full.** Each has to be a valid argument and comparable. -/
def spelled (O : Operators α κ) (ts : List (Target α κ)) : Except Fault (Target α κ) := do
  if ts.isEmpty then typeFault "Cannot take a Union of no types."
  let checked ← ts.mapM (asArgument M "Union[arg, ...]: each arg must be a type." false)
  return unionOf .spelled (← withoutRepeats M O (checked.flatMap alternatives))

/-- **A target or the empty value.** -/
def optional (O : Operators α κ) (t : Target α κ) : Except Fault (Target α κ) := do
  let checked ← asArgument M "typing.Optional requires a single type." false t
  spelled M O [checked, species M.noneSpecies]

/-- Whether a target is the empty value itself. -/
def isEmptyValue : Target α κ → Bool
  | object v => v = M.none
  | _ => false

/-- What bars join: species, the empty value, and built-in species with arguments. -/
def isBarred : Target α κ → Bool
  | any | species _ | union .piped _ => true
  | subscripted head _ => head.isBuiltin
  | _ => false

/-- What bars join by writing the union out in full. -/
def isTyped : Target α κ → Bool
  | literal _ | union .spelled _ | annotated _ _ | bare _ _ | uncheckable _ => true
  | subscripted head _ => !head.isBuiltin
  | _ => false

/-- The name of the species of a target, taken as an object. -/
def kindName : Target α κ → String
  | any => "_AnyMeta"
  | species c => M.speciesName (M.ofSpecies c)
  | object v => M.speciesName v
  | tuple style _ => style.speciesName
  | list _ => "list"
  | literal _ => "_LiteralGenericAlias"
  | union .piped _ => "types.UnionType"
  | union .spelled _ => "_UnionGenericAlias"
  | annotated _ _ => "_AnnotatedAlias"
  | bare name _ =>
      if name = "Tuple" then "_TupleType"
      else if name = "Callable" then "_CallableType"
      else "_SpecialGenericAlias"
  | subscripted (.builtin _) _ => "types.GenericAlias"
  | subscripted (.signature _ _) _ => "_CallableGenericAlias"
  | subscripted _ _ => "_GenericAlias"
  | uncheckable (.parameter _ _) => "TypeVar"
  | uncheckable (.newtype _ _) => "NewType"
  | uncheckable (.forward _) => "ForwardRef"
  | uncheckable _ => "_SpecialForm"

/-- The alternatives of one side of a bar. -/
def barredSide (t : Target α κ) : List (Target α κ) :=
  if isEmptyValue M t then [species M.noneSpecies] else alternatives t

/-- Whether bars take two alternatives for one. Built-in species with arguments are compared
by what they hold, and a species is the same as itself alone. -/
def sameBarred (t u : Target α κ) : Except Fault Bool :=
  match t, u with
  | subscripted h ts, subscripted g us => do
      if ← equalHead M h g then equalPlaces M ts us else return false
  | species c, species d => .ok (c = d)
  | _, _ => .ok (sameAs M t u)

/-- **Two targets joined by a bar.** Objects that are no targets are joined as they see fit. -/
def bar (O : Operators α κ) (a b : Target α κ) : Except Fault (Target α κ) :=
  let refused := typeFault
    s!"unsupported operand type(s) for |: '{kindName M a}' and '{kindName M b}'"
  if (isBarred a && (isBarred b || isEmptyValue M b)) || (isEmptyValue M a && isBarred b) then do
    return unionOf .piped (← distinctWith (sameBarred M) [] (barredSide M a ++ barredSide M b))
  else if isTyped a || isTyped b then spelled M O [a, b]
  else match a, b with
    | object v, object w =>
        match O.join? v w with
        | some joined => joined.map object
        | none => refused
    | _, _ => refused

/-- **Alternatives joined by bars**, from left to right. -/
def piped (O : Operators α κ) : List (Target α κ) → Except Fault (Target α κ)
  | [] => typeFault "reduce() of empty iterable with no initial value"
  | t :: ts => ts.foldlM (bar M O) t

/-- **Literal options**, without those that are there twice, unless an option cannot be
compared. -/
def literalOf (options : List α) : Target α κ :=
  match options.forM M.hashable with
  | .ok () => literal (distinctBy (sameOption M) options)
  | .error _ => literal options

/-- A target that is known to be an argument, with notes. Notes on a target that has some
already come after those. An object of a built-in species does not say where it is from, and
is refused. -/
def withNotes (t : Target α κ) (notes : List α) : Except Fault (Target α κ) :=
  match t with
  | annotated base earlier => .ok (annotated base (earlier ++ notes))
  | object v =>
      if (M.title (M.speciesOf v)).home.isNone then missingAttribute (M.speciesName v) "__module__"
      else .ok (annotated t notes)
  | list _ => missingAttribute "list" "__module__"
  | base => .ok (annotated base notes)

/-- **A target with notes**, of which there has to be one. -/
def annotate (t : Target α κ) (notes : List α) : Except Fault (Target α κ) := do
  if notes.isEmpty then
    typeFault
      "Annotated[...] should be used with at least two arguments (a type and an annotation)."
  withNotes M (← asArgument M "Annotated[t, ...]: t must be a type." true t) notes

end Target

end Narrowing
