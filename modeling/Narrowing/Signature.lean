import Narrowing.Fault

/-!
# Signatures

A public function is called with arguments by place and arguments by name. Its
**signature** says which of them belong together, and `Signature.bind` either matches them
up or says what is wrong: first with an argument by name, then with the number of arguments
by place, then with one that is missing.
-/

namespace Narrowing

/-- **The signature of a function.** A receiver takes the first place, unseen; a function
that gathers takes any number of further arguments by place. -/
structure Signature where
  title : String
  required : List String
  optional : List String
  byNameOnly : List String
  gathers : Bool
  receiver : Bool
deriving DecidableEq, Repr

/-- Arguments matched with the names of a signature, and those gathered. -/
structure Arguments (β : Type) where
  bound : List (String × β)
  gathered : List β
deriving Repr

namespace Arguments

variable {β : Type}

/-- The argument under a name. -/
def find? (a : Arguments β) (name : String) : Option β :=
  (a.bound.find? fun entry => entry.1 == name).map Prod.snd

end Arguments

namespace Signature

variable {β : Type} (s : Signature)

/-- A signature of required arguments alone. -/
def ofRequired (title : String) (required : List String) : Signature :=
  ⟨title, required, [], [], false, false⟩

/-- A signature that gathers everything. -/
def ofGathering (title : String) : Signature := ⟨title, [], [], [], true, false⟩

/-- The names of the arguments that have a place. -/
def places : List String := s.required ++ s.optional

/-- The refusal of a call. -/
def refuse {γ : Type} (text : String) : Except Fault γ := typeFault s!"{s.title}() {text}"

/-- A plural ending. -/
def plural (n : Nat) : String := if n = 1 then "" else "s"

/-- Names in quotes, the last one set off by "and". -/
def enumerate : List String → String
  | [] => ""
  | [a] => s!"'{a}'"
  | [a, b] => s!"'{a}' and '{b}'"
  | names =>
      let quoted := names.map fun n => s!"'{n}'"
      ", ".intercalate quoted.dropLast ++ ", and " ++ quoted.getLastD ""

/-- Arguments by name, matched one after the other. -/
def bindNamed (bound : List (String × β)) : List (String × β) → Except Fault (List (String × β))
  | [] => .ok bound
  | (name, value) :: rest =>
      if !(s.places ++ s.byNameOnly).contains name then
        s.refuse s!"got an unexpected keyword argument '{name}'"
      else if bound.any fun entry => entry.1 == name then
        s.refuse s!"got multiple values for argument '{name}'"
      else bindNamed (bound ++ [(name, value)]) rest

/-- The refusal of too many arguments by place. -/
def tooMany {γ : Type} (given named : Nat) : Except Fault γ :=
  let unseen := if s.receiver then 1 else 0
  let most := s.places.length + unseen
  let least := s.required.length + unseen
  let (range, count) :=
    if s.optional.isEmpty then (s!"{most}", most) else (s!"from {least} to {most}", 2)
  let given := given + unseen
  let extra := if named = 0 then ""
    else s!" positional argument{plural given} (and {named} keyword-only argument{plural named})"
  let verb := if given = 1 && named = 0 then "was" else "were"
  s.refuse s!"takes {range} positional argument{plural count} but {given}{extra} {verb} given"

/-- **Arguments matched with a signature.** -/
def bind (args : List β) (named : List (String × β)) : Except Fault (Arguments β) := do
  let bound ← s.bindNamed (s.places.zip args) named
  let gathered := args.drop s.places.length
  if !gathered.isEmpty && !s.gathers then
    let extra := (bound.filter fun entry => s.byNameOnly.contains entry.1).length
    s.tooMany args.length extra
  let missing := s.required.filter fun name => !bound.any fun entry => entry.1 == name
  if !missing.isEmpty then
    let count := missing.length
    let names := enumerate missing
    s.refuse s!"missing {count} required positional argument{plural count}: {names}"
  return ⟨bound, gathered⟩

end Signature

end Narrowing
