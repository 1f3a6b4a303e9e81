import Narrowing.Text.Token

/-!
# Texts that read as expressions

A text can name something that is not there yet only if it reads as an expression: names,
numbers and texts, joined by operators, called, looked up in, or listed between brackets. What
is bound inside a listing is not looked for elsewhere in it.

* `Rule`, `Rule.read`: the rules of the grammar, and what follows the tokens that one reads;
* `isExpression`: whether a whole text reads as one.
-/

namespace Narrowing.Text

/-- What matters of a stretch that has been read: names and places can be bound, and a binding
or something unpacked cannot stand everywhere. -/
inductive Stretch where
  | name
  | place
  | binding
  | unpacked
  | other
deriving DecidableEq, Repr

/-- The arguments of a call so far. -/
structure CallState where
  fresh : Bool
  keywords : List String
  unpackedKeywords : Bool

/-- The parameters of a function so far: their names, whether one has a default, whether
there was a star, and whether a name has to follow it. -/
structure ParameterState where
  names : List String
  defaulted : Bool
  starred : Bool
  awaiting : Bool
  slashed : Bool

/-- **The rules of the grammar.** -/
inductive Rule where
  | expressions
  | expression
  | named
  | element
  | disjunction
  | conjunction
  | inversion
  | comparison
  | binary (level : Nat)
  | more (level : Nat)
  | unary
  | primary
  | trailers (s : Stretch)
  | atom
  | items (close : String)
  | entries
  | clauses (delayed : Bool)
  | conditions
  | targets (loose : Bool) (unpacked : Nat)
  | target
  | arguments (s : CallState)
  | parameters (s : ParameterState)
  | lookups
  | slice
  | bound

namespace Rule

/-- The operators between two operands, those that bind least first. -/
def operators : List (List String) :=
  [["|"], ["^"], ["&"], ["<<", ">>"], ["+", "-"], ["*", "/", "//", "%", "@"]]

/-- What follows a comparison sign. -/
def afterComparison? : List Token → Option (List Token)
  | .sign s :: rest => if ["==", "!=", "<", ">", "<=", ">="].contains s then some rest else none
  | .reserved "in" :: rest => some rest
  | .reserved "is" :: .reserved "not" :: rest => some rest
  | .reserved "is" :: rest => some rest
  | .reserved "not" :: .reserved "in" :: rest => some rest
  | _ => none

/-- What follows an expected sign. -/
def after? (s : String) : List Token → Option (List Token)
  | t :: rest => if t = .sign s then some rest else none
  | [] => none

/-- Whether a clause of a listing comes next. -/
def startsClause : List Token → Bool
  | .reserved "for" :: _ | .reserved "async" :: _ => true
  | _ => false

/-- Whether one of some signs comes next. -/
def startsSign (signs : List String) : List Token → Bool
  | .sign s :: _ => signs.contains s
  | _ => false

/-- What follows a run of texts of the same kind. -/
def afterTexts? (octets : Bool) : List Token → Option (List Token)
  | .text o :: rest => if o == octets then afterTexts? octets rest else none
  | rest => some rest

/-- A name that nothing can be bound to. -/
def isFixed (name : String) : Bool := name == "__debug__"

/-- What a reader gives: what was read, and what follows it. -/
abbrev Reading : Type := Option (Stretch × List Token)

/-- The same reading, of which nothing in particular is known. -/
def plainly (r : Option (List Token)) : Reading := r.map fun rest => (.other, rest)

/-- **What follows the tokens that a rule reads.** -/
def read : (fuel : Nat) → Rule → List Token → Reading
  | 0, _, _ => none
  | fuel + 1, rule, ts =>
    -- only the rule that ends a stretch tells what it is: what stands before it is skipped
    let go := read fuel
    let skip := fun (r : Rule) (ts : List Token) => (go r ts).map Prod.snd
    match rule with
    | expressions => do
        let rest ← skip expression ts
        match rest with
        | .sign "," :: [] => some (.other, [])
        | .sign "," :: .lineEnd :: rest => some (.other, .lineEnd :: rest)
        | .sign "," :: rest => go expressions rest
        | rest => some (.other, rest)
    | expression =>
        match ts with
        | .reserved "lambda" :: rest => do
            let body ← skip (parameters ⟨[], false, false, false, false⟩) rest
            plainly (skip expression body)
        | _ => do
            let (s, rest) ← go disjunction ts
            match rest with
            | .reserved "if" :: rest => do
                match ← skip disjunction rest with
                | .reserved "else" :: rest => plainly (skip expression rest)
                | _ => none
            | rest => some (s, rest)
    | named =>
        match ts with
        | .name n :: .sign ":=" :: rest =>
            if isFixed n then none else (skip expression rest).map fun rest => (.binding, rest)
        | _ => go expression ts
    | element =>
        match ts with
        | .sign "*" :: rest => (skip (binary 0) rest).map fun rest => (.unpacked, rest)
        | _ => go named ts
    | disjunction => do
        let (s, rest) ← go conjunction ts
        match rest with
        | .reserved "or" :: rest => plainly (skip disjunction rest)
        | rest => some (s, rest)
    | conjunction => do
        let (s, rest) ← go inversion ts
        match rest with
        | .reserved "and" :: rest => plainly (skip conjunction rest)
        | rest => some (s, rest)
    | inversion =>
        match ts with
        | .reserved "not" :: rest => plainly (skip inversion rest)
        | _ => go comparison ts
    | comparison => do
        let (s, rest) ← go (binary 0) ts
        match afterComparison? rest with
        | some rest => plainly (skip comparison rest)
        | none => some (s, rest)
    | binary level =>
        if level < operators.length then do
          let (s, rest) ← go (binary (level + 1)) ts
          if startsSign (operators.getD level []) rest then go (more level) rest
          else some (s, rest)
        else go unary ts
    | more level =>
        if startsSign (operators.getD level []) ts then do
          let rest ← skip (binary (level + 1)) ts.tail
          go (more level) rest
        else some (.other, ts)
    | unary =>
        if startsSign ["+", "-", "~"] ts then plainly (skip unary ts.tail)
        else do
          let (s, rest) ← go primary ts
          match rest with
          | .sign "**" :: rest => plainly (skip unary rest)
          | rest => some (s, rest)
    | primary => do
        let (s, rest) ← go atom ts
        go (trailers s) rest
    | trailers s =>
        match ts with
        | .sign "." :: .name _ :: rest => go (trailers .place) rest
        | .sign "." :: _ => none
        | .sign "(" :: rest => do go (trailers .other) (← skip (arguments ⟨true, [], false⟩) rest)
        | .sign "[" :: rest => do go (trailers .place) (← skip lookups rest)
        | ts => some (s, ts)
    | atom =>
        match ts with
        | .name _ :: rest => some (.name, rest)
        | .number :: rest | .sign "..." :: rest | .reserved "True" :: rest
        | .reserved "False" :: rest | .reserved "None" :: rest => some (.other, rest)
        | .text o :: rest => plainly (afterTexts? o rest)
        | .sign "(" :: .sign ")" :: rest | .sign "[" :: .sign "]" :: rest
        | .sign "\x7b" :: .sign "\x7d" :: rest => some (.other, rest)
        | .sign "(" :: rest => do
            let (s, rest) ← go element rest
            if startsClause rest && s ≠ .unpacked then
              plainly (do after? ")" (← skip (clauses true) rest))
            else if startsSign [")"] rest then
              if s = .unpacked then none else some (.other, rest.tail)
            else go (items ")") rest
        | .sign "[" :: rest => do
            let (s, rest) ← go element rest
            if startsClause rest && s ≠ .unpacked then
              plainly (do after? "]" (← skip (clauses false) rest))
            else go (items "]") rest
        | .sign "\x7b" :: .sign "**" :: rest => do go entries (← skip (binary 0) rest)
        | .sign "\x7b" :: rest => do
            let (s, rest) ← go element rest
            let bare := s ≠ .unpacked && s ≠ .binding
            if startsSign [":"] rest && bare then do
              let rest ← skip expression rest.tail
              if startsClause rest then plainly (do after? "\x7d" (← skip (clauses false) rest))
              else go entries rest
            else if startsClause rest && s ≠ .unpacked then
              plainly (do after? "\x7d" (← skip (clauses false) rest))
            else go (items "\x7d") rest
        | _ => none
    | items close =>
        if startsSign [close] ts then some (.other, ts.tail)
        else do
          let rest ← after? "," ts
          if startsSign [close] rest then some (.other, rest.tail)
          else go (items close) (← skip element rest)
    | entries =>
        if startsSign ["\x7d"] ts then some (.other, ts.tail)
        else do
          let rest ← after? "," ts
          match rest with
          | .sign "\x7d" :: rest => some (.other, rest)
          | .sign "**" :: rest => go entries (← skip (binary 0) rest)
          | rest => go entries (← skip expression (← after? ":" (← skip expression rest)))
    | clauses delayed => do
        let rest ← match ts with
          | .reserved "for" :: rest => some rest
          | .reserved "async" :: .reserved "for" :: rest => if delayed then some rest else none
          | _ => none
        match ← skip (targets false 0) rest with
        | .reserved "in" :: rest => do
            let rest ← skip conditions (← skip disjunction rest)
            if startsClause rest then go (clauses delayed) rest else some (.other, rest)
        | _ => none
    | conditions =>
        match ts with
        | .reserved "if" :: rest => do go conditions (← skip disjunction rest)
        | ts => some (.other, ts)
    | targets loose unpacked => do
        let (s, rest) ← go target ts
        let unpacked := if s = .unpacked then unpacked + 1 else unpacked
        match rest with
        | .sign "," :: .reserved "in" :: _ | .sign "," :: .sign ")" :: _
        | .sign "," :: .sign "]" :: _ => if unpacked ≤ 1 then some (.other, rest.tail) else none
        | .sign "," :: rest => go (targets true unpacked) rest
        | rest => if unpacked ≤ (if loose then 1 else 0) then some (.other, rest) else none
    | target =>
        let group := match ts with
          | .sign "(" :: .sign ")" :: rest | .sign "[" :: .sign "]" :: rest => some rest
          | .sign "(" :: rest => do after? ")" (← skip (targets false 0) rest)
          | .sign "[" :: rest => do after? "]" (← skip (targets true 0) rest)
          | _ => none
        match ts, group with
        | .sign "*" :: .sign "*" :: _, _ => none
        | .sign "*" :: rest, _ => (skip target rest).map fun rest => (.unpacked, rest)
        | ts, some rest =>
            if startsSign [".", "(", "["] rest then do
              let (s, rest) ← go primary ts
              if s = .place then some (s, rest) else none
            else some (.other, rest)
        | .name n :: rest, none =>
            if isFixed n then none
            else do
              let (s, rest) ← go (trailers .name) rest
              if s = .place || s = .name then some (s, rest) else none
        | ts, none => do
            let (s, rest) ← go primary ts
            if s = .place then some (s, rest) else none
    | arguments s =>
        let next := fun (s : CallState) (rest : List Token) =>
          if startsSign [")"] rest then some (Stretch.other, rest.tail)
          else do go (arguments s) (← after? "," rest)
        match ts with
        | .sign ")" :: rest => some (.other, rest)
        | .sign "*" :: rest => do
            if s.unpackedKeywords then none
            next { s with fresh := false } (← skip expression rest)
        | .sign "**" :: rest => do
            next { s with fresh := false, unpackedKeywords := true } (← skip expression rest)
        | .name n :: .sign "=" :: rest => do
            if isFixed n || s.keywords.contains n then none
            next { s with fresh := false, keywords := n :: s.keywords } (← skip expression rest)
        | ts => do
            let rest ← skip named ts
            if !s.keywords.isEmpty || s.unpackedKeywords then none
            if startsClause rest then do
              if !s.fresh then none
              plainly (do after? ")" (← skip (clauses true) rest))
            else next { s with fresh := false } rest
    | parameters s =>
        let next := fun (s : ParameterState) (rest : List Token) =>
          if startsSign [":"] rest then go (parameters s) rest
          else do go (parameters s) (← after? "," rest)
        match ts with
        | .sign ":" :: rest => if s.awaiting then none else some (.other, rest)
        | .sign "/" :: rest =>
            if s.names.isEmpty || s.slashed || s.starred then none
            else next { s with slashed := true } rest
        | .sign "*" :: .sign "," :: rest =>
            if s.starred then none
            else go (parameters { s with starred := true, awaiting := true }) rest
        | .sign "*" :: .name n :: rest =>
            if s.starred || s.names.contains n || isFixed n then none
            else next { s with starred := true, names := n :: s.names } rest
        | .sign "**" :: .name n :: rest =>
            if s.awaiting || s.names.contains n || isFixed n then none
            else plainly (after? ":" (if startsSign [","] rest then rest.tail else rest))
        | .name n :: rest =>
            if s.names.contains n || isFixed n then none
            else
              let s' := { s with names := n :: s.names, awaiting := false }
              match rest with
              | .sign "=" :: rest => do
                  next { s' with defaulted := s.defaulted || !s.starred } (← skip expression rest)
              | rest => if s.defaulted && !s.starred then none else next s' rest
        | _ => none
    | lookups => do
        let rest ← match ts with
          | .sign "*" :: rest => skip expression rest
          | ts => skip slice ts
        match rest with
        | .sign "]" :: rest | .sign "," :: .sign "]" :: rest => some (.other, rest)
        | .sign "," :: rest => go lookups rest
        | _ => none
    | slice =>
        if startsSign [":"] ts then do
          let rest ← skip bound ts.tail
          if startsSign [":"] rest then go bound rest.tail else some (.other, rest)
        else do
          let (s, rest) ← go named ts
          if !startsSign [":"] rest then some (.other, rest)
          else if s = .binding then none
          else go slice rest
    | bound => if startsSign [":", ",", "]"] ts then some (.other, ts) else go expression ts

end Rule

/-- **Whether a text reads as an expression.** Every token is passed by fewer than forty rules. -/
def isExpression (text : String) : Bool :=
  match tokens? text with
  | some ts =>
      match Rule.read (40 * (ts.length + 4)) .expressions ts with
      | some (_, rest) => rest.all (· == .lineEnd)
      | none => false
  | none => false

end Narrowing.Text
