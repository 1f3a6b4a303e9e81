import Narrowing.Fault

/-!
# Sessions

An evaluation runs inside a **session**: it may leave events behind, it may change
the client's own state, and it may end in a fault.

* `Eval σ α β`: an evaluation over objects `α` with client state `σ`;
* `Session.history`: everything noted, compared or warned about, newest first;
* `Eval.warn`: what a warning (`warnings.warn`) does depends on the session's policy.
-/

namespace Narrowing

/-- What happens to a contract warning. -/
inductive WarningPolicy where
  | record
  | raise
  | silence
deriving DecidableEq, Repr

/-- What an evaluation can leave behind. -/
inductive Event (α : Type) where
  | noted (tag : String)
  | compared (candidate value : α)
  | warned (text : String)
deriving DecidableEq, Repr

/-- The surroundings of an evaluation. -/
structure Session (σ α : Type) where
  policy : WarningPolicy
  history : List (Event α)
  state : σ

namespace Session

variable {σ α : Type}

/-- The session with one more event. -/
def push (s : Session σ α) (e : Event α) : Session σ α := { s with history := e :: s.history }

/-- The tags noted so far, oldest first. -/
def notes (s : Session σ α) : List String :=
  s.history.reverse.filterMap fun | .noted t => some t | _ => none

/-- The texts of the warnings issued so far, oldest first. -/
def warnings (s : Session σ α) : List String :=
  s.history.reverse.filterMap fun | .warned t => some t | _ => none

/-- The comparisons made so far, oldest first. -/
def comparisons (s : Session σ α) : List (α × α) :=
  s.history.reverse.filterMap fun | .compared c v => some (c, v) | _ => none

end Session

/-- **Evaluations**: they read and change a session, and return or end in a fault. -/
abbrev Eval (σ α β : Type) : Type := ExceptT Fault (StateM (Session σ α)) β

namespace Eval

variable {σ α β : Type}

/-- An evaluation that touches nothing. -/
def ofExcept : Except Fault β → Eval σ α β
  | .ok b => pure b
  | .error f => throw f

/-- Leave an event behind. -/
def emit (e : Event α) : Eval σ α Unit := modify fun s => s.push e

/-- Note a tag. -/
def note (tag : String) : Eval σ α Unit := emit (.noted tag)

/-- Issue a contract warning: recorded, turned into a fault, or dropped. -/
def warn (text : String) : Eval σ α Unit := do
  match (← get).policy with
  | .record => emit (.warned text)
  | .raise => throw ⟨.contractWarning, text⟩
  | .silence => pure ()

/-- Run as part of a lazily evaluated condition (`Fault.sealed`). -/
def sealed (x : Eval σ α β) : Eval σ α β := ExceptT.adapt Fault.sealed x

end Eval

end Narrowing
