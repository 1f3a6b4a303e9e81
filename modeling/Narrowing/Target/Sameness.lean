import Narrowing.Target

/-!
# When two targets are the same

Alternatives that are written twice count once. Two targets are the same when they are of
the same form with the same parts; literals are the same when they have the same options,
and unions when they have the same members, in whatever order and style. Options and species
are compared as the objects that they are, by `==` and `hash`.

* `Target.sameAs`: the comparison in a set;
* `Target.equal`: the comparison of one with another, which asks the objects they hold;
* `Target.hashable`: what can be compared at all;
* `distinctBy`, `distinctWith`: a list with later duplicates dropped.
-/

namespace Narrowing

/-- A list without the members that one kept earlier stands for. What has been dropped stands for
nothing. -/
def distinctBy {β : Type} (same : β → β → Bool) (xs : List β) : List β :=
  xs.eraseDupsBy fun x kept => same kept x

/-- The same where the comparison, of the member with the one kept, may fail. -/
def distinctWith {β : Type} (same : β → β → Except Fault Bool) (kept : List β) :
    List β → Except Fault (List β)
  | [] => .ok kept
  | x :: xs => do
      if ← kept.anyM (same x) then distinctWith same kept xs
      else distinctWith same (kept ++ [x]) xs

namespace Target

variable {α κ : Type} [DecidableEq α] [DecidableEq κ] (M : ObjectModel α κ)

/-- Two species are the same when a set takes them for one, as the objects that they are. -/
def sameSpecies (c d : κ) : Bool :=
  decide (c = d) || M.interchangeable (M.ofSpecies c) (M.ofSpecies d)

/-- Two literal options are the same when a set takes them for one, and their species too. -/
def sameOption (a b : α) : Bool :=
  sameSpecies M (M.speciesOf a) (M.speciesOf b) && (decide (a = b) || M.interchangeable a b)

/-- Two heads are the same when they are of the same form, over the same species. -/
def sameHead (h g : Head κ) : Bool :=
  decide (h.form = g.form) && h.species?.all fun c => g.species?.all (sameSpecies M c)

/-- Whether objects agree place by place. -/
def sameObjects (xs ys : List α) : Bool :=
  xs.length == ys.length && (xs.zip ys).all fun (x, y) => decide (x = y) || M.interchangeable x y

mutual

/-- **Whether two targets are the same.** -/
def sameAs : Target α κ → Target α κ → Bool
  | any, any => true
  | species c, species d => sameSpecies M c d
  | object v, object w => decide (v = w) || M.interchangeable v w
  | object v, species c => M.interchangeable v (M.ofSpecies c)
  | species c, object v => M.interchangeable (M.ofSpecies c) v
  | tuple _ ms, tuple _ ns | list ms, list ns => samePlaces ms ns
  | literal os, literal ps =>
      (os.all fun o => ps.any (sameOption M o)) && (ps.all fun p => os.any (sameOption M p))
  | union _ ms, union _ ns => ns.all (sameAsSome ms) && allAmong ms ns
  | annotated b notes, annotated c others => sameAs b c && sameObjects M notes others
  | bare n c, bare m d => n = m && c = d
  | subscripted h ts, subscripted g us => sameHead M h g && samePlaces ts us
  | uncheckable u, uncheckable w => u = w
  | _, _ => false

/-- Targets that agree place by place. -/
def samePlaces : List (Target α κ) → List (Target α κ) → Bool
  | [], [] => true
  | t :: ts, u :: us => sameAs t u && samePlaces ts us
  | _, _ => false

/-- Whether a target is the same as one of some others. -/
def sameAsSome : List (Target α κ) → Target α κ → Bool
  | [], _ => false
  | t :: ts, u => sameAs t u || sameAsSome ts u

/-- Whether every one of some targets is among some others. -/
def allAmong : List (Target α κ) → List (Target α κ) → Bool
  | [], _ => true
  | t :: ts, us => us.any (sameAs t) && allAmong ts us

end

mutual

/-- **Whether a target can be compared**: the objects it holds can stand in a set. -/
def hashable : Target α κ → Except Fault Unit
  | object v => M.hashable v
  | tuple _ ms | union _ ms | subscripted _ ms => hashableEach ms
  | list _ => typeFault "unhashable type: 'list'"
  | literal os => os.forM M.hashable
  | annotated base notes => do
      hashable base
      notes.forM M.hashable
  | _ => .ok ()

/-- Targets that can be compared, up to the first that cannot. -/
def hashableEach : List (Target α κ) → Except Fault Unit
  | [] => .ok ()
  | t :: ts => do
      hashable t
      hashableEach ts

end

/-- Whether two objects are alike place by place, up to the first place where they are not. -/
def alikeEach : List α → List α → Except Fault Bool
  | [], [] => .ok true
  | x :: xs, y :: ys => do if ← M.alike x y then alikeEach xs ys else return false
  | _, _ => .ok false

/-- Whether two heads are equal, by the account of the species behind them. -/
def equalHead (h g : Head κ) : Except Fault Bool :=
  if h.form = g.form then
    match h.species?, g.species? with
    | some c, some d => M.alike (M.ofSpecies c) (M.ofSpecies d)
    | _, _ => .ok true
  else .ok false

mutual

/-- **Whether two targets are equal**, by the account of the objects they hold. An object
may say that it is equal to a form. -/
def equal : Target α κ → Target α κ → Except Fault Bool
  | any, any => .ok true
  | species c, species d => M.alike (M.ofSpecies c) (M.ofSpecies d)
  | object v, object w => M.alike v w
  | object v, species c => M.alike v (M.ofSpecies c)
  | species c, object v => M.alike (M.ofSpecies c) v
  | object v, _ | _, object v => M.alike (M.ofSpecies M.noneSpecies) v
  | tuple _ ms, tuple _ ns => equalPlaces ms ns
  | list ms, list ns => if ms.length = ns.length then equalPlaces ms ns else .ok false
  | annotated b notes, annotated c others => do
      if ← equal b c then alikeEach M notes others else return false
  | subscripted h ts, subscripted g us => do
      if ← equalHead M h g then equalPlaces ts us else return false
  | literal os, literal ps => do
      os.forM M.hashable
      ps.forM M.hashable
      return sameAs M (literal os) (literal ps)
  | union s ms, union r ns => do
      hashableEach M ms
      hashableEach M ns
      return sameAs M (union s ms) (union r ns)
  | t, u => .ok (sameAs M t u)

/-- Targets that are equal place by place, up to the first place where they are not. -/
def equalPlaces : List (Target α κ) → List (Target α κ) → Except Fault Bool
  | [], [] => .ok true
  | t :: ts, u :: us => do if ← equal t u then equalPlaces ts us else return false
  | _, _ => .ok false

end

end Target

end Narrowing
