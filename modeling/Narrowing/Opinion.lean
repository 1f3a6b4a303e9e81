import Narrowing.Fault

/-!
# Opinions

Whether two objects are equal (`==`) or unequal (`!=`) is asked of each of them in turn: of the left one,
and then of the right one, or the other way round where the right one is of a proper descendant of the left
one's species. An object has an **opinion** (`__eq__`, `__ne__`), or it declines (`NotImplemented`). The
first opinion counts. Where both decline, the objects are equal if they are the same one.

* `Opinion.settle`: the first of two opinions;
* `Opinion.opposite`: what an object says about being unequal, as long as it has nothing else to say;
* `Opinion.settle_opposite`: being unequal then is the opposite of being equal.
-/

namespace Narrowing

/-- What an object answers about another one, if it does. -/
abbrev Opinion (α : Type) : Type := Option (Except Fault α)

namespace Opinion

variable {α : Type}

/-- **The first of two opinions**, and `otherwise` if both objects decline. The right one is asked first
where it is `reflected`. -/
def settle (reflected : Bool) (left right : Opinion α) (otherwise : α) : Except Fault α :=
  (if reflected then right.or left else left.or right).getD (.ok otherwise)

/-- An answer turned around: its truth is looked up for this. -/
def turned (truth : α → Except Fault Bool) (ofBool : Bool → α) (answer : Except Fault α) :
    Except Fault α := do
  return ofBool !(← truth (← answer))

/-- **The opinion about being unequal** that comes with one about being equal. -/
def opposite (truth : α → Except Fault Bool) (ofBool : Bool → α) (o : Opinion α) : Opinion α :=
  o.map (turned truth ofBool)

/-- One opinion counts, whoever is asked first. -/
theorem settle_none_right (reflected : Bool) (o : Opinion α) (otherwise : α) :
    settle reflected o none otherwise = o.getD (.ok otherwise) := by
  cases reflected <;> cases o <;> rfl

theorem settle_none_left (reflected : Bool) (o : Opinion α) (otherwise : α) :
    settle reflected none o otherwise = o.getD (.ok otherwise) := by
  cases reflected <;> cases o <;> rfl

/-- Where both have the same opinion, it does not matter who is asked first. -/
theorem settle_self (reflected : Bool) (o : Opinion α) (otherwise : α) :
    settle reflected o o otherwise = o.getD (.ok otherwise) := by
  cases reflected <;> cases o <;> rfl

/-- **Being unequal is the opposite of being equal**, whoever is asked and whatever is answered. -/
theorem settle_opposite {truth : α → Except Fault Bool} {ofBool : Bool → α}
    (htruth : ∀ b, truth (ofBool b) = .ok b) (reflected : Bool) (left right : Opinion α) (same : Bool) :
    settle reflected (left.opposite truth ofBool) (right.opposite truth ofBool) (ofBool !same) =
      turned truth ofBool (settle reflected left right (ofBool same)) := by
  have hsame : turned truth ofBool (.ok (ofBool same)) = .ok (ofBool !same) := by
    have hbind : turned truth ofBool (.ok (ofBool same)) =
        (truth (ofBool same)).bind fun b => .ok (ofBool !b) := rfl
    rw [hbind, htruth]
    rfl
  -- what is answered first is turned around, as is what holds if both decline
  rw [settle, settle, opposite, opposite, ← hsame]
  cases reflected with
  | true => rw [if_pos rfl, if_pos rfl, ← Option.map_or, Option.getD_map]
  | false =>
    rw [if_neg Bool.false_ne_true, if_neg Bool.false_ne_true, ← Option.map_or, Option.getD_map]

end Opinion

end Narrowing
