import Narrowing.Menagerie.Object

/-!
# The truth of objects

In a condition (`bool`) the empty value, false, zero and everything empty count as false, and
so do the creatures of one species. Everything else counts as true, save for a
creature that does not let itself be asked (`__bool__`).
-/

namespace Narrowing.Menagerie

/-- The truth of an object without parts. -/
def Atom.truth : Atom → Bool
  | none => false
  | bool b => b
  | int _ _ n => n ≠ 0
  | float _ x => !x.number.isZero
  | text _ _ s => s ≠ ""
  | octets _ bs => !bs.isEmpty
  | _ => true

namespace Value

/-- **The truth of an object.** -/
def truth : Value → Except Fault Bool
  | atom a => .ok a.truth
  | sequence _ _ items => .ok !items.isEmpty
  | dict _ keys _ => .ok !keys.isEmpty
  | creature _ .falsy _ => .ok false
  | creature _ .boolBomb _ => .error ⟨.runtimeError, "bool exploded"⟩
  | _ => .ok true

end Value

end Narrowing.Menagerie
