import Narrowing.Menagerie.Likeness
import Narrowing.Number.Decimal

/-!
# Making objects

A new object takes a fresh token for its identity, except for small integers, the shortest
texts and octets, and the empty tuple, of which there is only one each.

* `Value.ofInt`, `Value.ofNumber`, `Value.ofString`, `Value.ofOctets`, `Value.ofItems`: plain
  objects;
* `Value.insertEntry`: an entry put into a dictionary, where it replaces the value of an
  earlier one with the same key.
-/

namespace Narrowing.Menagerie

/-- The identity of an object that is new, or that may exist only once. -/
def Identity.ofNew (fresh : Nat) (single : Bool) : Identity :=
  if single then shared else token fresh

namespace Value

/-- An integer. -/
def ofInt (fresh : Nat) (n : Int) : Value :=
  atom (.int (.ofNew fresh (-5 ≤ n && n ≤ 256)) false n)

/-- A number. The sign in front of it tells two zeros apart. -/
def ofNumber (fresh : Nat) (negative : Bool) (x : Binary) : Value :=
  atom (.float (.token fresh) ⟨x.written negative, x⟩)

/-- Whether a text exists only once. -/
def isSingleText (s : String) : Bool :=
  match s.toList with
  | [] => true
  | [c] => c.toNat ≤ 0xff
  | _ => false

/-- A text. -/
def ofString (fresh : Nat) (s : String) : Value :=
  atom (.text (.ofNew fresh (isSingleText s)) false s)

/-- Raw octets. -/
def ofOctets (fresh : Nat) (bs : List UInt8) : Value :=
  atom (.octets (.ofNew fresh (bs.length ≤ 1)) bs)

/-- An ordered container. -/
def ofItems (fresh : Nat) (sort : SequenceSort) (items : List Value) : Value :=
  sequence (.ofNew fresh (sort == .tuple && items.isEmpty)) sort items

/-- Whether a key is the one stored: equal fingerprints, and alike. -/
def isStoredAs (key stored : Value) : Except Fault Bool := do
  if (← stored.fingerprint) = (← key.fingerprint) then sameOr stored key (equal stored key)
  else return false

/-- **Entries with one more**, which replaces the value of one with the same key. -/
def insertEntry (key value : Value) : List (Value × Value) → Except Fault (List (Value × Value))
  | [] => do
      let _ ← key.fingerprint
      return [(key, value)]
  | (stored, old) :: rest => do
      if ← isStoredAs key stored then return (stored, value) :: rest
      else return (stored, old) :: (← insertEntry key value rest)

end Value

end Narrowing.Menagerie
