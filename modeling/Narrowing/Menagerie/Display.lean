import Narrowing.Menagerie.Object
import Narrowing.Text.Listing
import Narrowing.Text.Quoted

/-!
# Writing objects

`Value.display` is the written form of an object (`repr`). Containers and outcomes write their
parts in place; a creature is written by the name of its species and its label; a
creature of one species refuses to be written at all (`__repr__`).

`Value.plain` is the form in which a label appears (`str`): a text stands for itself there.
-/

namespace Narrowing.Menagerie

/-- The name of a colour. -/
def Color.name : Color → String
  | red => "RED"
  | blue => "BLUE"

/-- The number behind a colour. It plays no part in likeness. -/
def Color.number : Color → Nat
  | red => 1
  | blue => 2

/-- The name of a level. -/
def Level.name : Level → String
  | low => "LOW"
  | high => "HIGH"

/-- The number that a level is. -/
def Level.number : Level → Nat
  | low => 1
  | high => 2

/-- A species on its own. -/
def Species.display : Species → String
  | .color => "<enum 'Color'>"
  | .level => "<enum 'Level'>"
  | s => s!"<class '{s.title.reference}'>"

namespace Atom

/-- An object without parts. -/
def display : Atom → String
  | none => "None"
  | bool b => if b then "True" else "False"
  | int _ _ n => toString n
  | float _ x => x.written
  | text _ _ s => Text.quote s
  | octets _ bs => Text.quoteOctets bs
  | color c => s!"<Color.{c.name}: {c.number}>"
  | level l => s!"<Level.{l.name}: {l.number}>"
  | species s => s.display
  | miss _ _ => "miss"
  | liar _ .hit => "HitLiar"
  | liar _ .miss => "MissLiar"

end Atom

namespace Value

/-- A label, given its written form. -/
def plainForm (v : Value) (shown : Except Fault String) : Except Fault String :=
  match v with
  | atom (.text _ _ s) => .ok s
  | atom (.color c) => .ok s!"Color.{c.name}"
  | atom (.level l) => .ok (toString l.number)
  | _ => shown

/-- An ordered container, given its members. -/
def displayItems : SequenceSort → List String → String
  | .list, items => Text.brackets items
  | .tuple, items => Text.parentheses items
  | .pair, items =>
      let places := List.zipWith (fun place item => s!"{place}={item}") ["a", "b"] items
      "Pair(" ++ Text.commas places ++ ")"

/-- A dictionary, given its keys and values. -/
def displayEntries (keys values : List String) : String :=
  "\x7b" ++ Text.commas (List.zipWith (fun k v => s!"{k}: {v}") keys values) ++ "\x7d"

mutual

/-- **The written form of an object.** -/
def display : Value → Except Fault String
  | atom a => .ok a.display
  | sequence _ s items => do return displayItems s (← displayEach items)
  | dict _ keys values => do return displayEntries (← displayEach keys) (← displayEach values)
  | creature _ s label =>
      if s = .badDisplay then .error ⟨.runtimeError, "repr exploded"⟩
      else do
        let shown ← plainForm label (display label)
        return s!"{s.title.name}<{shown}>"
  | hit _ s payload => do
      let shown ← display payload
      return s!"{s.species.title.path}(value={shown})"
  | settings _ debug strict => do
      let shownDebug ← display debug
      let shownStrict ← display strict
      return s!"Runtime(debug={shownDebug}, strict={shownStrict})"

/-- Objects one after the other. -/
def displayEach : List Value → Except Fault (List String)
  | [] => .ok []
  | v :: vs => do return (← display v) :: (← displayEach vs)

end

/-- The form in which an object appears as a label. -/
def plain (v : Value) : Except Fault String := plainForm v (display v)

end Value

end Narrowing.Menagerie
