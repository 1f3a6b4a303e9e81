import Narrowing.Menagerie.Display
import Narrowing.Menagerie.Making
import Narrowing.Number.Numeral

/-!
# Converting objects

An object can be turned into a plain one of another species, if it is fit for that: a text or
raw octets are read as a numeral, a container gives its members, and a number counts octets. An
object that is not fit is refused, with what is wrong.

* `Value.toInt`, `Value.toNumber`: numbers (`int`, `float`);
* `Value.toItems`: the members of a container (`iter`);
* `Value.toOctets`, `Value.toEntries`: octets and the entries of a dictionary, from members (`bytes`,
  `dict`);
* `Value.toColor`, `Value.toLevel`: colours and levels, by the number behind them.
-/

namespace Narrowing.Menagerie

/-- The refusal of a number that is out of bounds. -/
def overflow {β : Type} (text : String) : Except Fault β := .error ⟨.named "OverflowError", text⟩

/-- The refusal of a value. -/
def valueFault {β : Type} (text : String) : Except Fault β := .error ⟨.valueError, text⟩

/-- The integer part of a number. -/
def integerPart : Binary → Except Fault Int
  | .notANumber => valueFault "cannot convert float NaN to integer"
  | .infinite _ => overflow "cannot convert float infinity to integer"
  | .finite m e => .ok (if 0 ≤ e then m * Int.pow 2 e.toNat else m.tdiv (Int.pow 2 (-e).toNat))

namespace Value

/-- The numeral that an object is: a text, or octets that stand for ASCII characters. -/
def numeral? : Value → Option (List Char)
  | atom (.text _ _ s) => some (Numeral.plain s)
  | atom (.octets _ bs) => some (bs.map fun b => Char.ofNat b.toNat)
  | _ => Option.none

/-- A numeral as an integer. What cannot be read is shown, up to a certain length. -/
def readInt (v : Value) (numeral : List Char) : Except Fault Int :=
  match Numeral.readInteger numeral with
  | .integer n => .ok n
  | .tooLong count =>
      valueFault (s!"Exceeds the limit ({Numeral.longest} digits) for integer string " ++
        "conversion: " ++
        s!"value has {count} digits; use sys.set_int_max_str_digits() to increase the limit")
  | .malformed => do
      let shown ← v.display
      let start := String.ofList (shown.toList.take 200)
      valueFault s!"invalid literal for int() with base 10: {start}"

/-- **An object as an integer.** -/
def toInt (v : Value) : Except Fault Int :=
  match v, v.numeral?, v.int? with
  | atom (.float _ x), _, _ => integerPart x.number
  | _, some numeral, _ => v.readInt numeral
  | _, _, some n => .ok n
  | _, _, _ =>
      typeFault ("int() argument must be a string, a bytes-like object or a real number, not " ++
        s!"'{v.species.title.name}'")

/-- A numeral as a number. -/
def readNumber (fresh : Nat) (v : Value) (numeral : List Char) : Except Fault Value :=
  match Numeral.readNumber? numeral with
  | some (negative, x) => .ok (ofNumber fresh negative x)
  | Option.none => do
      let shown ← v.display
      valueFault s!"could not convert string to float: {shown}"

/-- **An object as a number.** An integer becomes the nearest number, if that is finite. -/
def toNumber (fresh : Nat) (v : Value) : Except Fault Value :=
  match v, v.numeral?, v.int? with
  | atom (.float _ _), _, _ => .ok v
  | _, some numeral, _ => v.readNumber fresh numeral
  | _, _, some n =>
      match Binary.ofRatio n.natAbs 1 with
      | .finite m e => .ok (ofNumber fresh false (.finite (if n < 0 then -m else m) e))
      | _ => overflow "int too large to convert to float"
  | _, _, _ =>
      typeFault s!"float() argument must be a string or a real number, not '{v.species.title.name}'"

/-- The members of an object, if it has any: those of a container, the keys of a dictionary,
the characters of a text, octets as numbers, and the named members of a species. -/
def items? (fresh : Nat) : Value → Option (List Value)
  | sequence _ _ items => some items
  | dict _ keys _ => some keys
  | atom (.text _ _ s) => some (s.toList.map fun c => ofString fresh (String.singleton c))
  | atom (.octets _ bs) => some (bs.map fun b => ofInt fresh b.toNat)
  | ofSpecies .color => some [atom (.color .red), atom (.color .blue)]
  | ofSpecies .level => some [atom (.level .low), atom (.level .high)]
  | _ => Option.none

/-- **The members of an object.** -/
def toItems (fresh : Nat) (v : Value) : Except Fault (List Value) :=
  match v.items? fresh with
  | some items => .ok items
  | Option.none => typeFault s!"'{v.species.title.name}' object is not iterable"

/-- A member as an octet. -/
def toOctet (v : Value) : Except Fault UInt8 :=
  match v.int? with
  | some n =>
      if 0 ≤ n ∧ n < 256 then .ok n.toNat.toUInt8 else valueFault "bytes must be in range(0, 256)"
  | Option.none => typeFault s!"'{v.species.title.name}' object cannot be interpreted as an integer"

/-- As many octets as a number says, all of them zero. There is no room for more than a certain
number of them. -/
def zeroOctets (v : Value) (count : Int) : Except Fault (List UInt8) :=
  if count < -Int.pow 2 63 ∨ Int.pow 2 63 ≤ count then
    overflow s!"cannot fit '{v.species.title.name}' into an index-sized integer"
  else if count < 0 then valueFault "negative count"
  else if Int.pow 2 63 - 34 < count then overflow "byte string is too large"
  else if Int.pow 2 32 < count then .error ⟨.named "MemoryError", ""⟩
  else .ok (List.replicate count.toNat 0)

/-- **An object as octets**: those that a number counts, or one for each member. -/
def toOctets (fresh : Nat) (v : Value) : Except Fault (List UInt8) :=
  match v, v.int?, v.items? fresh with
  | atom (.octets _ bs), _, _ => .ok bs
  | atom (.text ..), _, _ => typeFault "string argument without an encoding"
  | _, some count, _ => v.zeroOctets count
  | _, _, some items => items.mapM toOctet
  | _, _, _ => typeFault s!"cannot convert '{v.species.title.name}' object to bytes"

/-- A member as an entry of a dictionary: a key and a value, and nothing else. -/
def toEntry (fresh place : Nat) (v : Value) : Except Fault (Value × Value) :=
  match v.items? fresh with
  | some [key, value] => .ok (key, value)
  | some items =>
      valueFault (s!"dictionary update sequence element #{place} has length {items.length}; " ++
        "2 is required")
  | Option.none =>
      typeFault s!"cannot convert dictionary update sequence element #{place} to a sequence"

/-- **An object as the entries of a dictionary**: its own, or one for each member. The species
of dictionaries know that there are keys, but have none. -/
def toEntries (fresh : Nat) (v : Value) : Except Fault (List (Value × Value)) :=
  match v with
  | dict _ keys values => .ok (keys.zip values)
  | ofSpecies .dict | ofSpecies .movie =>
      typeFault "unbound method dict.keys() needs an argument"
  | ofSpecies .mapping => typeFault "Mapping.keys() missing 1 required positional argument: 'self'"
  | _ => do
      (← v.toItems fresh).zipIdx.foldlM
        (fun entries (item, place) => do
          let (key, value) ← item.toEntry fresh place
          insertEntry key value entries) []

/-- The named member for a number. What has no fingerprint is not the number of any. -/
def toMember (s : Species) (fresh : Nat) (members : List (Nat × Value)) (v : Value) :
    Except Fault Value := do
  let found ← match v.fingerprint with
    | .ok _ => members.findM? fun (n, _) => v.isStoredAs (ofInt fresh n)
    | .error _ => pure Option.none
  match found with
  | some (_, member) => return member
  | Option.none =>
      let shown ← v.display
      valueFault s!"{shown} is not a valid {s.title.name}"

/-- **An object as a colour.** -/
def toColor (fresh : Nat) (v : Value) : Except Fault Value :=
  match v with
  | atom (.color _) => .ok v
  | _ => v.toMember .color fresh ([.red, .blue].map fun c => (c.number, atom (.color c)))

/-- **An object as a level.** -/
def toLevel (fresh : Nat) (v : Value) : Except Fault Value :=
  match v with
  | atom (.level _) => .ok v
  | _ => v.toMember .level fresh ([.low, .high].map fun l => (l.number, atom (.level l)))

end Value

end Narrowing.Menagerie
