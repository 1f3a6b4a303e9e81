import Narrowing.Number.Decimal
import Narrowing.Text.Blank
import Narrowing.Text.Digit

/-!
# Numerals

How a text is read as a number. A numeral stands between blank characters; it has a sign, and
digits between which single underscores may stand. An integer has digits only, and not too many
of them; a number may have a fraction and an exponent, or be one of the words for infinity and
for what is not a number, in any case.

* `Numeral.plain`: the characters of a numeral, with digits of every script as `0` to `9`;
* `Numeral.readInteger`: a numeral read as an integer;
* `Numeral.readNumber?`: a numeral read as a number.
-/

namespace Narrowing.Numeral

/-- A character of a numeral in plain form: a digit of any script is one of `0` to `9`, a blank
character beyond ASCII is a space, and any other character there has no place in a numeral. -/
def plainChar (c : Char) : Char :=
  if c.toNat < 0x7f then c
  else if Text.isBlank c then ' '
  else match Text.digit? c with
    | some d => Char.ofNat ('0'.toNat + d)
    | none => '?'

/-- The characters of a numeral in plain form. -/
def plain (text : String) : List Char := text.toList.map plainChar

/-- The blank characters between which a numeral in plain form may stand. -/
def isBlank (c : Char) : Bool := c = ' ' || (0x09 ≤ c.toNat && c.toNat ≤ 0x0d)

/-- A numeral without the blank characters at either end. -/
def trim (cs : List Char) : List Char :=
  ((cs.dropWhile isBlank).reverse.dropWhile isBlank).reverse

/-- A numeral without the underscores in it, if each stands between two digits. -/
def ungrouped? (afterDigit : Bool) : List Char → Option (List Char)
  | [] => some []
  | ['_'] => none
  | '_' :: c :: cs =>
      if afterDigit && c.isDigit then (ungrouped? true cs).map (c :: ·) else none
  | c :: cs => (ungrouped? c.isDigit cs).map (c :: ·)

/-- A sign in front, and what follows it. -/
def signed : List Char → Bool × List Char
  | '-' :: cs => (true, cs)
  | '+' :: cs => (false, cs)
  | cs => (false, cs)

/-- The value of decimal digits. -/
def valueOf (digits : List Char) : Nat :=
  digits.foldl (fun n c => 10 * n + (c.toNat - '0'.toNat)) 0

/-- What comes of reading an integer. -/
inductive Reading where
  | integer (n : Int)
  | tooLong (digits : Nat)
  | malformed
deriving DecidableEq, Repr

/-- The number of digits that an integer may have. -/
def longest : Nat := 4300

/-- **A numeral read as an integer.** Its length is looked at before what follows the digits. -/
def readInteger (cs : List Char) : Reading :=
  let (negative, body) := signed (trim cs)
  let run := body.takeWhile fun c => c.isDigit || c = '_'
  match ungrouped? false run with
  | none => .malformed
  | some digits =>
      if longest < digits.length then .tooLong digits.length
      else if digits.isEmpty || run.length < body.length then .malformed
      else .integer (if negative then -(valueOf digits : Int) else valueOf digits)

/-- Digits, of which there has to be one. -/
def digits? (cs : List Char) : Option Nat :=
  if !cs.isEmpty && cs.all Char.isDigit then some (valueOf cs) else none

/-- The exponent at the end of a number, if there is one. -/
def exponent? : List Char → Option Int
  | [] => some 0
  | _ :: cs => do
      let (negative, digits) := signed cs
      let n ← digits? digits
      return if negative then -(n : Int) else n

/-- Digits with an optional point among them or at an end, and an optional exponent. -/
def decimal? (cs : List Char) : Option Decimal := do
  let body := cs.takeWhile (· ≠ 'e')
  let power ← exponent? (cs.dropWhile (· ≠ 'e'))
  let whole := body.takeWhile (· ≠ '.')
  let fraction := (body.dropWhile (· ≠ '.')).drop 1
  let digits ← digits? (whole ++ fraction)
  return ⟨digits, power - fraction.length⟩

/-- An unsigned number, in small letters. -/
def unsigned? (cs : List Char) : Option Binary :=
  if cs = "nan".toList then some .notANumber
  else if cs = "inf".toList ∨ cs = "infinity".toList then some (.infinite false)
  else (decimal? cs).map Decimal.toBinary

/-- **A numeral read as a number**, with the sign in front of it. -/
def readNumber? (cs : List Char) : Option (Bool × Binary) := do
  let (negative, body) := signed (← ungrouped? false (trim cs))
  let x ← unsigned? (body.map Char.toLower)
  return (negative, if negative then x.neg else x)

end Narrowing.Numeral
