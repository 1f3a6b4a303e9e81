import Narrowing.Number.Binary

/-!
# Decimals

A binary number is written with the fewest decimal digits that read back as that number; of two
such decimals with equally many digits the nearer one is taken, and of two equally near ones the
even one. Numbers from a ten-thousandth up to ten to the sixteenth are written with all their
places, the others with an exponent.

* `Decimal.toBinary`: the binary number that a decimal stands for;
* `Decimal.shortest`: the decimal that a binary number is written as;
* `Binary.written`: the written form of a number.
-/

namespace Narrowing

/-- A decimal: `digits · 10 ^ exponent`. -/
structure Decimal where
  digits : Nat
  exponent : Int
deriving DecidableEq, Repr

namespace Decimal

/-- **The binary number nearest to a decimal.** A decimal whose first digit is too far from the
point is infinite, or zero, before anything is computed. -/
def toBinary (d : Decimal) : Binary :=
  let point : Int := (Nat.toDigits 10 d.digits).length + d.exponent
  if d.digits = 0 ∨ point < -330 then .finite 0 0
  else if 310 < point then .infinite false
  else .ofRatio (d.digits * Nat.pow 10 d.exponent.toNat) (Nat.pow 10 (-d.exponent).toNat)

/-- Whether a decimal reads back as a number. -/
def readsAs (d : Decimal) (x : Binary) : Bool := d.toBinary.eq x

/-- The decimal with an exponent that is written for `num / den`: one of the two next to it, if
it reads back. -/
def onGrid? (num den : Nat) (exponent : Int) : Option Decimal :=
  let a := num * Nat.pow 10 (-exponent).toNat
  let b := den * Nat.pow 10 exponent.toNat
  let below : Decimal := ⟨a / b, exponent⟩
  let above : Decimal := ⟨a / b + 1, exponent⟩
  let x := Binary.ofRatio num den
  match below.readsAs x, above.readsAs x with
  | true, true => some ⟨Binary.roundDiv a b, exponent⟩
  | true, false => some below
  | false, true => some above
  | false, false => none

/-- **The decimal that the positive number `m · 2 ^ e` is written as.** The search goes from a
power of ten above the number to finer and finer steps. Seventeen digits are enough for every
number; the exact decimal stands at the end of the search, so that it cannot fail. -/
def shortest (m : Nat) (e : Int) : Decimal :=
  let num := m * Nat.pow 2 e.toNat
  let den := Nat.pow 2 (-e).toNat
  let top : Int := (Nat.toDigits 10 (num / den)).length - (Nat.toDigits 10 (den / num)).length + 1
  let exact : Decimal := ⟨m * Nat.pow 2 e.toNat * Nat.pow 5 (-e).toNat, min e 0⟩
  ((List.range 20).findSome? fun (step : Nat) => onGrid? num den (top - step)).getD exact

/-- The written exponent: a sign, and two digits or more. -/
def exponentText (n : Int) : String :=
  let digits := Nat.toDigits 10 n.natAbs
  let zeros := List.replicate (2 - digits.length) '0'
  String.ofList ((if n < 0 then '-' else '+') :: zeros ++ digits)

/-- **The written form of a decimal.** -/
def written (d : Decimal) : String :=
  let digits := Nat.toDigits 10 d.digits
  let count := digits.length
  -- the number of digits in front of the point
  let point : Int := count + d.exponent
  let zeros (n : Int) := List.replicate n.toNat '0'
  if point < -3 ∨ 16 < point then
    let mantissa := if count ≤ 1 then digits else digits.take 1 ++ '.' :: digits.drop 1
    s!"{String.ofList mantissa}e{exponentText (point - 1)}"
  else if point ≤ 0 then String.ofList ('0' :: '.' :: zeros (-point) ++ digits)
  else if count ≤ point then String.ofList (digits ++ zeros (point - count) ++ ['.', '0'])
  else String.ofList (digits.take point.toNat ++ '.' :: digits.drop point.toNat)

end Decimal

namespace Binary

/-- **The written form of a number.** Zero has a sign that the number does not tell. -/
def written (negative : Bool) : Binary → String
  | notANumber => "nan"
  | infinite n => if n then "-inf" else "inf"
  | finite m e =>
      let size := if m = 0 then "0.0" else (Decimal.shortest m.natAbs e).written
      if m < 0 ∨ (m = 0 ∧ negative) then "-" ++ size else size

end Binary

end Narrowing
