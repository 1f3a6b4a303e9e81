/-!
# Binary floating-point numbers

A number written with a decimal point or an exponent stands for a binary number of
53 significant bits: the one nearest to it, the even one of two that are equally
near. Numbers are compared by their exact values, whatever form they come in.

* `Binary.ofRatio`: the number nearest to a quotient;
* `Binary.lt`, `Binary.eq`: the exact comparisons; `notANumber` compares with nothing;
* `Binary.residue`: the value modulo 2⁶¹ − 1, on which integers and fractions agree.
-/

namespace Narrowing

/-- A binary number: `mantissa · 2 ^ exponent`, an infinity, or no number at all. -/
inductive Binary where
  | notANumber
  | infinite (negative : Bool)
  | finite (mantissa : Int) (exponent : Int)
deriving DecidableEq, Repr

namespace Binary

/-- The integer `n` as a binary number. No rounding takes place. -/
def ofInt (n : Int) : Binary := finite n 0

/-- A quotient rounded to the nearest integer, and to the even one of two. -/
def roundDiv (num den : Nat) : Nat :=
  let q := num / den
  let r := num % den
  if 2 * r < den then q else if den < 2 * r then q + 1 else q + q % 2

/-- The binary number nearest to `num / den`, where `den` is positive. -/
def ofRatio (num den : Nat) : Binary :=
  if num = 0 then finite 0 0
  else
    -- the exponent that leaves 53 bits, or the least one there is
    let estimate : Int := (num.log2 : Int) - (den.log2 : Int) - 52
    let fits (e : Int) : Bool :=
      if 0 ≤ e then num < Nat.pow 2 53 * (den * Nat.pow 2 e.toNat)
      else num * Nat.pow 2 (-e).toNat < Nat.pow 2 53 * den
    let e := max (if fits (estimate - 1) then estimate - 1 else if fits estimate then estimate
      else estimate + 1) (-1074)
    let m := if 0 ≤ e then roundDiv num (den * Nat.pow 2 e.toNat)
      else roundDiv (num * Nat.pow 2 (-e).toNat) den
    if 971 < e ∨ (e = 971 ∧ m = Nat.pow 2 53) then infinite false else finite m e

/-- The number of the opposite sign. -/
def neg : Binary → Binary
  | notANumber => notANumber
  | infinite n => infinite !n
  | finite m e => finite (-m) e

/-- Two mantissas brought to the same exponent. -/
def align (m : Int) (e : Int) (n : Int) (f : Int) : Int × Int :=
  (m * Int.pow 2 (e - f).toNat, n * Int.pow 2 (f - e).toNat)

/-- Exact equality of values. Nothing equals what is not a number. -/
def eq : Binary → Binary → Bool
  | infinite a, infinite b => a == b
  | finite m e, finite n f => let (x, y) := align m e n f; x == y
  | _, _ => false

/-- Exact order of values. What is not a number is in no order. -/
def lt : Binary → Binary → Bool
  | infinite a, infinite b => a && !b
  | infinite a, finite .. => a
  | finite .., infinite b => !b
  | finite m e, finite n f => let (x, y) := align m e n f; x < y
  | _, _ => false

/-- Whether a number is zero. -/
def isZero : Binary → Bool
  | finite m _ => m == 0
  | _ => false

/-- The modulus of residues. -/
def modulus : Nat := Nat.pow 2 61 - 1

/-- **The residue of a value**, with its sign. Two to the 61st is one modulo `modulus`,
so that a power of two only counts modulo 61. -/
def residue : Binary → Int
  | notANumber => 0
  | infinite negative => if negative then -314159 else 314159
  | finite m e =>
      let r : Nat := (m.natAbs * Nat.pow 2 (e % 61).toNat) % modulus
      if m < 0 then -(r : Int) else r

end Binary

end Narrowing
