import Narrowing.Text.Printable

/-!
# Quoted texts

The written form of a text or of raw octets: between quotes, with everything that
is not printable escaped.

* `quote`: single quotes, unless the text holds a single quote and no double one;
* `escapeChar`: a backslash before the quote in use and before a backslash, short
  escapes for tab and line ends, and code points in hexadecimal digits otherwise;
* `quoteOctets`: the same for octets, of which only those of printable ASCII
  characters stand for themselves.
-/

namespace Narrowing.Text

/-- A number in lower-case hexadecimal digits, filled up to a width with zeros. -/
def hex (width n : Nat) : String :=
  let digits := Nat.toDigits 16 n
  String.ofList (List.replicate (width - digits.length) '0' ++ digits)

/-- The escape of a code point: two, four or eight digits. -/
def escapeCode (n : Nat) : String :=
  if n < 0x100 then "\\x" ++ hex 2 n
  else if n < 0x10000 then "\\u" ++ hex 4 n
  else "\\U" ++ hex 8 n

/-- A character between quotes. -/
def escapeChar (quoteChar c : Char) : String :=
  if c = quoteChar ∨ c = '\\' then String.ofList ['\\', c]
  else if c = '\t' then "\\t"
  else if c = '\n' then "\\n"
  else if c = '\r' then "\\r"
  else if isPrintable c then String.singleton c
  else escapeCode c.toNat

/-- The quote to use around some characters. -/
def quoteFor (cs : List Char) : Char :=
  if cs.contains '\'' && !cs.contains '"' then '"' else '\''

/-- Characters between quotes, each escaped in its own way. -/
def enclose (q : Char) (items : List String) : String :=
  String.singleton q ++ String.join items ++ String.singleton q

/-- **The written form of a text.** -/
def quote (s : String) : String :=
  let q := quoteFor s.toList
  enclose q (s.toList.map (escapeChar q))

/-- An octet between quotes. -/
def escapeOctet (q : Char) (b : UInt8) : String :=
  let c := Char.ofNat b.toNat
  if 0x20 ≤ b.toNat ∧ b.toNat < 0x7f ∨ c = '\t' ∨ c = '\n' ∨ c = '\r' then escapeChar q c
  else escapeCode b.toNat

/-- **The written form of raw octets.** -/
def quoteOctets (bs : List UInt8) : String :=
  let q := quoteFor (bs.map fun b => Char.ofNat b.toNat)
  "b" ++ enclose q (bs.map (escapeOctet q))

end Narrowing.Text
