import Narrowing.Text.Letter

/-!
# Tokens of expressions

An expression is read token by token. Blanks and remarks stand between tokens; the end of a
line counts outside brackets only, and a line that is not blank must not be indented there.

* `Token`: names, reserved words, numbers, texts, and signs;
* `tokens?`: the tokens of a text.
-/

namespace Narrowing.Text

/-- **The tokens of an expression.** Of a text only matters whether it is one of octets. -/
inductive Token where
  | name (written : String)
  | reserved (word : String)
  | number
  | text (octets : Bool)
  | sign (written : String)
  | lineEnd
deriving DecidableEq, Repr

namespace Token

/-- The words that are no names. -/
def reservedWords : List String :=
  ["False", "None", "True", "and", "as", "assert", "async", "await", "break", "class", "continue",
    "def", "del", "elif", "else", "except", "finally", "for", "from", "global", "if", "import", "in",
    "is", "lambda", "nonlocal", "not", "or", "pass", "raise", "return", "try", "while", "with",
    "yield"]

/-- The token that a word is. -/
def ofWord (word : String) : Token :=
  if reservedWords.contains word then reserved word else name word

/-- The signs of more than one character, longer ones first. -/
def longSigns : List String :=
  ["...", "**=", "//=", "<<=", ">>=", "**", "//", "<<", ">>", "<=", ">=", "==", "!=", "->", ":=",
    "+=", "-=", "*=", "/=", "%=", "&=", "|=", "^=", "@="]

/-- The signs of one character. -/
def shortSigns : List Char :=
  ['(', ')', '[', ']', '\x7b', '\x7d', ',', ':', '.', '=', '+', '-', '*', '/', '%', '&', '|', '^',
    '~', '<', '>', '@', ';']

/-- The sign that a text starts with, and what follows it. -/
def sign? (cs : List Char) : Option (Token × List Char) :=
  match longSigns.find? fun s => s.toList.isPrefixOf cs with
  | some s => some (sign s, cs.drop s.length)
  | none =>
      match cs with
      | c :: rest => if shortSigns.contains c then some (sign (String.singleton c), rest) else none
      | [] => none

/-- Whether a text starts with a digit. -/
def startsWith (isDigit : Char → Bool) : List Char → Bool
  | c :: _ => isDigit c
  | [] => false

/-- What follows a run of digits, in which single low lines may stand between two digits. -/
def afterDigits (isDigit : Char → Bool) : List Char → List Char
  | c :: rest =>
      if isDigit c || (c == '_' && startsWith isDigit rest) then afterDigits isDigit rest
      else c :: rest
  | [] => []

/-- What follows an exponent, if there is one. -/
def afterExponent (cs : List Char) : List Char :=
  match cs with
  | e :: rest =>
      if e == 'e' || e == 'E' then
        let unsigned := match rest with
          | '+' :: more | '-' :: more => more
          | more => more
        if startsWith Char.isDigit unsigned then afterDigits Char.isDigit unsigned else cs
      else cs
  | [] => []

/-- The words that may follow a number without a blank. -/
def wordsAfterNumber : List String := ["and", "else", "for", "if", "in", "is", "not", "or"]

/-- A number has ended: no name may follow at once, save for a few reserved words. -/
def endNumber (rest : List Char) : Option (Token × List Char) :=
  if startsWith isNamePart rest
      && !(wordsAfterNumber.any fun w => w.toList.isPrefixOf rest) then none
  else some (number, rest)

/-- A number in a base that is named in front of the digits. -/
def based? (isDigit : Char → Bool) (cs : List Char) : Option (Token × List Char) :=
  let digits := match cs with
    | '_' :: rest => rest
    | cs => cs
  if startsWith isDigit digits then endNumber (afterDigits isDigit digits) else none

/-- Whether a character is a digit in base sixteen. -/
def isHexDigit (c : Char) : Bool :=
  c.isDigit || ('a' ≤ c && c ≤ 'f') || ('A' ≤ c && c ≤ 'F')

/-- A number in base ten. Only zero may start with a zero, unless the number has a fraction, an
exponent or an imaginary unit. -/
def decimal? (cs : List Char) : Option (Token × List Char) :=
  let afterWhole := afterDigits Char.isDigit cs
  let whole := cs.take (cs.length - afterWhole.length)
  let afterFraction := match afterWhole with
    | '.' :: rest => if startsWith Char.isDigit rest then afterDigits Char.isDigit rest else rest
    | rest => rest
  let afterPower := afterExponent afterFraction
  let rest := match afterPower with
    | 'j' :: more | 'J' :: more => more
    | more => more
  let plain := rest.length == afterWhole.length
  if plain && whole.head? == some '0' && whole.any fun c => c != '0' && c != '_' then none
  else endNumber rest

/-- The number that a text starts with. -/
def number? (cs : List Char) : Option (Token × List Char) :=
  match cs with
  | '0' :: 'x' :: rest | '0' :: 'X' :: rest => based? isHexDigit rest
  | '0' :: 'o' :: rest | '0' :: 'O' :: rest => based? (fun c => '0' ≤ c && c ≤ '7') rest
  | '0' :: 'b' :: rest | '0' :: 'B' :: rest => based? (fun c => c == '0' || c == '1') rest
  | _ => decimal? cs

/-- How a text is written: raw, as octets, or with parts to fill in. -/
structure TextStyle where
  raw : Bool
  octets : Bool
  filled : Bool

/-- The style that a word in front of a quote stands for. -/
def textStyle? (word : String) : Option TextStyle :=
  match word.toLower with
  | "" | "u" => some ⟨false, false, false⟩
  | "r" => some ⟨true, false, false⟩
  | "b" => some ⟨false, true, false⟩
  | "br" | "rb" => some ⟨true, true, false⟩
  | "f" => some ⟨false, false, true⟩
  | "fr" | "rf" => some ⟨true, false, true⟩
  | _ => none

/-- Whether some digits in base sixteen name a character. -/
def namesCharacter (digits : List Char) : Bool :=
  digits.all isHexDigit
    && digits.foldl (fun n c => 16 * n + (if c.isDigit then c.toNat - '0'.toNat
        else c.toLower.toNat - 'a'.toNat + 10)) 0 ≤ 0x10ffff

/-- Whether what follows a backslash is complete: some letters announce digits. -/
def isEscape (s : TextStyle) (cs : List Char) : Bool :=
  let announced := fun n => (cs.drop 1).length ≥ n && namesCharacter ((cs.drop 1).take n)
  match cs.head? with
  | some 'x' => announced 2
  | some 'u' => s.octets || announced 4
  | some 'U' => s.octets || announced 8
  | some 'N' => s.octets
  | some _ => true
  | none => false

/-- What follows the text whose closing quote is next to come. A text of octets is written in
ASCII, and one with parts to fill in has none. -/
def afterText (s : TextStyle) (close : List Char) : List Char → Option (List Char)
  | [] => none
  | c :: rest =>
      if close.isPrefixOf (c :: rest) then some ((c :: rest).drop close.length)
      else if c == '\\' then
        match rest with
        | [] => none
        | d :: more =>
            if (s.raw || isEscape s (d :: more)) && !(s.octets && 0x80 ≤ d.toNat) then
              afterText s close more
            else none
      else if close.length == 1 && (c == '\n' || c == '\r') then none
      else if s.octets && 0x80 ≤ c.toNat then none
      else if s.filled && (c == '\x7b' || c == '\x7d') then none
      else afterText s close rest

/-- The text in quotes that a text starts with. Three quotes may stand for one. -/
def text? (s : TextStyle) (cs : List Char) : Option (Token × List Char) :=
  match cs with
  | q :: rest =>
      let body := match rest with
        | a :: b :: more => if a == q && b == q then (more, [q, q, q]) else (rest, [q])
        | _ => (rest, [q])
      (afterText s body.2 body.1).map fun after => (text s.octets, after)
  | [] => none

/-- Whether a character is a quote. -/
def isQuote (c : Char) : Bool := c == '"' || c.toNat == 0x27

/-- The token that a text starts with. -/
def next? (cs : List Char) : Option (Token × List Char) :=
  match cs with
  | [] => none
  | c :: rest =>
      if isNameStart c then
        let word := String.ofList (cs.takeWhile isNamePart)
        let after := cs.dropWhile isNamePart
        if startsWith isQuote after then
          match textStyle? word with
          | some s => text? s after
          | none => some (ofWord word, after)
        else some (ofWord word, after)
      else if isQuote c then text? ⟨false, false, false⟩ cs
      else if c.isDigit || (c == '.' && startsWith Char.isDigit rest) then number? cs
      else sign? cs

/-- The depth of brackets after a token. -/
def depthAfter (depth : Nat) : Token → Nat
  | sign s =>
      if ["(", "[", "\x7b"].contains s then depth + 1
      else if [")", "]", "\x7d"].contains s then depth - 1
      else depth
  | _ => depth

/-- Whether a character separates tokens without ending a line. -/
def isGap (c : Char) : Bool := c == ' ' || c == '\t' || c == '\x0c'

/-- Whether a text has nothing more on its line, which ends there. -/
def endsLine : List Char → Bool
  | [] => false
  | c :: _ => c == '\n' || c == '#'

/-- What follows the blanks at the start of a line; the line is indented unless a form feed comes
last among them. -/
def afterIndent (cs : List Char) : Option (List Char) :=
  let gap := cs.takeWhile isGap
  let rest := cs.dropWhile isGap
  if endsLine rest || gap.isEmpty || gap.getLast? == some '\x0c' then some rest else none

/-- The tokens from a place on: `depth` counts the brackets that are open, and `fresh` says that
nothing has come on this line. -/
def scan : (fuel : Nat) → (depth : Nat) → (fresh : Bool) → List Char → Option (List Token)
  | 0, _, _, _ => none
  | fuel + 1, depth, fresh, cs => do
      let cs ← if fresh && depth == 0 then afterIndent cs else some (cs.dropWhile isGap)
      match cs with
      | [] => some []
      | '#' :: rest => scan fuel depth fresh (rest.dropWhile (· != '\n'))
      | '\n' :: rest =>
          if fresh || 0 < depth then scan fuel depth fresh rest
          else (lineEnd :: ·) <$> scan fuel depth true rest
      | '\\' :: '\n' :: rest => if rest.isEmpty then none else scan fuel depth false rest
      | cs => do
          let (t, rest) ← next? cs
          (t :: ·) <$> scan fuel (depthAfter depth t) false rest

end Token

/-- Line ends of either kind as one. -/
def unifyLines : List Char → List Char
  | '\r' :: '\n' :: rest => '\n' :: unifyLines rest
  | '\r' :: rest => '\n' :: unifyLines rest
  | c :: rest => c :: unifyLines rest
  | [] => []

/-- **The tokens of a text**, if it is made of tokens. -/
def tokens? (text : String) : Option (List Token) :=
  let cs := unifyLines text.toList
  Token.scan (cs.length + 1) 0 true cs

end Narrowing.Text
