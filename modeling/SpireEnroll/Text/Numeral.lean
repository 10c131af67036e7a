import SpireEnroll.Value.Json

/-!
# Numerals

Integers and decimal numbers written as text, as settings give them.

Before reading, every non-ASCII blank counts as a space and every decimal digit
of any script as its ASCII digit; any other non-ASCII character spoils the
numeral. Then ASCII blanks around the numeral are ignored, and a single
underscore may stand between two digits.

* An *integer* is an optional sign and at least one digit, of at most 4300 digits.
* A *decimal* is an optional sign and either digits with an optional point and
  fraction (at least one digit in all) followed by an optional exponent, or one of
  the words `inf`, `infinity`, `nan` in any case. Its value is the nearest float;
  a huge one is infinite, a tiny one zero.
-/

/-!
## Decimal digits and blanks

Numerals may be written with the decimal digits of any script (Unicode 14.0,
general category Nd). These come in runs of ten consecutive code points, zero to
nine, so a table of the first code point of each run decides both whether a
character is a digit and which. Blanks are the characters that separate words:
Unicode white space, together with the ASCII information separators.
-/

namespace SpireEnroll
namespace Text

def digitZeros : Array Nat := #[
  0x30, 0x660, 0x6F0, 0x7C0, 0x966, 0x9E6, 0xA66, 0xAE6, 0xB66, 0xBE6,
  0xC66, 0xCE6, 0xD66, 0xDE6, 0xE50, 0xED0, 0xF20, 0x1040, 0x1090, 0x17E0,
  0x1810, 0x1946, 0x19D0, 0x1A80, 0x1A90, 0x1B50, 0x1BB0, 0x1C40, 0x1C50, 0xA620,
  0xA8D0, 0xA900, 0xA9D0, 0xA9F0, 0xAA50, 0xABF0, 0xFF10, 0x104A0, 0x10D30, 0x11066,
  0x110F0, 0x11136, 0x111D0, 0x112F0, 0x11450, 0x114D0, 0x11650, 0x116C0, 0x11730, 0x118E0,
  0x11950, 0x11C50, 0x11D50, 0x11DA0, 0x16A60, 0x16AC0, 0x16B50, 0x1D7CE, 0x1D7D8, 0x1D7E2,
  0x1D7EC, 0x1D7F6, 0x1E140, 0x1E2F0, 0x1E950, 0x1FBF0
]

def digitValue? (c : Char) : Option Nat :=
  let n := c.toNat
  match digitZeros.toList.find? (fun z => z ≤ n ∧ n < z + 10) with
  | some z => some (n - z)
  | none => none

def blankPoints : List Nat := [0x9, 0xA, 0xB, 0xC, 0xD, 0x1C, 0x1D, 0x1E, 0x1F, 0x20, 0x85, 0xA0, 0x1680, 0x2000, 0x2001, 0x2002, 0x2003, 0x2004, 0x2005, 0x2006, 0x2007, 0x2008, 0x2009, 0x200A, 0x2028, 0x2029, 0x202F, 0x205F, 0x3000]

/-- A blank character: trimmed from both ends of a numeral. -/
def isBlank (c : Char) : Bool :=
  blankPoints.contains c.toNat

def isAsciiBlank (c : Char) : Bool :=
  c = ' ' || c = '\t' || c = '\n' || c = '\x0b' || c = '\x0c' || c = '\r'

end Text
namespace Numeral

def asciiForm (c : Char) : Option Char :=
  if c.toNat < 127 then some c
  else if Text.isBlank c then some ' '
  else (Text.digitValue? c).map fun d => Char.ofNat ('0'.toNat + d)

def asciiText (s : String) : Option (List Char) :=
  s.toList.mapM asciiForm

def isDigit (c : Char) : Bool :=
  '0' ≤ c && c ≤ '9'

def trim (cs : List Char) : List Char :=
  ((cs.dropWhile Text.isAsciiBlank).reverse.dropWhile Text.isAsciiBlank).reverse

def underscoresBetweenDigits (cs : List Char) : Bool :=
  go ' ' cs
where
  go (prev : Char) : List Char → Bool
    | [] => prev != '_'
    | '_' :: rest => isDigit prev && go '_' rest
    | c :: rest => (prev != '_' || isDigit c) && go c rest

def sign : List Char → Bool × List Char
  | '-' :: rest => (true, rest)
  | '+' :: rest => (false, rest)
  | cs => (false, cs)

/-- An integer numeral. -/
def readInt? (s : String) : Option Int := do
  let cs ← asciiText s
  if !underscoresBetweenDigits cs then none
  let (neg, body) := sign (trim cs)
  let ds := body.filter (· != '_')
  if ds.isEmpty || !ds.all isDigit || ds.length > 4300 then none
  let n : Int := Json.natOfDigits ds
  pure (if neg then -n else n)

/-- Why a text is not an integer in a base. -/
inductive IntTextError where
  | invalid
  /-- More decimal digits than may be converted (the count is given). -/
  | tooLong (digits : Nat)
deriving Repr, DecidableEq

def digitOf (c : Char) : Nat :=
  if '0' ≤ c && c ≤ '9' then c.toNat - '0'.toNat
  else if 'a' ≤ c && c ≤ 'z' then c.toNat - 'a'.toNat + 10
  else if 'A' ≤ c && c ≤ 'Z' then c.toNat - 'A'.toNat + 10
  else 99

def doubleUnderscore : List Char → Bool
  | '_' :: '_' :: _ => true
  | _ :: rest => doubleUnderscore rest
  | [] => false

/-- An integer numeral in base 2, 8, 10 or 16: blanks around it, an optional
sign, in bases 2, 8 and 16 an optional prefix `0b`, `0o`, `0x` (any case) which one
underscore may follow, then digits of the base, single underscores between them.
A decimal numeral of more than 4300 digits is refused as too long, even before
what follows the digits is looked at. -/
def readIntIn (base : Nat) (s : String) : Except IntTextError Int := do
  let some cs := asciiText s | throw .invalid
  let (neg, cs) := sign (cs.dropWhile Text.isAsciiBlank)
  let prefixed := match cs with
    | '0' :: p :: _ =>
      (base == 16 && (p == 'x' || p == 'X')) || (base == 8 && (p == 'o' || p == 'O')) ||
        (base == 2 && (p == 'b' || p == 'B'))
    | _ => false
  let cs := if prefixed then
      (match cs.drop 2 with
        | '_' :: r => r
        | r => r)
    else cs
  if cs.head? == some '_' then throw .invalid
  let run := cs.takeWhile (fun c => digitOf c < base || c == '_')
  if doubleUnderscore run || run.getLast? == some '_' then throw .invalid
  let ds := run.filter (· != '_')
  if base == 10 && ds.length > 4300 then throw (.tooLong ds.length)
  if ds.isEmpty then throw .invalid
  if !((cs.drop run.length).dropWhile Text.isAsciiBlank).isEmpty then throw .invalid
  let n : Int := ds.foldl (fun n c => n * base + digitOf c) 0
  pure (if neg then -n else n)

def lowerAll (cs : List Char) : List Char :=
  cs.map Char.toLower

def readUnsignedDecimal? (cs : List Char) : Option Float :=
  let intDigits := cs.takeWhile isDigit
  let rest := cs.dropWhile isDigit
  let (fracDigits, rest) := match rest with
    | '.' :: r => (r.takeWhile isDigit, r.dropWhile isDigit)
    | r => ([], r)
  if intDigits.isEmpty && fracDigits.isEmpty then none
  else
    let expPart : Option Int := match rest with
      | [] => some 0
      | e :: r =>
        if e = 'e' ∨ e = 'E' then
          let (eneg, r') := sign r
          if !r'.isEmpty && r'.all isDigit then
            let n : Int := Json.natOfDigits r'
            some (if eneg then -n else n)
          else none
        else none
    expPart.map fun ex =>
      Json.floatOfDecimal (Json.natOfDigits (intDigits ++ fracDigits)) (ex - fracDigits.length)

/-- A decimal numeral. -/
def readFloat? (s : String) : Option Float := do
  let cs ← asciiText s
  if !underscoresBetweenDigits cs then none
  let body := trim (cs.filter (· != '_'))
  let (neg, rest) := sign body
  let word := lowerAll rest
  let magnitude ←
    if word = "inf".toList || word = "infinity".toList then some (1.0 / 0.0)
    else if word = "nan".toList then some (0.0 / 0.0)
    else readUnsignedDecimal? rest
  pure (if neg then -magnitude else magnitude)

end Numeral
end SpireEnroll
