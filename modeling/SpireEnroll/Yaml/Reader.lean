import SpireEnroll.Yaml.Token

/-!
# The scanner's state and its reading steps

The scanner walks the character array once. Besides its position it keeps the
tokens it has found but not yet handed out, the indentation levels of the open
block collections, how deep it is inside flow collections, and the *possible
simple keys*: places where a scalar or flow collection may turn out to be a
mapping key once a `:` follows on the same line.

Stepping over a character moves to the next line after a line feed, a carriage
return not followed by a line feed, a next-line character or a line or paragraph
separator; a byte order mark takes no column.

Every loop of the scanner is bounded by the number of characters, which no loop
can outlast since each round reads at least one character.
-/

namespace SpireEnroll
namespace Yaml

/-- A place that may start a simple key. -/
structure SimpleKey where
  /-- The number the key's token will have among all tokens. -/
  tokenNumber : Nat
  /-- Whether a key must be found here (the place opens a block mapping entry). -/
  required : Bool
  mark : Mark
deriving Repr, Inhabited

/-- The scanner's state. -/
structure Scanner where
  buf : Array Char
  ptr : Nat
  line : Nat
  column : Nat
  /-- Whether the end of the stream has been reached. -/
  done : Bool
  flowLevel : Nat
  /-- Tokens found and not yet handed out. -/
  tokens : List Token
  /-- How many tokens have been handed out. -/
  tokensTaken : Nat
  indent : Int
  /-- The enclosing indentation levels, innermost first. -/
  indents : List Int
  allowSimpleKey : Bool
  /-- Possible simple keys by flow level, oldest first. -/
  simpleKeys : List (Nat × SimpleKey)
deriving Inhabited

namespace Scanner

def bufferOf (text : String) : Array Char :=
  (text.toList ++ ['\x00']).toArray

def init (text : String) : Scanner :=
  let m : Mark := ⟨0, 0, 0⟩
  { buf := bufferOf text, ptr := 0, line := 0, column := 0, done := false, flowLevel := 0,
    tokens := [⟨.streamStart, m, m⟩], tokensTaken := 0, indent := -1, indents := [],
    allowSimpleKey := true, simpleKeys := [] }

def peekAt (s : Scanner) (i : Nat) : Char :=
  charAt s.buf (s.ptr + i)

def mark (s : Scanner) : Mark :=
  ⟨s.ptr, s.line, s.column⟩

def advance (s : Scanner) : Scanner :=
  let ch := s.peekAt 0
  if ch == '\n' || ch == '\x85' || ch == '\u2028' || ch == '\u2029' ||
      (ch == '\r' && s.peekAt 1 != '\n') then
    { s with ptr := s.ptr + 1, line := s.line + 1, column := 0 }
  else if ch != '\uFEFF' then { s with ptr := s.ptr + 1, column := s.column + 1 }
  else { s with ptr := s.ptr + 1 }

def advanceBy (s : Scanner) : Nat → Scanner
  | 0 => s
  | n + 1 => (s.advance).advanceBy n

def ahead (s : Scanner) (n : Nat) : String :=
  String.ofList (s.buf.extract s.ptr (s.ptr + n)).toList

def span (s : Scanner) (p : Char → Bool) (i : Nat) : Nat :=
  if _h : s.ptr + i < s.buf.size then
    if p (s.peekAt i) then s.span p (i + 1) else i
  else i
termination_by s.buf.size - (s.ptr + i)

def fuel (s : Scanner) : Nat :=
  s.buf.size + 1

end Scanner

abbrev ScanM := StateT Scanner (Except YamlError)

def peek (i : Nat) : ScanM Char :=
  return (← get).peekAt i

def forward (n : Nat) : ScanM Unit :=
  modify (·.advanceBy n)

def getMark : ScanM Mark :=
  return (← get).mark

def ahead (n : Nat) : ScanM String :=
  return (← get).ahead n

def failHere {α : Type} (context : Option String) (contextMark : Option Mark)
    (problem : String) : ScanM α := do
  throw (.marked context contextMark problem (← getMark))

def skipWhile (p : Char → Bool) : ScanM Unit := do
  forward ((← get).span p 0)

def skipSpaces : ScanM Unit :=
  skipWhile (· == ' ')

def skipComment : ScanM Unit := do
  if (← peek 0) == '#' then skipWhile (fun c => !isBreakOrEnd c)

def skipIndentSpaces (indent : Int) : ScanM Unit := do
  let s ← get
  let room := (indent - s.column).toNat
  forward (min room (s.span (· == ' ') 0))

def scanLineBreak : ScanM String := do
  let ch ← peek 0
  if ch == '\r' || ch == '\n' || ch == '\x85' then
    if ch == '\r' && (← peek 1) == '\n' then forward 2 else forward 1
    return "\n"
  else if ch == '\u2028' || ch == '\u2029' then
    forward 1
    return String.singleton ch
  else return ""

def isDigitChar (c : Char) : Bool :=
  '0' ≤ c && c ≤ '9'

def isHexChar (c : Char) : Bool :=
  isDigitChar c || ('a' ≤ c && c ≤ 'f') || ('A' ≤ c && c ≤ 'F')

def isWordChar (c : Char) : Bool :=
  isDigitChar c || ('A' ≤ c && c ≤ 'Z') || ('a' ≤ c && c ≤ 'z') || c == '-' || c == '_'

def hexValue (s : String) : Nat :=
  s.foldl (fun n c =>
    n * 16 + (if isDigitChar c then c.toNat - '0'.toNat
      else if 'a' ≤ c && c ≤ 'f' then c.toNat - 'a'.toNat + 10
      else c.toNat - 'A'.toNat + 10)) 0

def decimalValue (s : String) : Nat :=
  s.foldl (fun n c => n * 10 + (c.toNat - '0'.toNat)) 0

end Yaml
end SpireEnroll
