import SpireEnroll.Value.Basic

/-!
# JSON

Reading and writing values as JSON text.

Reading accepts the JSON grammar with three additions, the words `NaN`, `Infinity`
and `-Infinity`. It follows arrays and objects inside one another only to a given
depth: it gives up on the first container that would go deeper, wherever the text
stands, as a reader that runs out of stack does. A number with a fraction or an exponent is a float, rounded to
nearest (so `1e400` is infinite); any other number is an integer of at most 4300
digits. A repeated key keeps its first position and takes the last value. Blanks
are space, tab, line feed and carriage return; a text may not hold a raw control
character. A lone surrogate escape has no character of its own and reads as its
stand-in (see `Text.Surrogate`), which is written back as the same escape.

Writing separates items by `", "` and keys from values by `": "`, keeps dictionary
order, writes every character outside printable ASCII as a `\u` escape (outside the
basic plane as a surrogate pair), and writes floats as displayed values do, with
`NaN`, `Infinity` and `-Infinity` for the special values.
-/

namespace SpireEnroll
namespace Json

/-- JSON blanks. -/
def isBlank (c : Char) : Bool :=
  c = ' ' || c = '\t' || c = '\n' || c = '\r'

def skipBlanks : List Char → List Char
  | [] => []
  | c :: cs => if isBlank c then skipBlanks cs else c :: cs

def asciiDigit? (c : Char) : Option Nat :=
  if '0' ≤ c ∧ c ≤ '9' then some (c.toNat - '0'.toNat) else none

def hexDigit? (c : Char) : Option Nat :=
  if '0' ≤ c ∧ c ≤ '9' then some (c.toNat - '0'.toNat)
  else if 'a' ≤ c ∧ c ≤ 'f' then some (c.toNat - 'a'.toNat + 10)
  else if 'A' ≤ c ∧ c ≤ 'F' then some (c.toNat - 'A'.toNat + 10)
  else none

def hex4? (a b c d : Char) : Option Nat := do
  let va ← hexDigit? a
  let vb ← hexDigit? b
  let vc ← hexDigit? c
  let vd ← hexDigit? d
  pure (((va * 16 + vb) * 16 + vc) * 16 + vd)

def charOfCode (n : Nat) : Char :=
  Text.charOfCode n

def charOfPair (hi lo : Nat) : Char :=
  Char.ofNat (0x10000 + (hi - 0xD800) * 0x400 + (lo - 0xDC00))

def isHighSurrogate (n : Nat) : Bool :=
  0xD800 ≤ n && n ≤ 0xDBFF

def isLowSurrogate (n : Nat) : Bool :=
  0xDC00 ≤ n && n ≤ 0xDFFF

def simpleEscape? : Char → Option Char
  | '"' => some '"'
  | '\\' => some '\\'
  | '/' => some '/'
  | 'b' => some '\x08'
  | 'f' => some '\x0c'
  | 'n' => some '\n'
  | 'r' => some '\r'
  | 't' => some '\t'
  | _ => none

def readText : List Char → List Char → Option (String × List Char)
  | [], _ => none
  | '"' :: rest, acc => some (String.ofList acc.reverse, rest)
  | '\\' :: 'u' :: a :: b :: c :: d :: '\\' :: 'u' :: e :: f :: g :: h :: rest, acc =>
    match hex4? a b c d with
    | none => none
    | some hi =>
      match hex4? e f g h with
      | some lo =>
        if isHighSurrogate hi && isLowSurrogate lo then readText rest (charOfPair hi lo :: acc)
        else readText ('\\' :: 'u' :: e :: f :: g :: h :: rest) (charOfCode hi :: acc)
      | none => readText ('\\' :: 'u' :: e :: f :: g :: h :: rest) (charOfCode hi :: acc)
  | '\\' :: 'u' :: a :: b :: c :: d :: rest, acc =>
    match hex4? a b c d with
    | none => none
    | some n => readText rest (charOfCode n :: acc)
  | '\\' :: e :: rest, acc =>
    match simpleEscape? e with
    | some c => readText rest (c :: acc)
    | none => none
  | c :: rest, acc => if c.toNat < 0x20 then none else readText rest (c :: acc)
  termination_by cs _ => cs.length

def spanDigits (cs : List Char) : List Char × List Char :=
  (cs.takeWhile (fun c => (asciiDigit? c).isSome), cs.dropWhile (fun c => (asciiDigit? c).isSome))

def natOfDigits (ds : List Char) : Nat :=
  ds.foldl (fun n c => n * 10 + (asciiDigit? c).getD 0) 0

def floatOfDecimal (m : Nat) (e : Int) : Float :=
  if m = 0 then 0.0
  else
    let size : Int := (Nat.toDigits 10 m).length
    if e + size > 400 then Float.ofScientific 1 false 400
    else if e + size < -400 then 0.0
    else if e < 0 then Float.ofScientific m true e.natAbs
    else Float.ofScientific m false e.toNat

def readNumber (cs : List Char) : Option (Value × List Char) :=
  let (neg, cs1) := match cs with
    | '-' :: r => (true, r)
    | r => (false, r)
  let intPart : Option (List Char × List Char) := match cs1 with
    | '0' :: r => some (['0'], r)
    | c :: r =>
      if '1' ≤ c ∧ c ≤ '9' then
        let (ds, r') := spanDigits r
        some (c :: ds, r')
      else none
    | [] => none
  match intPart with
  | none => none
  | some (ip, cs2) =>
    let (fp, cs3) : List Char × List Char := match cs2 with
      | '.' :: d :: r =>
        if (asciiDigit? d).isSome then
          let (ds, r') := spanDigits r
          (d :: ds, r')
        else ([], cs2)
      | _ => ([], cs2)
    let hasFrac := !fp.isEmpty
    let expPart : Option (Int × List Char) := match cs3 with
      | e :: r =>
        if e = 'e' ∨ e = 'E' then
          let (eneg, r1) := match r with
            | '-' :: r' => (true, r')
            | '+' :: r' => (false, r')
            | r' => (false, r')
          let (ds, r2) := spanDigits r1
          if ds.isEmpty then none
          else
            let n : Int := natOfDigits ds
            some (if eneg then -n else n, r2)
        else none
      | [] => none
    let (ex, rest) := match expPart with
      | some (x, r) => (some x, r)
      | none => (none, cs3)
    if hasFrac || ex.isSome then
      let m := natOfDigits (ip ++ fp)
      let x := floatOfDecimal m (ex.getD 0 - fp.length)
      some (.float (if neg then -x else x), rest)
    else if ip.length > 4300 then none
    else
      let n : Int := natOfDigits ip
      some (.int (if neg then -n else n), rest)

/-- The two containers of JSON. -/
inductive Container where
  | array
  | object
deriving DecidableEq, Repr

def Container.tooDeepMessage : Container → String
  | .array => "maximum recursion depth exceeded while decoding a JSON array from a unicode string"
  | .object => "maximum recursion depth exceeded while decoding a JSON object from a unicode string"

/-- Why a text was not read: it is not JSON, or it nests arrays and objects deeper
than the reader can follow, which gives up on the first container too many. -/
inductive Failure where
  | malformed
  | tooDeep (container : Container)
deriving DecidableEq, Repr

/-- A part that is read or is not there: what is not there is malformed. -/
def found {α : Type} : Option α → Except Failure α
  | some a => .ok a
  | none => .error .malformed

mutual
/-- One value at the head of the input (after blanks), and the rest, with `depth`
more arrays and objects that may be opened inside one another. -/
def readValue : Nat → Nat → List Char → Except Failure (Value × List Char)
  | 0, _, _ => .error .malformed
  | fuel + 1, depth, cs =>
    match cs with
    | '{' :: rest =>
      match depth with
      | 0 => .error (.tooDeep .object)
      | d + 1 => readEntries fuel d (skipBlanks rest) []
    | '[' :: rest =>
      match depth with
      | 0 => .error (.tooDeep .array)
      | d + 1 => readItems fuel d (skipBlanks rest) []
    | '"' :: rest => found ((readText rest []).map fun (s, r) => (.str s, r))
    | 'n' :: 'u' :: 'l' :: 'l' :: rest => .ok (.null, rest)
    | 't' :: 'r' :: 'u' :: 'e' :: rest => .ok (.bool true, rest)
    | 'f' :: 'a' :: 'l' :: 's' :: 'e' :: rest => .ok (.bool false, rest)
    | 'N' :: 'a' :: 'N' :: rest => .ok (.float (0.0 / 0.0), rest)
    | 'I' :: 'n' :: 'f' :: 'i' :: 'n' :: 'i' :: 't' :: 'y' :: rest =>
      .ok (.float (1.0 / 0.0), rest)
    | '-' :: 'I' :: 'n' :: 'f' :: 'i' :: 'n' :: 'i' :: 't' :: 'y' :: rest =>
      .ok (.float (-1.0 / 0.0), rest)
    | _ => found (readNumber cs)

def readEntries : Nat → Nat → List Char → List (String × Value) →
    Except Failure (Value × List Char)
  | 0, _, _, _ => .error .malformed
  | fuel + 1, depth, cs, acc =>
    match cs with
    | '}' :: rest => if acc.isEmpty then .ok (.dict [], rest) else .error .malformed
    | '"' :: rest =>
      match readText rest [] with
      | none => .error .malformed
      | some (key, r1) =>
        match skipBlanks r1 with
        | ':' :: r2 => do
          let (v, r3) ← readValue fuel depth (skipBlanks r2)
          let acc' := (key, v) :: acc
          match skipBlanks r3 with
          | ',' :: r4 => readEntries fuel depth (skipBlanks r4) acc'
          | '}' :: r4 => .ok (.dict (Value.entriesOfPairs acc'.reverse), r4)
          | _ => .error .malformed
        | _ => .error .malformed
    | _ => .error .malformed

def readItems : Nat → Nat → List Char → List Value → Except Failure (Value × List Char)
  | 0, _, _, _ => .error .malformed
  | fuel + 1, depth, cs, acc =>
    match cs with
    | ']' :: rest => if acc.isEmpty then .ok (.list [], rest) else .error .malformed
    | _ => do
      let (v, r1) ← readValue fuel depth cs
      match skipBlanks r1 with
      | ',' :: r2 => readItems fuel depth (skipBlanks r2) (v :: acc)
      | ']' :: r2 => .ok (.list (v :: acc).reverse, r2)
      | _ => .error .malformed
end

/-- A whole JSON text: one value between optional blanks, with at most `depth`
arrays and objects open inside one another. A leading byte-order mark is
refused. -/
def read (depth : Nat) (s : String) : Except Failure Value :=
  let cs := s.toList
  match cs with
  | '\uFEFF' :: _ => .error .malformed
  | _ => do
    let (v, rest) ← readValue (cs.length + 1) depth (skipBlanks cs)
    if (skipBlanks rest).isEmpty then .ok v else .error .malformed

def floatLayout : Decimal.Layout :=
  { Value.floatLayout with nan := "NaN", inf := "Infinity" }

def escapeChar (c : Char) : List Char :=
  let n := Text.codeOf c
  if c = '"' then ['\\', '"']
  else if c = '\\' then ['\\', '\\']
  else if c = '\n' then ['\\', 'n']
  else if c = '\r' then ['\\', 'r']
  else if c = '\t' then ['\\', 't']
  else if c = '\x08' then ['\\', 'b']
  else if c = '\x0c' then ['\\', 'f']
  else if 0x20 ≤ n ∧ n < 0x7F then [c]
  else if n < 0x10000 then ['\\', 'u'] ++ Text.hexDigits 4 n
  else
    let m := n - 0x10000
    ['\\', 'u'] ++ Text.hexDigits 4 (0xD800 + m / 0x400) ++
      ['\\', 'u'] ++ Text.hexDigits 4 (0xDC00 + m % 0x400)

def quote (s : String) : String :=
  String.ofList ('"' :: s.toList.flatMap escapeChar ++ ['"'])

def escapeCharKeeping (c : Char) : List Char :=
  if c = '"' then ['\\', '"']
  else if c = '\\' then ['\\', '\\']
  else if c = '\n' then ['\\', 'n']
  else if c = '\r' then ['\\', 'r']
  else if c = '\t' then ['\\', 't']
  else if c = '\x08' then ['\\', 'b']
  else if c = '\x0c' then ['\\', 'f']
  else if c.toNat < 0x20 then ['\\', 'u'] ++ Text.hexDigits 4 c.toNat
  else [c]

def quoteKeeping (s : String) : String :=
  String.ofList ('"' :: s.toList.flatMap escapeCharKeeping ++ ['"'])

mutual
/-- The JSON text of a value. -/
def write : Value → String
  | .null => "null"
  | .bool b => if b then "true" else "false"
  | .int n => toString n
  | .float x => floatLayout.render x
  | .str s => quote s
  | .list xs => "[" ++ ", ".intercalate (writeItems xs) ++ "]"
  | .dict es => "\x7b" ++ ", ".intercalate (writeEntries es) ++ "\x7d"

def writeItems : List Value → List String
  | [] => []
  | v :: vs => write v :: writeItems vs

def writeEntries : List (String × Value) → List String
  | [] => []
  | (k, v) :: es => (quote k ++ ": " ++ write v) :: writeEntries es
end

mutual
/-- The compact JSON text of a value: no blanks between items, characters outside
ASCII kept. -/
def writeCompact : Value → String
  | .str s => quoteKeeping s
  | .list xs => "[" ++ ",".intercalate (writeCompactItems xs) ++ "]"
  | .dict es => "\x7b" ++ ",".intercalate (writeCompactEntries es) ++ "\x7d"
  | v => write v

def writeCompactItems : List Value → List String
  | [] => []
  | v :: vs => writeCompact v :: writeCompactItems vs

def writeCompactEntries : List (String × Value) → List String
  | [] => []
  | (k, v) :: es => (quoteKeeping k ++ ":" ++ writeCompact v) :: writeCompactEntries es
end

end Json
end SpireEnroll
