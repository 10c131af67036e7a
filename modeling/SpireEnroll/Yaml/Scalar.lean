import SpireEnroll.Yaml.Reader

/-!
# Scanning scalars

Three kinds of scalar text are read here.

* *Quoted* scalars run to the closing quote. In single quotes a doubled quote
  stands for one; in double quotes a backslash starts an escape: a letter for a
  control character, `x`, `u` or `U` with two, four or eight hexadecimal digits
  for a code point, or a line break that joins the lines. Inside quotes a single
  line break between lines reads as a space, and each further empty line as a
  line feed; a document marker at the start of a line, or the end of the input,
  is an error.
* *Block* scalars (`|` literal, `>` folded) take the lines indented at least as
  far as their first line, or as the header's indentation indicator says; the
  chomping indicator decides whether the final line break (`-` no, default yes)
  and trailing empty lines (`+` yes) are kept. Folding joins two lines of text
  that do not start with a blank by a space.
* *Plain* scalars run until `: `, ` #`, a line end, or in a flow collection any of
  `,[]{}`; they continue on following lines indented more than the enclosing
  block, lines being joined as inside quotes.
-/

namespace SpireEnroll
namespace Yaml

def escapeReplacement : Char → Option Char
  | '0' => some '\x00'
  | 'a' => some '\x07'
  | 'b' => some '\x08'
  | 't' => some '\t'
  | '\t' => some '\t'
  | 'n' => some '\n'
  | 'v' => some '\x0b'
  | 'f' => some '\x0c'
  | 'r' => some '\r'
  | 'e' => some '\x1b'
  | ' ' => some ' '
  | '"' => some '"'
  | '\\' => some '\\'
  | '/' => some '/'
  | 'N' => some '\x85'
  | '_' => some '\xa0'
  | 'L' => some '\u2028'
  | 'P' => some '\u2029'
  | _ => none

def escapeWidth : Char → Option Nat
  | 'x' => some 2
  | 'u' => some 4
  | 'U' => some 8
  | _ => none

def atDocumentMarker : ScanM Bool := do
  let pre ← ahead 3
  return (pre == "---" || pre == "...") && isBlankOrEnd (← peek 3)

def quotedBreaks (start : Mark) : Nat → List String → ScanM (List String)
  | 0, acc => pure acc.reverse
  | fuel + 1, acc => do
    if (← atDocumentMarker) then
      failHere (some "while scanning a quoted scalar") (some start)
        "found unexpected document separator"
    skipWhile (fun c => c == ' ' || c == '\t')
    if isBreak (← peek 0) then
      let br ← scanLineBreak
      quotedBreaks start fuel (br :: acc)
    else pure acc.reverse

def joinBreaks (lineBreak : String) (breaks : List String) : String :=
  (if lineBreak != "\n" then lineBreak else if breaks.isEmpty then " " else "") ++
    String.join breaks

def quotedText (double : Bool) (start : Mark) : Nat → String → ScanM String
  | 0, acc => pure acc
  | fuel + 1, acc => do
    let s ← get
    let n := s.span (fun c => !(c == '\'' || c == '"' || c == '\\' || isBlankOrEnd c)) 0
    let acc := acc ++ s.ahead n
    forward n
    let ch ← peek 0
    if !double && ch == '\'' && (← peek 1) == '\'' then
      forward 2
      quotedText double start fuel (acc ++ "'")
    else if (double && ch == '\'') || (!double && (ch == '"' || ch == '\\')) then
      forward 1
      quotedText double start fuel (acc.push ch)
    else if double && ch == '\\' then
      forward 1
      let ch ← peek 0
      match escapeReplacement ch, escapeWidth ch with
      | some r, _ =>
        forward 1
        quotedText double start fuel (acc.push r)
      | none, some w =>
        forward 1
        let s ← get
        match (List.range w).find? (fun k => !isHexChar (s.peekAt k)) with
        | some k =>
          failHere (some "while scanning a double-quoted scalar") (some start)
            ("expected escape sequence of " ++ toString w ++
              " hexadecimal numbers, but found " ++ quoteChar (s.peekAt k))
        | none =>
          let code := hexValue (s.ahead w)
          if code > 0x10FFFF then
            throw (.failure "ValueError" "chr() arg not in range(0x110000)")
          forward w
          quotedText double start fuel (acc.push (Text.charOfCode code))
      | none, none =>
        if isBreak ch then
          let _ ← scanLineBreak
          let brs ← quotedBreaks start fuel []
          quotedText double start fuel (acc ++ String.join brs)
        else
          failHere (some "while scanning a double-quoted scalar") (some start)
            ("found unknown escape character " ++ quoteChar ch)
    else pure acc

def quotedSpaces (start : Mark) (fuel : Nat) : ScanM String := do
  let s ← get
  let n := s.span (fun c => c == ' ' || c == '\t') 0
  let ws := s.ahead n
  forward n
  let ch ← peek 0
  if ch == '\x00' then
    failHere (some "while scanning a quoted scalar") (some start) "found unexpected end of stream"
  else if isBreak ch then
    let lb ← scanLineBreak
    let brs ← quotedBreaks start fuel []
    pure (joinBreaks lb brs)
  else pure ws

def quotedRest (double : Bool) (quote : Char) (start : Mark) : Nat → String → ScanM String
  | 0, acc => pure acc
  | fuel + 1, acc => do
    if (← peek 0) != quote then
      let sp ← quotedSpaces start fuel
      let tx ← quotedText double start fuel ""
      quotedRest double quote start fuel (acc ++ sp ++ tx)
    else pure acc

def scanQuoted (double : Bool) : ScanM Token := do
  let start ← getMark
  let quote ← peek 0
  forward 1
  let fuel := (← get).fuel
  let first ← quotedText double start fuel ""
  let text ← quotedRest double quote start fuel first
  forward 1
  return ⟨.scalar text false, start, ← getMark⟩

def blockIndicators (start : Mark) : ScanM (Option Bool × Option Nat) := do
  let zero : ScanM Unit :=
    failHere (some "while scanning a block scalar") (some start)
      "expected indentation indicator in the range 1-9, but found 0"
  let ch ← peek 0
  let result ←
    if ch == '+' || ch == '-' then do
      forward 1
      let d ← peek 0
      if isDigitChar d then
        if d == '0' then zero
        forward 1
        pure (some (ch == '+'), some (d.toNat - '0'.toNat))
      else pure (some (ch == '+'), none)
    else if isDigitChar ch then do
      if ch == '0' then zero
      forward 1
      let c ← peek 0
      if c == '+' || c == '-' then
        forward 1
        pure (some (c == '+'), some (ch.toNat - '0'.toNat))
      else pure (none, some (ch.toNat - '0'.toNat))
    else pure (none, none)
  let c ← peek 0
  if !isSpaceOrEnd c then
    failHere (some "while scanning a block scalar") (some start)
      ("expected chomping or indentation indicators, but found " ++ quoteChar c)
  return result

def blockIgnoredLine (start : Mark) : ScanM Unit := do
  skipSpaces
  skipComment
  let c ← peek 0
  if !isBreakOrEnd c then
    failHere (some "while scanning a block scalar") (some start)
      ("expected a comment or a line break, but found " ++ quoteChar c)
  let _ ← scanLineBreak

def blockIndentation : Nat → List String → Nat → Mark → ScanM (List String × Nat × Mark)
  | 0, acc, deepest, stop => pure (acc.reverse, deepest, stop)
  | fuel + 1, acc, deepest, stop => do
    let ch ← peek 0
    if ch == ' ' then
      forward 1
      blockIndentation fuel acc (max deepest (← get).column) stop
    else if isBreak ch then
      let br ← scanLineBreak
      blockIndentation fuel (br :: acc) deepest (← getMark)
    else pure (acc.reverse, deepest, stop)

def blockBreaks (indent : Int) : Nat → List String → Mark → ScanM (List String × Mark)
  | 0, acc, stop => pure (acc.reverse, stop)
  | fuel + 1, acc, stop => do
    skipIndentSpaces indent
    if isBreak (← peek 0) then
      let br ← scanLineBreak
      blockBreaks indent fuel (br :: acc) (← getMark)
    else pure (acc.reverse, stop)

def blockGoesOn (indent : Int) : ScanM Bool := do
  let s ← get
  return (s.column : Int) == indent && s.peekAt 0 != '\x00'

def blockLines (folded : Bool) (indent : Int) :
    Nat → String → List String → String → Mark → ScanM (String × List String × String × Mark)
  | 0, acc, breaks, lineBreak, stop => pure (acc, breaks, lineBreak, stop)
  | fuel + 1, acc, breaks, lineBreak, stop => do
    if !(← blockGoesOn indent) then return (acc, breaks, lineBreak, stop)
    let acc := acc ++ String.join breaks
    let leadingNonSpace := !((← peek 0) == ' ' || (← peek 0) == '\t')
    let s ← get
    let n := s.span (fun c => !isBreakOrEnd c) 0
    let acc := acc ++ s.ahead n
    forward n
    let lb ← scanLineBreak
    let (brs, stop) ← blockBreaks indent (← get).fuel [] (← getMark)
    if (← blockGoesOn indent) then
      let nextBlank := (← peek 0) == ' ' || (← peek 0) == '\t'
      let acc :=
        if folded && lb == "\n" && leadingNonSpace && !nextBlank then
          (if brs.isEmpty then acc ++ " " else acc)
        else acc ++ lb
      blockLines folded indent fuel acc brs lb stop
    else pure (acc, brs, lb, stop)

def scanBlockScalar (folded : Bool) : ScanM Token := do
  let start ← getMark
  forward 1
  let (chomping, increment) ← blockIndicators start
  blockIgnoredLine start
  let minIndent : Int := max ((← get).indent + 1) 1
  let fuel := (← get).fuel
  let (breaks, indent, stop) ← match increment with
    | none => do
      let (brs, deepest, stop) ← blockIndentation fuel [] 0 (← getMark)
      pure (brs, max minIndent (deepest : Int), stop)
    | some inc => do
      let indent := minIndent + inc - 1
      let (brs, stop) ← blockBreaks indent fuel [] (← getMark)
      pure (brs, indent, stop)
  let (text, breaks, lineBreak, stop) ← blockLines folded indent fuel "" breaks "" stop
  let text := if chomping != some false then text ++ lineBreak else text
  let text := if chomping == some true then text ++ String.join breaks else text
  return ⟨.scalar text false, start, stop⟩

def plainBreaks : Nat → List String → ScanM (Option (List String))
  | 0, acc => pure (some acc.reverse)
  | fuel + 1, acc => do
    let c ← peek 0
    if c == ' ' then
      forward 1
      plainBreaks fuel acc
    else if isBreak c then
      let br ← scanLineBreak
      if (← atDocumentMarker) then return none
      plainBreaks fuel (br :: acc)
    else pure (some acc.reverse)

def plainSpaces : ScanM (Option String) := do
  let s ← get
  let n := s.span (· == ' ') 0
  let ws := s.ahead n
  forward n
  let ch ← peek 0
  if isBreak ch then
    let lb ← scanLineBreak
    modify fun s => { s with allowSimpleKey := true }
    if (← atDocumentMarker) then return none
    match ← plainBreaks (← get).fuel [] with
    | none => return none
    | some brs => return some (joinBreaks lb brs)
  else return some ws

def plainStops (s : Scanner) (k : Nat) : Bool :=
  let ch := s.peekAt k
  let next := s.peekAt (k + 1)
  let flow := s.flowLevel > 0
  isBlankOrEnd ch ||
    (ch == ':' && (isBlankOrEnd next || (flow && ",[]\x7b\x7d".contains next))) ||
    (flow && ",?[]\x7b\x7d".contains ch)

def plainLength (s : Scanner) : Nat :=
  go s.fuel 0
where
  go : Nat → Nat → Nat
    | 0, k => k
    | fuel + 1, k => if plainStops s k then k else go fuel (k + 1)

def plainPieces (indent : Int) : Nat → String → String → Mark → ScanM (String × Mark)
  | 0, acc, _, stop => pure (acc, stop)
  | fuel + 1, acc, pending, stop => do
    if (← peek 0) == '#' then return (acc, stop)
    let s ← get
    let n := plainLength s
    if n == 0 then return (acc, stop)
    modify fun s => { s with allowSimpleKey := false }
    let acc := acc ++ pending ++ s.ahead n
    forward n
    let stop ← getMark
    match ← plainSpaces with
    | none => return (acc, stop)
    | some sp =>
      let s ← get
      if sp.isEmpty || s.peekAt 0 == '#' || (s.flowLevel == 0 && (s.column : Int) < indent) then
        return (acc, stop)
      plainPieces indent fuel acc sp stop

def scanPlain : ScanM Token := do
  let start ← getMark
  let indent := (← get).indent + 1
  let (text, stop) ← plainPieces indent (← get).fuel "" "" start
  return ⟨.scalar text true, start, stop⟩

end Yaml
end SpireEnroll
