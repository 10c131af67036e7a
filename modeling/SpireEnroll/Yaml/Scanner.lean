import SpireEnroll.Yaml.Scalar
import SpireEnroll.Text.Utf8

/-!
# The scanner

Tokens are found on demand. Before handing out a token the scanner makes sure
that it cannot still change: while the next token may be the start of a simple
key, it keeps scanning until a `:` settles it or the key becomes impossible. A
simple key must fit on one line and in 1024 characters; one that must be a key
(it starts a block mapping entry at the current indentation) and is not is an
error.

Indentation opens block collections: a `-`, `?` or simple key at a column deeper
than the current indentation adds a block-sequence or block-mapping start, and a
line less indented closes collections with block ends. Inside flow collections
indentation is ignored.
-/

namespace SpireEnroll
namespace Yaml

def simpleKeyContext : String :=
  "while scanning a simple key"

/-- Whether a possible simple key can no longer be one at the scanner's place. -/
def SimpleKey.stale (s : Scanner) (k : SimpleKey) : Bool :=
  k.mark.line != s.line || s.ptr - k.mark.index > 1024

def staleSimpleKeys : ScanM Unit := do
  let s ← get
  match s.simpleKeys.find? (fun (_, k) => k.stale s && k.required) with
  | some (_, k) => failHere (some simpleKeyContext) (some k.mark) "could not find expected ':'"
  | none => set { s with simpleKeys := s.simpleKeys.filter (fun (_, k) => !k.stale s) }

def removeSimpleKey : ScanM Unit := do
  let s ← get
  match s.simpleKeys.lookup s.flowLevel with
  | some k =>
    if k.required then
      failHere (some simpleKeyContext) (some k.mark) "could not find expected ':'"
    set { s with simpleKeys := s.simpleKeys.filter (·.1 != s.flowLevel) }
  | none => pure ()

def saveSimpleKey : ScanM Unit := do
  let s ← get
  let required := s.flowLevel == 0 && s.indent == (s.column : Int)
  if s.allowSimpleKey then
    removeSimpleKey
    let s ← get
    let k : SimpleKey := ⟨s.tokensTaken + s.tokens.length, required, s.mark⟩
    set { s with simpleKeys := s.simpleKeys ++ [(s.flowLevel, k)] }

def Scanner.nextSimpleKey (s : Scanner) : Option Nat :=
  s.simpleKeys.foldl (fun m (_, k) => match m with
    | some n => some (min n k.tokenNumber)
    | none => some k.tokenNumber) none

def addToken (t : Token) : ScanM Unit :=
  modify fun s => { s with tokens := s.tokens ++ [t] }

def insertToken (i : Nat) (t : Token) : ScanM Unit :=
  modify fun s => { s with tokens := s.tokens.take i ++ t :: s.tokens.drop i }

def unwindIndent (column : Int) : ScanM Unit := do
  if (← get).flowLevel == 0 then
    let rec go : List Int → ScanM Unit
      | [] => pure ()
      | _ :: rest => do
        let s ← get
        if s.indent > column then
          let m := s.mark
          set { s with indent := s.indents.headD (-1), indents := s.indents.tail }
          addToken ⟨.blockEnd, m, m⟩
          go rest
    go (← get).indents

def addIndent (column : Int) : ScanM Bool := do
  let s ← get
  if s.indent < column then
    set { s with indents := s.indent :: s.indents, indent := column }
    return true
  return false

def addPunctuation (kind : TokenKind) (n : Nat) : ScanM Unit := do
  let start ← getMark
  forward n
  addToken ⟨kind, start, ← getMark⟩

def scanToNextToken : ScanM Unit := do
  let s ← get
  if s.ptr == 0 && s.peekAt 0 == '\uFEFF' then forward 1
  let rec go : Nat → ScanM Unit
    | 0 => pure ()
    | fuel + 1 => do
      skipSpaces
      skipComment
      let br ← scanLineBreak
      if br != "" then
        if (← get).flowLevel == 0 then
          modify fun s => { s with allowSimpleKey := true }
        go fuel
  go (← get).fuel

def directiveContext : String :=
  "while scanning a directive"

def scanDirectiveName (start : Mark) : ScanM String := do
  let s ← get
  let n := s.span isWordChar 0
  if n == 0 then
    failHere (some directiveContext) (some start)
      ("expected alphabetic or numeric character, but found " ++ quoteChar (s.peekAt 0))
  let name := s.ahead n
  forward n
  let c ← peek 0
  if !isSpaceOrEnd c then
    failHere (some directiveContext) (some start)
      ("expected alphabetic or numeric character, but found " ++ quoteChar c)
  return name

def scanVersionNumber (start : Mark) : ScanM Nat := do
  let c ← peek 0
  if !isDigitChar c then
    failHere (some directiveContext) (some start) ("expected a digit, but found " ++ quoteChar c)
  let s ← get
  let n := s.span isDigitChar 0
  forward n
  return decimalValue (s.ahead n)

def scanVersionValue (start : Mark) : ScanM (Nat × Nat) := do
  skipSpaces
  let major ← scanVersionNumber start
  let c ← peek 0
  if c != '.' then
    failHere (some directiveContext) (some start)
      ("expected a digit or '.', but found " ++ quoteChar c)
  forward 1
  let minor ← scanVersionNumber start
  let c ← peek 0
  if !isSpaceOrEnd c then
    failHere (some directiveContext) (some start)
      ("expected a digit or ' ', but found " ++ quoteChar c)
  return (major, minor)

def scanTagHandle (what : String) (start : Mark) : ScanM String := do
  let c ← peek 0
  if c != '!' then
    failHere (some ("while scanning a " ++ what)) (some start)
      ("expected '!', but found " ++ quoteChar c)
  let s ← get
  let n ←
    if s.peekAt 1 != ' ' then do
      let n := s.span isWordChar 1
      let c := s.peekAt n
      if c != '!' then
        forward n
        failHere (some ("while scanning a " ++ what)) (some start)
          ("expected '!', but found " ++ quoteChar c)
      pure (n + 1)
    else pure 1
  forward n
  return s.ahead n

def isUriChar (c : Char) : Bool :=
  isWordChar c || "-;/?:@&=+$,_.!~*'()[]%".contains c

def scanUriEscapes (what : String) (start : Mark) : ScanM String := do
  let m ← getMark
  let rec go : Nat → Array UInt8 → ScanM (Array UInt8)
    | 0, acc => pure acc
    | fuel + 1, acc => do
      if (← peek 0) != '%' then return acc
      forward 1
      let s ← get
      match [0, 1].find? (fun k => !isHexChar (s.peekAt k)) with
      | some k =>
        failHere (some ("while scanning a " ++ what)) (some start)
          ("expected URI escape sequence of 2 hexadecimal numbers, but found " ++
            quoteChar (s.peekAt k))
      | none =>
        forward 2
        go fuel (acc.push (hexValue (s.ahead 2)).toUInt8)
  let bytes ← go (← get).fuel #[]
  match Utf8.decode bytes with
  | .ok text => return text
  | .error f =>
    throw (.marked (some ("while scanning a " ++ what)) (some start)
      (Utf8.Fault.message f "utf-8" bytes) m)

def scanTagUri (what : String) (start : Mark) : ScanM String := do
  let rec go : Nat → String → Bool → ScanM (String × Bool)
    | 0, acc, any => pure (acc, any)
    | fuel + 1, acc, any => do
      let s ← get
      let n := s.span (fun c => isUriChar c && c != '%') 0
      let acc := acc ++ s.ahead n
      forward n
      if (← peek 0) == '%' then
        let t ← scanUriEscapes what start
        go fuel (acc ++ t) true
      else pure (acc, any || n > 0)
  let (text, any) ← go (← get).fuel "" false
  if !any then
    failHere (some ("while parsing a " ++ what)) (some start)
      ("expected URI, but found " ++ quoteChar (← peek 0))
  return text

def scanTagDirectiveValue (start : Mark) : ScanM (String × String) := do
  skipSpaces
  let handle ← scanTagHandle "directive" start
  let c ← peek 0
  if c != ' ' then
    failHere (some directiveContext) (some start) ("expected ' ', but found " ++ quoteChar c)
  skipSpaces
  let pre ← scanTagUri "directive" start
  let c ← peek 0
  if !isSpaceOrEnd c then
    failHere (some directiveContext) (some start) ("expected ' ', but found " ++ quoteChar c)
  return (handle, pre)

def scanDirectiveIgnoredLine (start : Mark) : ScanM Unit := do
  skipSpaces
  skipComment
  let c ← peek 0
  if !isBreakOrEnd c then
    failHere (some directiveContext) (some start)
      ("expected a comment or a line break, but found " ++ quoteChar c)
  let _ ← scanLineBreak

def scanDirective : ScanM Token := do
  let start ← getMark
  forward 1
  let name ← scanDirectiveName start
  let (value, stop) ←
    if name == "YAML" then do
      let (major, minor) ← scanVersionValue start
      pure (DirectiveValue.version major minor, ← getMark)
    else if name == "TAG" then do
      let (handle, pre) ← scanTagDirectiveValue start
      pure (DirectiveValue.tagPrefix handle pre, ← getMark)
    else do
      let stop ← getMark
      skipWhile (fun c => !isBreakOrEnd c)
      pure (DirectiveValue.other, stop)
  scanDirectiveIgnoredLine start
  return ⟨.directive name value, start, stop⟩

def scanAnchor (isAlias : Bool) : ScanM Token := do
  let start ← getMark
  let what := if isAlias then "while scanning an alias" else "while scanning an anchor"
  forward 1
  let s ← get
  let n := s.span isWordChar 0
  if n == 0 then
    failHere (some what) (some start)
      ("expected alphabetic or numeric character, but found " ++ quoteChar (s.peekAt 0))
  let name := s.ahead n
  forward n
  let c ← peek 0
  if !(isBlankOrEnd c || "?:,]\x7d%@`".contains c) then
    failHere (some what) (some start)
      ("expected alphabetic or numeric character, but found " ++ quoteChar c)
  let kind := if isAlias then TokenKind.alias name else TokenKind.anchor name
  return ⟨kind, start, ← getMark⟩

def scanTag : ScanM Token := do
  let start ← getMark
  let c ← peek 1
  let (handle, suffix) ←
    if c == '<' then do
      forward 2
      let suffix ← scanTagUri "tag" start
      let d ← peek 0
      if d != '>' then
        failHere (some "while parsing a tag") (some start) ("expected '>', but found " ++ quoteChar d)
      forward 1
      pure (none, suffix)
    else if isBlankOrEnd c then do
      forward 1
      pure (none, "!")
    else do
      let s ← get
      let n := s.span (fun c => !(c == '!' || isSpaceOrEnd c)) 1
      let handle ←
        if s.peekAt n == '!' then scanTagHandle "tag" start
        else do
          forward 1
          pure "!"
      let suffix ← scanTagUri "tag" start
      pure (some handle, suffix)
  let d ← peek 0
  if !isSpaceOrEnd d then
    failHere (some "while scanning a tag") (some start) ("expected ' ', but found " ++ quoteChar d)
  return ⟨.tag handle suffix, start, ← getMark⟩

def fetchStreamEnd : ScanM Unit := do
  unwindIndent (-1)
  removeSimpleKey
  modify fun s => { s with allowSimpleKey := false, simpleKeys := [] }
  let m ← getMark
  addToken ⟨.streamEnd, m, m⟩
  modify fun s => { s with done := true }

def fetchDirective : ScanM Unit := do
  unwindIndent (-1)
  removeSimpleKey
  modify fun s => { s with allowSimpleKey := false }
  addToken (← scanDirective)

def fetchDocumentIndicator (kind : TokenKind) : ScanM Unit := do
  unwindIndent (-1)
  removeSimpleKey
  modify fun s => { s with allowSimpleKey := false }
  addPunctuation kind 3

def fetchFlowCollectionStart (kind : TokenKind) : ScanM Unit := do
  saveSimpleKey
  modify fun s => { s with flowLevel := s.flowLevel + 1, allowSimpleKey := true }
  addPunctuation kind 1

def fetchFlowCollectionEnd (kind : TokenKind) : ScanM Unit := do
  removeSimpleKey
  modify fun s => { s with flowLevel := s.flowLevel - 1, allowSimpleKey := false }
  addPunctuation kind 1

def fetchFlowEntry : ScanM Unit := do
  modify fun s => { s with allowSimpleKey := true }
  removeSimpleKey
  addPunctuation .flowEntry 1

def fetchBlockEntry : ScanM Unit := do
  let s ← get
  if s.flowLevel == 0 then
    if !s.allowSimpleKey then
      failHere none none "sequence entries are not allowed here"
    if (← addIndent s.column) then
      let m ← getMark
      addToken ⟨.blockSequenceStart, m, m⟩
  modify fun s => { s with allowSimpleKey := true }
  removeSimpleKey
  addPunctuation .blockEntry 1

def fetchKey : ScanM Unit := do
  let s ← get
  if s.flowLevel == 0 then
    if !s.allowSimpleKey then
      failHere none none "mapping keys are not allowed here"
    if (← addIndent s.column) then
      let m ← getMark
      addToken ⟨.blockMappingStart, m, m⟩
  modify fun s => { s with allowSimpleKey := s.flowLevel == 0 }
  removeSimpleKey
  addPunctuation .key 1

def fetchValue : ScanM Unit := do
  let s ← get
  match s.simpleKeys.lookup s.flowLevel with
  | some k =>
    set { s with simpleKeys := s.simpleKeys.filter (·.1 != s.flowLevel) }
    let place := k.tokenNumber - s.tokensTaken
    insertToken place ⟨.key, k.mark, k.mark⟩
    if s.flowLevel == 0 then
      if (← addIndent k.mark.column) then
        insertToken place ⟨.blockMappingStart, k.mark, k.mark⟩
    modify fun s => { s with allowSimpleKey := false }
  | none =>
    if s.flowLevel == 0 then
      if !s.allowSimpleKey then
        failHere none none "mapping values are not allowed here"
      if (← addIndent s.column) then
        let m ← getMark
        addToken ⟨.blockMappingStart, m, m⟩
    modify fun s => { s with allowSimpleKey := s.flowLevel == 0 }
    removeSimpleKey
  addPunctuation .value 1

def fetchAnchor (isAlias : Bool) : ScanM Unit := do
  saveSimpleKey
  modify fun s => { s with allowSimpleKey := false }
  addToken (← scanAnchor isAlias)

def fetchTag : ScanM Unit := do
  saveSimpleKey
  modify fun s => { s with allowSimpleKey := false }
  addToken (← scanTag)

def fetchBlockScalar (folded : Bool) : ScanM Unit := do
  modify fun s => { s with allowSimpleKey := true }
  removeSimpleKey
  addToken (← scanBlockScalar folded)

def fetchQuoted (double : Bool) : ScanM Unit := do
  saveSimpleKey
  modify fun s => { s with allowSimpleKey := false }
  addToken (← scanQuoted double)

def fetchPlain : ScanM Unit := do
  saveSimpleKey
  modify fun s => { s with allowSimpleKey := false }
  addToken (← scanPlain)

def Scanner.atMarker (s : Scanner) (m : String) : Bool :=
  s.column == 0 && s.ahead 3 == m && isBlankOrEnd (s.peekAt 3)

def Scanner.plainStarts (s : Scanner) : Bool :=
  let ch := s.peekAt 0
  !(isBlankOrEnd ch || "-?:,[]\x7b\x7d#&*!|>'\"%@`".contains ch) ||
    (!isBlankOrEnd (s.peekAt 1) && (ch == '-' || (s.flowLevel == 0 && (ch == '?' || ch == ':'))))

/-- Find the next token (or tokens). -/
def fetchMoreTokens : ScanM Unit := do
  scanToNextToken
  staleSimpleKeys
  unwindIndent (← get).column
  let s ← get
  let ch := s.peekAt 0
  let blankNext := isBlankOrEnd (s.peekAt 1)
  let flow := s.flowLevel > 0
  if ch == '\x00' then fetchStreamEnd
  else if ch == '%' && s.column == 0 then fetchDirective
  else if ch == '-' && s.atMarker "---" then fetchDocumentIndicator .documentStart
  else if ch == '.' && s.atMarker "..." then fetchDocumentIndicator .documentEnd
  else if ch == '[' then fetchFlowCollectionStart .flowSequenceStart
  else if ch == '{' then fetchFlowCollectionStart .flowMappingStart
  else if ch == ']' then fetchFlowCollectionEnd .flowSequenceEnd
  else if ch == '}' then fetchFlowCollectionEnd .flowMappingEnd
  else if ch == ',' then fetchFlowEntry
  else if ch == '-' && blankNext then fetchBlockEntry
  else if ch == '?' && (flow || blankNext) then fetchKey
  else if ch == ':' && (flow || blankNext) then fetchValue
  else if ch == '*' then fetchAnchor true
  else if ch == '&' then fetchAnchor false
  else if ch == '!' then fetchTag
  else if ch == '|' && !flow then fetchBlockScalar false
  else if ch == '>' && !flow then fetchBlockScalar true
  else if ch == '\'' then fetchQuoted false
  else if ch == '"' then fetchQuoted true
  else if s.plainStarts then fetchPlain
  else
    failHere (some "while scanning for the next token") none
      ("found character " ++ quoteChar ch ++ " that cannot start any token")

def needMoreTokens : ScanM Bool := do
  let s ← get
  if s.done then return false
  if s.tokens.isEmpty then return true
  staleSimpleKeys
  let s ← get
  return s.nextSimpleKey == some s.tokensTaken

def settle : ScanM Unit := do
  let rec go : Nat → ScanM Unit
    | 0 => throw .exhausted
    | fuel + 1 => do
      if (← needMoreTokens) then
        fetchMoreTokens
        go fuel
  go ((← get).fuel + 1)

def peekToken : ScanM (Option Token) := do
  settle
  return (← get).tokens.head?

def checkToken (classes : List TokenClass) : ScanM Bool := do
  match ← peekToken with
  | some t => return classes.contains t.cls
  | none => return false

def takeToken : ScanM (Option Token) := do
  settle
  let s ← get
  match s.tokens with
  | t :: rest =>
    set { s with tokens := rest, tokensTaken := s.tokensTaken + 1 }
    return some t
  | [] => return none

end Yaml
end SpireEnroll
