import SpireEnroll.Yaml.Scanner

/-!
# The parser

The parser turns tokens into events: the stream's and documents' starts and ends,
aliases, scalars, and the starts and ends of sequences and mappings. It follows
the grammar

```
stream   ::= STREAM-START implicit_document? explicit_document* STREAM-END
document ::= DIRECTIVE* DOCUMENT-START block_node? DOCUMENT-END*
node     ::= ALIAS | properties? (block_collection | flow_collection | SCALAR)
```

as a machine: the *phase* says what is expected next, and a stack of phases says
where to return once a node is complete. Each step yields one event. Empty
nodes (a key without a value, `- ` with nothing after it) are empty plain
scalars.

Tags are written with a handle, which the document's `%TAG` directives or the
defaults (`!` and `!!`, the latter for `tag:yaml.org,2002:`) expand.
-/

namespace SpireEnroll
namespace Yaml

/-- What an event is. -/
inductive EventKind where
  | streamStart
  | streamEnd
  | documentStart (explicit : Bool)
  | documentEnd (explicit : Bool)
  | alias (anchor : String)
  /-- A scalar; `implicit` says whether its tag may be found from a plain text,
  and whether from a quoted one. -/
  | scalar (anchor tag : Option String) (implicit : Bool × Bool) (value : String)
  | sequenceStart (anchor tag : Option String) (implicit : Bool)
  | sequenceEnd
  | mappingStart (anchor tag : Option String) (implicit : Bool)
  | mappingEnd
deriving Repr, Inhabited

/-- An event with its start and end. -/
structure Event where
  kind : EventKind
  start : Mark
  stop : Mark
deriving Repr, Inhabited

def Event.anchor (e : Event) : Option String :=
  match e.kind with
  | .scalar a .. | .sequenceStart a .. | .mappingStart a .. => a
  | _ => none

/-- What the parser expects next. -/
inductive Phase where
  | streamStart | implicitDocumentStart | documentStart | documentEnd | documentContent
  | blockNode | blockNodeOrIndentlessSequence | flowNode
  | blockSequenceFirstEntry | blockSequenceEntry | indentlessSequenceEntry
  | blockMappingFirstKey | blockMappingKey | blockMappingValue
  | flowSequenceFirstEntry | flowSequenceEntry | flowSequenceEntryMappingKey
  | flowSequenceEntryMappingValue | flowSequenceEntryMappingEnd
  | flowMappingFirstKey | flowMappingKey | flowMappingValue | flowMappingEmptyValue
deriving Repr, Inhabited, DecidableEq

/-- The parser's state. -/
structure Parser where
  scanner : Scanner
  /-- The event found and not yet taken. -/
  current : Option Event
  /-- Tag handles and their expansions. -/
  tagHandles : List (String × String)
  /-- Where to return after the node being parsed. -/
  states : List Phase
  /-- Starts of the open collections, innermost first. -/
  marks : List Mark
  /-- What comes next; none after the stream's end. -/
  phase : Option Phase
deriving Inhabited

abbrev ParseM := StateT Parser (Except YamlError)

def defaultTagHandles : List (String × String) :=
  [("!", "!"), ("!!", "tag:yaml.org,2002:")]

def Parser.init (text : String) : Parser :=
  { scanner := Scanner.init text, current := none, tagHandles := [], states := [], marks := [],
    phase := some .streamStart }

def scan {α : Type} (m : ScanM α) : ParseM α := fun p => do
  let (a, s) ← m.run p.scanner
  pure (a, { p with scanner := s })

/-- Whether the next token is of one of the classes. -/
def check (classes : List TokenClass) : ParseM Bool :=
  scan (checkToken classes)

def peekTok : ParseM Token := do
  match ← scan peekToken with
  | some t => pure t
  | none => throw .exhausted

def takeTok : ParseM Token := do
  match ← scan takeToken with
  | some t => pure t
  | none => throw .exhausted

def parseError {α : Type} (context : Option String) (contextMark : Option Mark)
    (problem : String) (problemMark : Mark) : ParseM α :=
  throw (.marked context contextMark problem problemMark)

def popPhase : ParseM Unit :=
  modify fun p => { p with phase := p.states.head?, states := p.states.tail }

def pushPhase (ph : Phase) : ParseM Unit :=
  modify fun p => { p with states := ph :: p.states }

def setPhase (ph : Phase) : ParseM Unit :=
  modify fun p => { p with phase := some ph }

def pushMark (m : Mark) : ParseM Unit :=
  modify fun p => { p with marks := m :: p.marks }

def popMark : ParseM Unit :=
  modify fun p => { p with marks := p.marks.tail }

def topMark : ParseM Mark :=
  return (← get).marks.headD default

def emptyScalar (m : Mark) : Event :=
  ⟨.scalar none none (true, false) "", m, m⟩

def quotedName (t : Token) : String :=
  Text.literal t.cls.name

def processDirectives : ParseM Unit := do
  let rec go : Nat → Option (Nat × Nat) → List (String × String) →
      ParseM (List (String × String))
    | 0, _, handles => pure handles
    | fuel + 1, version, handles => do
      if !(← check [.directive]) then return handles
      let t ← takeTok
      match t.kind with
      | .directive "YAML" (.version major minor) =>
        if version.isSome then parseError none none "found duplicate YAML directive" t.start
        if major != 1 then
          parseError none none "found incompatible YAML document (version 1.* is required)"
            t.start
        go fuel (some (major, minor)) handles
      | .directive "TAG" (.tagPrefix handle pre) =>
        if (handles.lookup handle).isSome then
          parseError none none ("duplicate tag handle " ++ Text.literal handle) t.start
        go fuel version (handles ++ [(handle, pre)])
      | _ => go fuel version handles
  let handles ← go ((← get).scanner.fuel) none []
  let defaults := defaultTagHandles.filter fun (h, _) => (handles.lookup h).isNone
  modify fun p => { p with tagHandles := handles ++ defaults }

def parseDocumentStart : ParseM Event := do
  let rec skipEnds : Nat → ParseM Unit
    | 0 => pure ()
    | fuel + 1 => do
      if (← check [.documentEnd]) then
        let _ ← takeTok
        skipEnds fuel
  skipEnds ((← get).scanner.fuel)
  if !(← check [.streamEnd]) then
    let start := (← peekTok).start
    processDirectives
    if !(← check [.documentStart]) then
      let t ← peekTok
      parseError none none ("expected '<document start>', but found " ++ quotedName t) t.start
    let t ← takeTok
    pushPhase .documentEnd
    setPhase .documentContent
    return ⟨.documentStart true, start, t.stop⟩
  else
    let t ← takeTok
    modify fun p => { p with phase := none }
    return ⟨.streamEnd, t.start, t.stop⟩

def parseNode (block indentless : Bool) : ParseM Event := do
  if (← check [.alias]) then
    let t ← takeTok
    popPhase
    let name := match t.kind with
      | .alias n => n
      | _ => ""
    return ⟨.alias name, t.start, t.stop⟩
  let mut anchor : Option String := none
  let mut tag : Option (Option String × String) := none
  let mut startAt : Option Mark := none
  let mut stopAt : Option Mark := none
  let mut tagMark : Option Mark := none
  if (← check [.anchor]) then
    let t ← takeTok
    startAt := some t.start
    stopAt := some t.stop
    if let .anchor n := t.kind then anchor := some n
    if (← check [.tag]) then
      let t ← takeTok
      tagMark := some t.start
      stopAt := some t.stop
      if let .tag h s := t.kind then tag := some (h, s)
  else if (← check [.tag]) then
    let t ← takeTok
    startAt := some t.start
    tagMark := some t.start
    stopAt := some t.stop
    if let .tag h s := t.kind then tag := some (h, s)
    if (← check [.anchor]) then
      let t ← takeTok
      stopAt := some t.stop
      if let .anchor n := t.kind then anchor := some n
  let handles := (← get).tagHandles
  let tagText : Option String ← match tag with
    | some (some handle, suffix) =>
      match handles.lookup handle with
      | some pre => pure (some (pre ++ suffix))
      | none =>
        parseError (some "while parsing a node") startAt
          ("found undefined tag handle " ++ Text.literal handle) (tagMark.getD default)
    | some (none, suffix) => pure (some suffix)
    | none => pure none
  let (start, stop) ← match startAt, stopAt with
    | some a, some b => pure (a, b)
    | _, _ => do
      let m := (← peekTok).start
      pure (m, m)
  let implicit := tagText.isNone || tagText == some "!"
  if indentless && (← check [.blockEntry]) then
    let stop := (← peekTok).stop
    setPhase .indentlessSequenceEntry
    return ⟨.sequenceStart anchor tagText implicit, start, stop⟩
  if (← check [.scalar]) then
    let t ← takeTok
    let (value, plain) := match t.kind with
      | .scalar v p => (v, p)
      | _ => ("", false)
    let implicit2 :=
      if (plain && tagText.isNone) || tagText == some "!" then (true, false)
      else if tagText.isNone then (false, true)
      else (false, false)
    popPhase
    return ⟨.scalar anchor tagText implicit2 value, start, t.stop⟩
  if (← check [.flowSequenceStart]) then
    let stop := (← peekTok).stop
    setPhase .flowSequenceFirstEntry
    return ⟨.sequenceStart anchor tagText implicit, start, stop⟩
  if (← check [.flowMappingStart]) then
    let stop := (← peekTok).stop
    setPhase .flowMappingFirstKey
    return ⟨.mappingStart anchor tagText implicit, start, stop⟩
  if block && (← check [.blockSequenceStart]) then
    let stop := (← peekTok).start
    setPhase .blockSequenceFirstEntry
    return ⟨.sequenceStart anchor tagText implicit, start, stop⟩
  if block && (← check [.blockMappingStart]) then
    let stop := (← peekTok).start
    setPhase .blockMappingFirstKey
    return ⟨.mappingStart anchor tagText implicit, start, stop⟩
  if anchor.isSome || tagText.isSome then
    popPhase
    return ⟨.scalar anchor tagText (implicit, false) "", start, stop⟩
  let t ← peekTok
  parseError (some ("while parsing a " ++ (if block then "block" else "flow") ++ " node"))
    (some start) ("expected the node content, but found " ++ quotedName t) t.start

def parseBlockSequenceEntry : ParseM Event := do
  if (← check [.blockEntry]) then
    let t ← takeTok
    if !(← check [.blockEntry, .blockEnd]) then
      pushPhase .blockSequenceEntry
      return ← parseNode true false
    setPhase .blockSequenceEntry
    return emptyScalar t.stop
  if !(← check [.blockEnd]) then
    let t ← peekTok
    parseError (some "while parsing a block collection") (some (← topMark))
      ("expected <block end>, but found " ++ quotedName t) t.start
  let t ← takeTok
  popPhase
  popMark
  return ⟨.sequenceEnd, t.start, t.stop⟩

def parseIndentlessSequenceEntry : ParseM Event := do
  if (← check [.blockEntry]) then
    let t ← takeTok
    if !(← check [.blockEntry, .key, .value, .blockEnd]) then
      pushPhase .indentlessSequenceEntry
      return ← parseNode true false
    setPhase .indentlessSequenceEntry
    return emptyScalar t.stop
  let t ← peekTok
  popPhase
  return ⟨.sequenceEnd, t.start, t.start⟩

def parseBlockMappingKey : ParseM Event := do
  if (← check [.key]) then
    let t ← takeTok
    if !(← check [.key, .value, .blockEnd]) then
      pushPhase .blockMappingValue
      return ← parseNode true true
    setPhase .blockMappingValue
    return emptyScalar t.stop
  if !(← check [.blockEnd]) then
    let t ← peekTok
    parseError (some "while parsing a block mapping") (some (← topMark))
      ("expected <block end>, but found " ++ quotedName t) t.start
  let t ← takeTok
  popPhase
  popMark
  return ⟨.mappingEnd, t.start, t.stop⟩

def parseBlockMappingValue : ParseM Event := do
  if (← check [.value]) then
    let t ← takeTok
    if !(← check [.key, .value, .blockEnd]) then
      pushPhase .blockMappingKey
      return ← parseNode true true
    setPhase .blockMappingKey
    return emptyScalar t.stop
  setPhase .blockMappingKey
  return emptyScalar (← peekTok).start

def parseFlowSequenceEntry (first : Bool) : ParseM Event := do
  if !(← check [.flowSequenceEnd]) then
    if !first then
      if (← check [.flowEntry]) then
        let _ ← takeTok
      else
        let t ← peekTok
        parseError (some "while parsing a flow sequence") (some (← topMark))
          ("expected ',' or ']', but got " ++ quotedName t) t.start
    if (← check [.key]) then
      let t ← peekTok
      setPhase .flowSequenceEntryMappingKey
      return ⟨.mappingStart none none true, t.start, t.stop⟩
    if !(← check [.flowSequenceEnd]) then
      pushPhase .flowSequenceEntry
      return ← parseNode false false
  let t ← takeTok
  popPhase
  popMark
  return ⟨.sequenceEnd, t.start, t.stop⟩

def parseFlowSequenceEntryMappingKey : ParseM Event := do
  let t ← takeTok
  if !(← check [.value, .flowEntry, .flowSequenceEnd]) then
    pushPhase .flowSequenceEntryMappingValue
    return ← parseNode false false
  setPhase .flowSequenceEntryMappingValue
  return emptyScalar t.stop

def parseFlowSequenceEntryMappingValue : ParseM Event := do
  if (← check [.value]) then
    let t ← takeTok
    if !(← check [.flowEntry, .flowSequenceEnd]) then
      pushPhase .flowSequenceEntryMappingEnd
      return ← parseNode false false
    setPhase .flowSequenceEntryMappingEnd
    return emptyScalar t.stop
  setPhase .flowSequenceEntryMappingEnd
  return emptyScalar (← peekTok).start

def parseFlowMappingKey (first : Bool) : ParseM Event := do
  if !(← check [.flowMappingEnd]) then
    if !first then
      if (← check [.flowEntry]) then
        let _ ← takeTok
      else
        let t ← peekTok
        parseError (some "while parsing a flow mapping") (some (← topMark))
          ("expected ',' or '\x7d', but got " ++ quotedName t) t.start
    if (← check [.key]) then
      let t ← takeTok
      if !(← check [.value, .flowEntry, .flowMappingEnd]) then
        pushPhase .flowMappingValue
        return ← parseNode false false
      setPhase .flowMappingValue
      return emptyScalar t.stop
    if !(← check [.flowMappingEnd]) then
      pushPhase .flowMappingEmptyValue
      return ← parseNode false false
  let t ← takeTok
  popPhase
  popMark
  return ⟨.mappingEnd, t.start, t.stop⟩

def parseFlowMappingValue : ParseM Event := do
  if (← check [.value]) then
    let t ← takeTok
    if !(← check [.flowEntry, .flowMappingEnd]) then
      pushPhase .flowMappingKey
      return ← parseNode false false
    setPhase .flowMappingKey
    return emptyScalar t.stop
  setPhase .flowMappingKey
  return emptyScalar (← peekTok).start

def parsePhase : Phase → ParseM Event
  | .streamStart => do
    let t ← takeTok
    setPhase .implicitDocumentStart
    return ⟨.streamStart, t.start, t.stop⟩
  | .implicitDocumentStart => do
    if !(← check [.directive, .documentStart, .streamEnd]) then
      modify fun p => { p with tagHandles := defaultTagHandles }
      let m := (← peekTok).start
      pushPhase .documentEnd
      setPhase .blockNode
      return ⟨.documentStart false, m, m⟩
    parseDocumentStart
  | .documentStart => parseDocumentStart
  | .documentEnd => do
    let t ← peekTok
    let (stop, explicit) ←
      if (← check [.documentEnd]) then do
        let e ← takeTok
        pure (e.stop, true)
      else pure (t.start, false)
    setPhase .documentStart
    return ⟨.documentEnd explicit, t.start, stop⟩
  | .documentContent => do
    if (← check [.directive, .documentStart, .documentEnd, .streamEnd]) then
      let m := (← peekTok).start
      popPhase
      return emptyScalar m
    parseNode true false
  | .blockNode => parseNode true false
  | .blockNodeOrIndentlessSequence => parseNode true true
  | .flowNode => parseNode false false
  | .blockSequenceFirstEntry => do
    pushMark (← takeTok).start
    parseBlockSequenceEntry
  | .blockSequenceEntry => parseBlockSequenceEntry
  | .indentlessSequenceEntry => parseIndentlessSequenceEntry
  | .blockMappingFirstKey => do
    pushMark (← takeTok).start
    parseBlockMappingKey
  | .blockMappingKey => parseBlockMappingKey
  | .blockMappingValue => parseBlockMappingValue
  | .flowSequenceFirstEntry => do
    pushMark (← takeTok).start
    parseFlowSequenceEntry true
  | .flowSequenceEntry => parseFlowSequenceEntry false
  | .flowSequenceEntryMappingKey => parseFlowSequenceEntryMappingKey
  | .flowSequenceEntryMappingValue => parseFlowSequenceEntryMappingValue
  | .flowSequenceEntryMappingEnd => do
    setPhase .flowSequenceEntry
    let m := (← peekTok).start
    return ⟨.mappingEnd, m, m⟩
  | .flowMappingFirstKey => do
    pushMark (← takeTok).start
    parseFlowMappingKey true
  | .flowMappingKey => parseFlowMappingKey false
  | .flowMappingValue => parseFlowMappingValue
  | .flowMappingEmptyValue => do
    setPhase .flowMappingKey
    return emptyScalar (← peekTok).start

def peekEvent : ParseM (Option Event) := do
  let p ← get
  match p.current, p.phase with
  | some e, _ => return some e
  | none, some ph =>
    let e ← parsePhase ph
    modify fun p => { p with current := some e }
    return some e
  | none, none => return none

def takeEvent : ParseM Event := do
  match ← peekEvent with
  | some e =>
    modify fun p => { p with current := none }
    return e
  | none => throw .exhausted

end Yaml
end SpireEnroll
