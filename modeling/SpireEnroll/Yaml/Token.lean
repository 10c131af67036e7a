import SpireEnroll.Yaml.Mark

/-!
# Tokens

The scanner cuts the characters into tokens: the stream's ends, directives,
document markers, the starts and ends of collections, keys, values, entries,
aliases, anchors, tags and scalars. Block collections have no characters of their
own: their starts and ends are tokens the scanner adds from the indentation.
Every token knows where it starts and ends.
-/

namespace SpireEnroll
namespace Yaml

/-- The value of a directive. -/
inductive DirectiveValue where
  /-- `%YAML major.minor`. -/
  | version (major minor : Nat)
  /-- `%TAG handle prefix`. -/
  | tagPrefix (handle pre : String)
  /-- Any other directive, whose value is skipped. -/
  | other
deriving Repr, Inhabited

/-- What a token is. -/
inductive TokenKind where
  | streamStart
  | streamEnd
  | directive (name : String) (value : DirectiveValue)
  | documentStart
  | documentEnd
  | blockSequenceStart
  | blockMappingStart
  | blockEnd
  | flowSequenceStart
  | flowMappingStart
  | flowSequenceEnd
  | flowMappingEnd
  | key
  | value
  | blockEntry
  | flowEntry
  | alias (name : String)
  | anchor (name : String)
  /-- A tag: its handle (none for a verbatim tag) and suffix. -/
  | tag (handle : Option String) (suffix : String)
  /-- A scalar's text, and whether it was written plain (unquoted, not a block). -/
  | scalar (text : String) (plain : Bool)
deriving Repr, Inhabited

/-- The class of a token, what the parser asks about. -/
inductive TokenClass where
  | streamStart | streamEnd | directive | documentStart | documentEnd
  | blockSequenceStart | blockMappingStart | blockEnd
  | flowSequenceStart | flowMappingStart | flowSequenceEnd | flowMappingEnd
  | key | value | blockEntry | flowEntry | alias | anchor | tag | scalar
deriving DecidableEq, Repr, Inhabited

namespace TokenKind

def cls : TokenKind → TokenClass
  | .streamStart => .streamStart
  | .streamEnd => .streamEnd
  | .directive .. => .directive
  | .documentStart => .documentStart
  | .documentEnd => .documentEnd
  | .blockSequenceStart => .blockSequenceStart
  | .blockMappingStart => .blockMappingStart
  | .blockEnd => .blockEnd
  | .flowSequenceStart => .flowSequenceStart
  | .flowMappingStart => .flowMappingStart
  | .flowSequenceEnd => .flowSequenceEnd
  | .flowMappingEnd => .flowMappingEnd
  | .key => .key
  | .value => .value
  | .blockEntry => .blockEntry
  | .flowEntry => .flowEntry
  | .alias _ => .alias
  | .anchor _ => .anchor
  | .tag .. => .tag
  | .scalar .. => .scalar

end TokenKind

/-- How a token class is named in error messages. -/
def TokenClass.name : TokenClass → String
  | .streamStart => "<stream start>"
  | .streamEnd => "<stream end>"
  | .directive => "<directive>"
  | .documentStart => "<document start>"
  | .documentEnd => "<document end>"
  | .blockSequenceStart => "<block sequence start>"
  | .blockMappingStart => "<block mapping start>"
  | .blockEnd => "<block end>"
  | .flowSequenceStart => "["
  | .flowMappingStart => "\x7b"
  | .flowSequenceEnd => "]"
  | .flowMappingEnd => "\x7d"
  | .key => "?"
  | .value => ":"
  | .blockEntry => "-"
  | .flowEntry => ","
  | .alias => "<alias>"
  | .anchor => "<anchor>"
  | .tag => "<tag>"
  | .scalar => "<scalar>"

/-- A token with its start and end. -/
structure Token where
  kind : TokenKind
  start : Mark
  stop : Mark
deriving Repr, Inhabited

def Token.cls (t : Token) : TokenClass :=
  t.kind.cls

end Yaml
end SpireEnroll
