import SpireEnroll.Text.Literal

/-!
# Positions and errors of the YAML loader

The loader reads a text as an array of characters followed by one end marker
`'\x00'` (a text with a character outside the printable set is refused before
anything else). A *mark* is a position in that array with its zero-based line
and column.

An error names what the loader was doing (the *context*, with its mark) and
what it found (the *problem*, with its mark). Its text is the context, the
context's mark unless it stands where the problem does, the problem and the
problem's mark. A mark prints as

```
  in "<unicode string>", line 3, column 7:
    the line it is on
          ^
```

with one-based numbers; a line longer than the window around the mark is cut
and the cut shown as ` ... `.

Failures that are not about the text's syntax, such as a timestamp with a
thirteenth month, are kept apart: they carry the name of their class.
-/

namespace SpireEnroll
namespace Yaml

/-- A position: the index in the character array, and the line and column. -/
structure Mark where
  index : Nat
  line : Nat
  column : Nat
deriving Repr, Inhabited, DecidableEq

def isBreak (c : Char) : Bool :=
  c == '\r' || c == '\n' || c == '\x85' || c == '\u2028' || c == '\u2029'

def isBreakOrEnd (c : Char) : Bool :=
  c == '\x00' || isBreak c

def isBlankOrEnd (c : Char) : Bool :=
  c == ' ' || c == '\t' || isBreakOrEnd c

def isSpaceOrEnd (c : Char) : Bool :=
  c == ' ' || isBreakOrEnd c

def charAt (buf : Array Char) (i : Nat) : Char :=
  buf.getD i '\x00'

def windowStart (buf : Array Char) (pointer : Nat) : Nat → Nat × Bool
  | 0 => (0, false)
  | start + 1 =>
    if isBreakOrEnd (charAt buf start) then (start + 1, false)
    else if pointer - start ≥ 37 then (start + 5, true)
    else windowStart buf pointer start

def windowEnd (buf : Array Char) (pointer : Nat) : Nat → Nat → Nat × Bool
  | 0, stop => (stop, false)
  | fuel + 1, stop =>
    if isBreakOrEnd (charAt buf stop) then (stop, false)
    else if stop + 1 - pointer ≥ 37 then (stop + 1 - 5, true)
    else windowEnd buf pointer fuel (stop + 1)

def snippet (buf : Array Char) (pointer : Nat) : String :=
  let (start, cutLeft) := windowStart buf pointer pointer
  let (stop, cutRight) := windowEnd buf pointer buf.size pointer
  let head := if cutLeft then " ... " else ""
  let tail := if cutRight then " ... " else ""
  let body := String.ofList (buf.extract start stop).toList
  "    " ++ head ++ body ++ tail ++ "\n" ++
    String.ofList (List.replicate (4 + (pointer - start) + head.length) ' ') ++ "^"

/-- The text of a mark. -/
def Mark.text (buf : Array Char) (m : Mark) : String :=
  "  in \"<unicode string>\", line " ++ toString (m.line + 1) ++ ", column " ++
    toString (m.column + 1) ++ ":\n" ++ snippet buf m.index

/-- A failure of the loader. -/
inductive YamlError where
  /-- A syntax error: context and its mark, problem and its mark. -/
  | marked (context : Option String) (contextMark : Option Mark) (problem : String)
      (problemMark : Mark)
  /-- A character outside the printable set, at a position. -/
  | unacceptable (position : Nat) (code : Nat)
  /-- A failure that is not about syntax, with its class name and message. -/
  | failure (kind message : String)
  /-- The input was too large for the loader's step budget. -/
  | exhausted
deriving Repr, Inhabited

namespace YamlError

def isSyntax : YamlError → Bool
  | .failure .. => false
  | _ => true

/-- The text of an error over the loaded characters. -/
def text (buf : Array Char) : YamlError → String
  | .marked context contextMark problem problemMark =>
    let showContext := match contextMark with
      | some m => m.line != problemMark.line || m.column != problemMark.column
      | none => false
    let lines := context.toList ++
      (if showContext then contextMark.toList.map (Mark.text buf) else []) ++
      [problem, problemMark.text buf]
    "\n".intercalate lines
  | .unacceptable position code =>
    "unacceptable character #x" ++ String.ofList (Text.hexDigits 4 code) ++
      ": special characters are not allowed\n  in \"<unicode string>\", position " ++
      toString position
  | .failure _ message => message
  | .exhausted => "input too large"

end YamlError

def isAcceptable (c : Char) : Bool :=
  let n := Text.codeOf c
  n == 0x09 || n == 0x0A || n == 0x0D || (0x20 ≤ n && n ≤ 0x7E) || n == 0x85 ||
    (0xA0 ≤ n && n ≤ 0xD7FF) || (0xE000 ≤ n && n ≤ 0xFFFD) || (0x10000 ≤ n && n ≤ 0x10FFFF)

def quoteChar (c : Char) : String :=
  Text.literal (String.singleton c)

end Yaml
end SpireEnroll
