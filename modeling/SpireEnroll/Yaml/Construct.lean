import SpireEnroll.Yaml.Compose
import SpireEnroll.Text.Numeral

/-!
# Constructing values

Each node becomes a value according to its tag: null, bool, int, float, binary,
timestamp and str from scalars; seq, map, set, omap and pairs from collections.
Any other tag has no constructor and is an error.

Collections are built in two stages. Meeting a collection gives its (still empty)
value at once, so that a collection may contain itself; its contents are built
later, collections in the order they were met, level by level. Errors therefore
come in that order: those of the top mapping's own keys and values before those
inside nested collections.

Before a mapping is built its merge keys are resolved: `<<: mapping` (or a list of
mappings) adds that mapping's pairs in front of the mapping's own, so that its
own keys win; a key `=` becomes the string `"="`. A mapping key must be hashable:
a sequence, mapping or set cannot be a key.

Scalar constructors can fail on their text, as the text reading functions they
rely on fail: an int like `0b_` or a date like `2001-13-01` gives the failure
of the class that reading raises.
-/

namespace SpireEnroll
namespace Yaml

/-- What a node is built as. Collections are known by their node; the contents
of a mapping are read from its node's pairs. -/
inductive Datum where
  | null
  | bool (b : Bool)
  | int (n : Int)
  | float (x : Float)
  | str (s : String)
  | bytes (bs : List UInt8)
  | timestamp
  | seq (node : Nat)
  | map (node : Nat)
  | set (node : Nat)
  /-- An ordered map (`ordered`) or a list of pairs: a list of key-value pairs. -/
  | pairs (node : Nat) (ordered : Bool)
deriving Repr, Inhabited

def Datum.hashable : Datum → Bool
  | .seq _ | .map _ | .set _ | .pairs .. => false
  | _ => true

/-- The builder's state: the node graph (merge keys are resolved in it), the
values built so far, and the collections whose contents are still to build. -/
structure Builder where
  nodes : Array Node
  built : Array (Option Datum)
  queue : List Nat
deriving Inhabited

abbrev BuildM := StateT Builder (Except YamlError)

def nodeAt (i : Nat) : BuildM Node :=
  return (← get).nodes.getD i default

def pairsAt (i : Nat) : BuildM (List (Nat × Nat)) := do
  match (← nodeAt i).body with
  | .mapping ps => return ps
  | _ => return []

def setPairs (i : Nat) (ps : List (Nat × Nat)) : BuildM Unit :=
  modify fun b => { b with nodes := b.nodes.modify i fun n => { n with body := .mapping ps } }

def setTag (i : Nat) (tag : String) : BuildM Unit :=
  modify fun b => { b with nodes := b.nodes.modify i fun n => { n with tag := tag } }

def constructError {α : Type} (problem : String) (m : Mark) : BuildM α :=
  throw (.marked none none problem m)

def failure {α : Type} (kind message : String) : BuildM α :=
  throw (.failure kind message)

def mappingContext : String :=
  "while constructing a mapping"

def mergeTag : String := "tag:yaml.org,2002:merge"

def valueTag : String := "tag:yaml.org,2002:value"

mutual
def flattenFrom : Nat → Nat → Nat → List (Nat × Nat) → BuildM (List (Nat × Nat))
  | 0, _, _, _ => throw .exhausted
  | fuel + 1, i, index, merged => do
    let ps ← pairsAt i
    match ps[index]? with
    | none => return merged
    | some (k, v) =>
      let kn ← nodeAt k
      if kn.tag == mergeTag then
        setPairs i (ps.eraseIdx index)
        let vn ← nodeAt v
        match vn.body with
        | .mapping _ =>
          flatten fuel v
          let vps ← pairsAt v
          flattenFrom fuel i index (merged ++ vps)
        | .sequence items =>
          let node ← nodeAt i
          let subs ← items.mapM fun s => do
            let sn ← nodeAt s
            match sn.body with
            | .mapping _ =>
              flatten fuel s
              pairsAt s
            | b =>
              throw (.marked (some mappingContext) (some node.start)
                ("expected a mapping for merging, but found " ++ b.kindName) sn.start)
          flattenFrom fuel i index (merged ++ subs.reverse.flatten)
        | b =>
          throw (.marked (some mappingContext) (some (← nodeAt i).start)
            ("expected a mapping or list of mappings for merging, but found " ++ b.kindName)
            vn.start)
      else
        if kn.tag == valueTag then setTag k strTag
        flattenFrom fuel i (index + 1) merged

def flatten : Nat → Nat → BuildM Unit
  | 0, _ => throw .exhausted
  | fuel + 1, i => do
    let merged ← flattenFrom fuel i 0 []
    if !merged.isEmpty then setPairs i (merged ++ (← pairsAt i))
end

def scalarText (n : Node) : BuildM String :=
  match n.body with
  | .scalar v => pure v
  | b => constructError ("expected a scalar node, but found " ++ b.kindName) n.start

def lowerAscii (s : String) : String :=
  s.map Char.toLower

def clip (s : String) : String :=
  String.ofList (s.toList.take 200)

def readIntOrFail (base : Nat) (s : String) : BuildM Int :=
  match Numeral.readIntIn base s with
  | .ok n => pure n
  | .error .invalid =>
    failure "ValueError"
      ("invalid literal for int() with base " ++ toString base ++ ": " ++ clip (Text.literal s))
  | .error (.tooLong d) =>
    failure "ValueError"
      ("Exceeds the limit (4300 digits) for integer string conversion: value has " ++
        toString d ++ " digits; use sys.set_int_max_str_digits() to increase the limit")

def readFloatOrFail (s : String) : BuildM Float :=
  match Numeral.readFloat? s with
  | some x => pure x
  | none => failure "ValueError" ("could not convert string to float: " ++ Text.literal s)

def emptyIndexFailure {α : Type} : BuildM α :=
  failure "IndexError" "string index out of range"

def buildBool (n : Node) : BuildM Datum := do
  let v := lowerAscii (← scalarText n)
  if v == "yes" || v == "true" || v == "on" then return .bool true
  if v == "no" || v == "false" || v == "off" then return .bool false
  failure "KeyError" (Text.literal v)

def sexagesimal (places : List Int) : Int :=
  places.foldl (fun acc d => acc * 60 + d) 0

def buildInt (n : Node) : BuildM Datum := do
  let v := String.ofList ((← scalarText n).toList.filter (· != '_'))
  let cs := v.toList
  let some first := cs.head? | emptyIndexFailure
  let neg := first == '-'
  let body := if first == '-' || first == '+' then String.ofList cs.tail else v
  let signed (k : Int) : Datum := .int (if neg then -k else k)
  if body == "0" then return .int 0
  if body.startsWith "0b" then return signed (← readIntOrFail 2 (String.ofList (body.toList.drop 2)))
  if body.startsWith "0x" then return signed (← readIntOrFail 16 (String.ofList (body.toList.drop 2)))
  let some lead := body.toList.head? | emptyIndexFailure
  if lead == '0' then return signed (← readIntOrFail 8 body)
  if body.contains ':' then
    let places ← (body.splitOn ":").mapM (readIntOrFail 10)
    return signed (sexagesimal places)
  return signed (← readIntOrFail 10 body)

def buildFloat (n : Node) : BuildM Datum := do
  let v := lowerAscii (String.ofList ((← scalarText n).toList.filter (· != '_')))
  let cs := v.toList
  let some first := cs.head? | emptyIndexFailure
  let neg := first == '-'
  let body := if first == '-' || first == '+' then String.ofList cs.tail else v
  let signed (x : Float) : Datum := .float (if neg then -x else x)
  if body == ".inf" then return signed (1.0 / 0.0)
  if body == ".nan" then return .float (0.0 / 0.0)
  if body.contains ':' then
    let places ← (body.splitOn ":").mapM readFloatOrFail
    return signed (places.foldl (fun acc d => acc * 60.0 + d) 0.0)
  return signed (← readFloatOrFail body)

def asciiEncodeFailure (cs : List Char) : Option String :=
  let start := cs.findIdx (fun c => c.toNat ≥ 128)
  if start ≥ cs.length then none
  else
    let run := ((cs.drop start).takeWhile (fun c => c.toNat ≥ 128)).length
    if run == 1 then
      let code := (cs.getD start ' ').toNat
      let shown :=
        if code ≤ 0xFF then "\\x" ++ String.ofList (Text.hexDigits 2 code)
        else if code ≤ 0xFFFF then "\\u" ++ String.ofList (Text.hexDigits 4 code)
        else "\\U" ++ String.ofList (Text.hexDigits 8 code)
      some ("'ascii' codec can't encode character '" ++ shown ++ "' in position " ++
        toString start ++ ": ordinal not in range(128)")
    else
      some ("'ascii' codec can't encode characters in position " ++ toString start ++ "-" ++
        toString (start + run - 1) ++ ": ordinal not in range(128)")

def base64Lenient (cs : List Char) : Except String (List UInt8) :=
  go cs 0 0 0 0 []
where
  /-- The sextet value of a base64 character. -/
  sextet (c : Char) : Option Nat :=
    if 'A' ≤ c && c ≤ 'Z' then some (c.toNat - 'A'.toNat)
    else if 'a' ≤ c && c ≤ 'z' then some (c.toNat - 'a'.toNat + 26)
    else if '0' ≤ c && c ≤ '9' then some (c.toNat - '0'.toNat + 52)
    else if c == '+' then some 62
    else if c == '/' then some 63
    else none
  finish (quad written : Nat) (out : List UInt8) : Except String (List UInt8) :=
    if quad == 0 then .ok out.reverse
    else if quad == 1 then
      .error ("Invalid base64-encoded string: number of data characters (" ++
        toString (written / 3 * 4 + 1) ++ ") cannot be 1 more than a multiple of 4")
    else .error "Incorrect padding"
  go : List Char → Nat → Nat → Nat → Nat → List UInt8 → Except String (List UInt8)
    | [], quad, _, _, written, out => finish quad written out
    | c :: rest, quad, left, pads, written, out =>
      if c == '=' then
        if quad ≥ 2 && quad + (pads + 1) ≥ 4 then .ok out.reverse
        else go rest quad left (if quad ≥ 2 then pads + 1 else pads) written out
      else match sextet c with
        | none => go rest quad left pads written out
        | some v =>
          match quad with
          | 0 => go rest 1 v 0 written out
          | 1 => go rest 2 (v % 16) 0 (written + 1) ((left * 4 + v / 16).toUInt8 :: out)
          | 2 => go rest 3 (v % 4) 0 (written + 1) ((left * 16 + v / 4).toUInt8 :: out)
          | _ => go rest 0 0 0 (written + 1) ((left * 64 + v).toUInt8 :: out)

def buildBinary (n : Node) : BuildM Datum := do
  let cs := (← scalarText n).toList
  if let some e := asciiEncodeFailure cs then
    constructError ("failed to convert base64 data into ascii: " ++ e) n.start
  match base64Lenient cs with
  | .ok bs => return .bytes bs
  | .error e => constructError ("failed to decode base64 data: " ++ e) n.start

/-- The parts of a timestamp's text. -/
structure Stamp where
  year : Nat
  month : Nat
  day : Nat
  /-- Hour, minute and second, when there is a time. -/
  time : Option (Nat × Nat × Nat)
  /-- The zone's sign (true for `-`), hour and minute, when it is numeric. -/
  zone : Option (Bool × Nat × Nat)
deriving Repr

def frontDigits (lo hi : Nat) (cs : List Char) : Option (Nat × List Char) :=
  let ds := (cs.takeWhile isDigitChar).take hi
  if ds.length < lo then none
  else some (decimalValue (String.ofList ds), cs.drop ds.length)

def frontChar (p : Char → Bool) : List Char → Option (List Char)
  | c :: rest => if p c then some rest else none
  | [] => none

def stampTime (cs : List Char) : Option ((Nat × Nat × Nat) × Option (Bool × Nat × Nat)) := do
  let r ← timeSeparator cs
  let (hour, r) ← frontDigits 1 2 r
  let r ← frontChar (· == ':') r
  let (minute, r) ← frontDigits 2 2 r
  let r ← frontChar (· == ':') r
  let (second, r) ← frontDigits 2 2 r
  let r := match r with
    | '.' :: r => r.dropWhile isDigitChar
    | r => r
  if r.isEmpty then return ((hour, minute, second), none)
  match r.dropWhile (fun c => c == ' ' || c == '\t') with
  | ['Z'] => return ((hour, minute, second), none)
  | s :: r =>
    if s != '-' && s != '+' then none
    let (zh, r) ← frontDigits 1 2 r
    match r with
    | [] => return ((hour, minute, second), some (s == '-', zh, 0))
    | ':' :: r =>
      let (zm, r) ← frontDigits 2 2 r
      if r.isEmpty then return ((hour, minute, second), some (s == '-', zh, zm)) else none
    | _ => none
  | [] => none

def parseStamp (cs : List Char) : Option Stamp := do
  let (year, r) ← frontDigits 4 4 cs
  let r ← frontChar (· == '-') r
  let (month, r) ← frontDigits 1 2 r
  let r ← frontChar (· == '-') r
  let (day, r) ← frontDigits 1 2 r
  if r.isEmpty then return ⟨year, month, day, none, none⟩
  let (time, zone) ← stampTime r
  return ⟨year, month, day, some time, zone⟩

def isLeap (y : Nat) : Bool :=
  y % 4 == 0 && (y % 100 != 0 || y % 400 == 0)

def daysIn (y m : Nat) : Nat :=
  if m == 2 then (if isLeap y then 29 else 28)
  else if m == 4 || m == 6 || m == 9 || m == 11 then 30
  else 31

def dateProblem (y m d : Nat) : Option String :=
  if y < 1 || y > 9999 then some ("year " ++ toString y ++ " is out of range")
  else if m < 1 || m > 12 then some "month must be in 1..12"
  else if d < 1 || d > daysIn y m then some "day is out of range for month"
  else none

def spanText (total : Int) : String :=
  let days := total / 86400
  let secs := total % 86400
  let parts := (if days != 0 then ["days=" ++ toString days] else []) ++
    (if secs != 0 then ["seconds=" ++ toString secs] else [])
  "datetime.timedelta(" ++ (if parts.isEmpty then "0" else ", ".intercalate parts) ++ ")"

def buildTimestamp (n : Node) : BuildM Datum := do
  let text := (← scalarText n).toList
  let stamp := match parseStamp text with
    | some s => some s
    | none => if text.getLast? == some '\n' then parseStamp text.dropLast else none
  let some s := stamp | failure "AttributeError" "'NoneType' object has no attribute 'groupdict'"
  match s.time with
  | none =>
    if let some p := dateProblem s.year s.month s.day then failure "ValueError" p
    return .timestamp
  | some (hour, minute, second) =>
    if let some (neg, zh, zm) := s.zone then
      let total : Int := (zh * 3600 + zm * 60 : Nat)
      let total := if neg then -total else total
      if total ≤ -86400 || total ≥ 86400 then
        failure "ValueError"
          ("offset must be a timedelta strictly between -timedelta(hours=24) and " ++
            "timedelta(hours=24), not " ++ spanText total ++ ".")
    if let some p := dateProblem s.year s.month s.day then failure "ValueError" p
    if hour > 23 then failure "ValueError" "hour must be in 0..23"
    if minute > 59 then failure "ValueError" "minute must be in 0..59"
    if second > 59 then failure "ValueError" "second must be in 0..59"
    return .timestamp

/-- Start building node `i`: a scalar is built at once; a collection's value is
noted and its contents queued. -/
def construct (i : Nat) : BuildM Datum := do
  if let some d := (← get).built.getD i none then return d
  let n ← nodeAt i
  let queued (d : Datum) : BuildM Datum := do
    modify fun b => { b with queue := b.queue ++ [i] }
    pure d
  let d ← match n.tag with
    | "tag:yaml.org,2002:null" => do
      let _ ← scalarText n
      pure Datum.null
    | "tag:yaml.org,2002:bool" => buildBool n
    | "tag:yaml.org,2002:int" => buildInt n
    | "tag:yaml.org,2002:float" => buildFloat n
    | "tag:yaml.org,2002:binary" => buildBinary n
    | "tag:yaml.org,2002:timestamp" => buildTimestamp n
    | "tag:yaml.org,2002:str" => do pure (.str (← scalarText n))
    | "tag:yaml.org,2002:seq" => queued (.seq i)
    | "tag:yaml.org,2002:map" => queued (.map i)
    | "tag:yaml.org,2002:set" => queued (.set i)
    | "tag:yaml.org,2002:omap" => queued (.pairs i true)
    | "tag:yaml.org,2002:pairs" => queued (.pairs i false)
    | tag => constructError ("could not determine a constructor for the tag " ++
        Text.literal tag) n.start
  modify fun b => { b with built := b.built.set! i (some d) }
  return d

def buildPair (start : Mark) (kv : Nat × Nat) : BuildM Unit := do
  let kd ← construct kv.1
  if !kd.hashable then
    throw (.marked (some mappingContext) (some start) "found unhashable key" (← nodeAt kv.1).start)
  let _ ← construct kv.2

def buildMapping (i : Nat) (fuel : Nat) : BuildM Unit := do
  let n ← nodeAt i
  match n.body with
  | .mapping _ =>
    flatten fuel i
    (← pairsAt i).forM (buildPair n.start)
  | b => constructError ("expected a mapping node, but found " ++ b.kindName) n.start

def buildPairs (i : Nat) (ordered : Bool) : BuildM Unit := do
  let n ← nodeAt i
  let context := if ordered then "while constructing an ordered map"
    else "while constructing pairs"
  match n.body with
  | .sequence items =>
    for s in items do
      let sn ← nodeAt s
      match sn.body with
      | .mapping [(k, v)] =>
        let _ ← construct k
        let _ ← construct v
      | .mapping ps =>
        throw (.marked (some context) (some n.start)
          ("expected a single mapping item, but found " ++ toString ps.length ++ " items")
          sn.start)
      | b =>
        throw (.marked (some context) (some n.start)
          ("expected a mapping of length 1, but found " ++ b.kindName) sn.start)
  | b =>
    throw (.marked (some context) (some n.start) ("expected a sequence, but found " ++ b.kindName)
      n.start)

def buildContents (i : Nat) (fuel : Nat) : BuildM Unit := do
  match (← get).built.getD i none with
  | some (.seq _) =>
    let n ← nodeAt i
    match n.body with
    | .sequence items =>
      for s in items do
        let _ ← construct s
    | b => constructError ("expected a sequence node, but found " ++ b.kindName) n.start
  | some (.map _) | some (.set _) => buildMapping i fuel
  | some (.pairs _ ordered) => buildPairs i ordered
  | _ => pure ()

def drain (fuel : Nat) : Nat → BuildM Unit
  | 0 => throw .exhausted
  | rounds + 1 => do
    match (← get).queue with
    | [] => pure ()
    | i :: rest =>
      modify fun b => { b with queue := rest }
      buildContents i fuel
      drain fuel rounds

/-- A loaded document: the node graph after merge keys are resolved, the value of
each node, and the value of the root (none for an empty text). -/
structure Document where
  nodes : Array Node
  built : Array (Option Datum)
  root : Option Datum
deriving Inhabited

/-- Build the values of a node graph from its root. -/
def buildDocument (nodes : Array Node) (root : Option Nat) : Except YamlError Document := do
  match root with
  | none => pure ⟨nodes, #[], none⟩
  | some r =>
    let b : Builder := ⟨nodes, Array.replicate nodes.size none, []⟩
    let fuel := 4 * (nodes.size + 8)
    let (d, b) ← (do
        let d ← construct r
        drain fuel (nodes.size + 1)
        pure d).run b
    pure ⟨b.nodes, b.built, some d⟩

def Document.field? (doc : Document) (key : String) : Option Datum :=
  match doc.root with
  | some (.map i) =>
    match (doc.nodes.getD i default).body with
    | .mapping ps =>
      let hits := ps.filter fun (k, _) =>
        match doc.built.getD k none with
        | some (.str s) => s == key
        | _ => false
      hits.getLast?.bind fun (_, v) => doc.built.getD v none
    | _ => none
  | _ => none

/-- Load a text as one YAML document. -/
def load (text : String) : Except YamlError Document := do
  let cs := text.toList
  match cs.findIdx? (fun c => !isAcceptable c) with
  | some pos => throw (.unacceptable pos (Text.codeOf (cs.getD pos ' ')))
  | none =>
    let (nodes, root) ← compose text
    buildDocument nodes root

end Yaml
end SpireEnroll
