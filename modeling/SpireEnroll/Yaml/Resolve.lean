import SpireEnroll.Yaml.Reader

/-!
# Implicit tags

A plain scalar without a tag gets the first tag whose pattern its whole text
matches, trying only the patterns that can start with its first character, in
this order (YAML 1.1):

* bool: `yes`, `no`, `true`, `false`, `on`, `off`, each all lower-case, capitalised
  or all upper-case;
* float: digits with a point and an optional signed exponent, a point and digits,
  base-60 numbers with a fraction (`1:30.5`), `.inf`, `.nan`;
* int: binary `0b`, octal `0`, decimal, hexadecimal `0x`, base-60 (`1:30`); digits
  may be separated by `_`;
* merge `<<`; null `~`, `null` or nothing; timestamp `2001-12-14` or a date with a
  time and zone; value `=`.

Any other scalar is a string. As with the patterns' end anchor, a text that ends
in one line feed also matches when the rest does.
-/

namespace SpireEnroll
namespace Yaml

def strTag : String := "tag:yaml.org,2002:str"

def seqTag : String := "tag:yaml.org,2002:seq"

def mapTag : String := "tag:yaml.org,2002:map"

def dropSign : List Char → List Char
  | '-' :: r => r
  | '+' :: r => r
  | r => r

def isDigitMark (c : Char) : Bool :=
  isDigitChar c || c == '_'

def exponentThenEnd : List Char → Bool
  | [] => true
  | e :: s :: ds =>
    (e == 'e' || e == 'E') && (s == '-' || s == '+') && !ds.isEmpty && ds.all isDigitChar
  | _ => false

def sexagesimalPlaces (cs : List Char) : Option (List Char) :=
  go cs.length cs false
where
  go : Nat → List Char → Bool → Option (List Char)
    | 0, rest, any => if any then some rest else none
    | fuel + 1, ':' :: a :: rest, _ =>
      match rest with
      | b :: rest' =>
        if '0' ≤ a && a ≤ '5' && isDigitChar b then go fuel rest' true
        else if isDigitChar a then go fuel (b :: rest') true
        else none
      | [] => if isDigitChar a then go fuel [] true else none
    | _ + 1, rest, any => if any then some rest else none

def isFloatText (cs : List Char) : Bool :=
  let unsigned := dropSign cs
  let pointed : Bool := match unsigned with
    | d :: rest =>
      isDigitChar d &&
        match rest.dropWhile isDigitMark with
        | '.' :: r => exponentThenEnd (r.dropWhile isDigitMark)
        | _ => false
    | [] => false
  let fraction : Bool := match cs with
    | '.' :: d :: rest => isDigitChar d && exponentThenEnd (rest.dropWhile isDigitMark)
    | _ => false
  let sexagesimal : Bool := match unsigned with
    | d :: rest =>
      isDigitChar d &&
        match sexagesimalPlaces (rest.dropWhile isDigitMark) with
        | some ('.' :: r) => (r.dropWhile isDigitMark).isEmpty
        | _ => false
    | [] => false
  let infinity := unsigned == ".inf".toList || unsigned == ".Inf".toList ||
    unsigned == ".INF".toList
  let nan := cs == ".nan".toList || cs == ".NaN".toList || cs == ".NAN".toList
  pointed || fraction || sexagesimal || infinity || nan

def isIntText (cs : List Char) : Bool :=
  let u := dropSign cs
  let binary := match u with
    | '0' :: 'b' :: r => !r.isEmpty && r.all (fun c => c == '0' || c == '1' || c == '_')
    | _ => false
  let octal := match u with
    | '0' :: r => !r.isEmpty && r.all (fun c => ('0' ≤ c && c ≤ '7') || c == '_')
    | _ => false
  let decimal := match u with
    | ['0'] => true
    | d :: r => '1' ≤ d && d ≤ '9' && r.all isDigitMark
    | [] => false
  let hex := match u with
    | '0' :: 'x' :: r => !r.isEmpty && r.all (fun c => isHexChar c || c == '_')
    | _ => false
  let sexagesimal := match u with
    | d :: r =>
      '1' ≤ d && d ≤ '9' && sexagesimalPlaces (r.dropWhile isDigitMark) == some []
    | [] => false
  binary || octal || decimal || hex || sexagesimal

def takeDigits : Nat → List Char → Option (List Char)
  | 0, cs => some cs
  | n + 1, c :: cs => if isDigitChar c then takeDigits n cs else none
  | _ + 1, [] => none

def oneOrTwoDigits : List Char → Option (List Char)
  | a :: b :: rest =>
    if isDigitChar a then (if isDigitChar b then some rest else some (b :: rest)) else none
  | [a] => if isDigitChar a then some [] else none
  | [] => none

def zoneThenEnd (cs : List Char) : Bool :=
  cs.isEmpty ||
    match cs.dropWhile (fun c => c == ' ' || c == '\t') with
    | ['Z'] => true
    | s :: rest =>
      (s == '-' || s == '+') &&
        match oneOrTwoDigits rest with
        | some [] => true
        | some (':' :: m) => takeDigits 2 m == some []
        | _ => false
    | [] => false

def timeSeparator : List Char → Option (List Char)
  | c :: r =>
    if c == 'T' || c == 't' then some r
    else if c == ' ' || c == '\t' then some (r.dropWhile (fun c => c == ' ' || c == '\t'))
    else none
  | [] => none

def isTimestampText (cs : List Char) : Bool :=
  let dateOnly := match takeDigits 4 cs with
    | some ('-' :: r) =>
      match takeDigits 2 r with
      | some ('-' :: r') => takeDigits 2 r' == some []
      | _ => false
    | _ => false
  let full : Bool := Option.isSome do
    let r ← takeDigits 4 cs
    let r ← match r with | '-' :: r => some r | _ => none
    let r ← oneOrTwoDigits r
    let r ← match r with | '-' :: r => some r | _ => none
    let r ← oneOrTwoDigits r
    let r ← timeSeparator r
    let r ← oneOrTwoDigits r
    let r ← match r with | ':' :: r => some r | _ => none
    let r ← takeDigits 2 r
    let r ← match r with | ':' :: r => some r | _ => none
    let r ← takeDigits 2 r
    let r := match r with
      | '.' :: r => r.dropWhile isDigitChar
      | r => r
    if zoneThenEnd r then some () else none
  dateOnly || full

def boolWords : List String :=
  ["yes", "Yes", "YES", "no", "No", "NO", "true", "True", "TRUE", "false", "False", "FALSE",
    "on", "On", "ON", "off", "Off", "OFF"]

def implicitCandidates (first : Option Char) : List (String × (List Char → Bool)) :=
  match first with
  | none => [("tag:yaml.org,2002:null", fun _ => true)]
  | some c =>
    (if "yYnNtTfFoO".contains c then
      [("tag:yaml.org,2002:bool", fun cs => boolWords.contains (String.ofList cs))] else []) ++
    (if "-+0123456789.".contains c then [("tag:yaml.org,2002:float", isFloatText)] else []) ++
    (if "-+0123456789".contains c then [("tag:yaml.org,2002:int", isIntText)] else []) ++
    (if c == '<' then [("tag:yaml.org,2002:merge", fun cs => cs == ['<', '<'])] else []) ++
    (if "~nN".contains c then
      [("tag:yaml.org,2002:null", fun cs => cs == ['~'] || cs == "null".toList ||
        cs == "Null".toList || cs == "NULL".toList || cs.isEmpty)] else []) ++
    (if "0123456789".contains c then [("tag:yaml.org,2002:timestamp", isTimestampText)] else []) ++
    (if c == '=' then [("tag:yaml.org,2002:value", fun cs => cs == ['='])] else [])

def matchesWhole (p : List Char → Bool) (cs : List Char) : Bool :=
  p cs || (cs.getLast? == some '\n' && p cs.dropLast)

def resolveScalar (value : String) (implicit : Bool × Bool) : String :=
  let cs := value.toList
  if implicit.1 then
    match (implicitCandidates cs.head?).find? (fun (_, p) => matchesWhole p cs) with
    | some (tag, _) => tag
    | none => strTag
  else strTag

end Yaml
end SpireEnroll
