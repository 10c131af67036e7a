import SpireEnroll.Text.CodeSet
import SpireEnroll.Hostname.Permitted
import SpireEnroll.Hostname.Punycode
import SpireEnroll.Text.Direction

/-!
# Internationalized host names

The ASCII form of a host name (IDNA 2008). The name is cut into labels at full
stops (also the ideographic, fullwidth and halfwidth ones); a final empty label
stands for a trailing dot and is kept as one. Each label must be valid:

* not empty, and in composed normal form;
* no hyphen first or last, and not two in third and fourth place;
* not starting with a mark;
* each code point permitted where it stands (see `Hostname.Permitted`);
* when it holds a right-to-left character, it keeps the bidi rule: it starts
  with a right-to-left letter, holds only right-to-left letters, digits, marks,
  separators and neutrals, does not mix European and Arabic digits, and ends,
  marks aside, in a right-to-left letter or a digit. A character of unknown
  direction makes any label invalid.

A label of ASCII stays as it is, but one starting with `xn--` must be the
encoding of a valid label. Any other label is written as `xn--` and its Punycode.
No label may be longer than 63 characters, and the name no longer than 253 (254
with a trailing dot).
-/

/-!
## Marks

The characters of general category Mark (Unicode 14.0): combining characters
that modify the character before them. The table covers the characters a host
name label may hold.
-/

namespace SpireEnroll
namespace Text

def marks : CodeSet :=
  CodeSet.ofLines [
    "300-36f 483-487 591-5c7 610-61a 64b-65f 670 6d6-6e4 6e7-6ed 711 730-74a 7a6-7b0 7eb-7f3 7fd",
    "816-819 81b-823 825-827 829-82d 859-85b 898-89f 8ca-903 93a-93c 93e-94f 951-957 962-963 981-983",
    "9bc 9be-9cd 9d7 9e2-9e3 9fe-a03 a3c-a51 a70-a71 a75-a83 abc abe-acd ae2-ae3 afa-b03 b3c b3e-b57",
    "b62-b63 b82 bbe-bcd bd7 c00-c04 c3c c3e-c56 c62-c63 c81-c83 cbc cbe-cd6 ce2-ce3 d00-d03 d3b-d3c",
    "d3e-d4d d57 d62-d63 d81-d83 dca-ddf df2-df3 e31 e34-e3a e47-e4e eb1 eb4-ebc ec8-ecd f18-f19",
    "f35-f3f f71-f87 f8d-fc6 102b-103e 1056-1059 105e-1060 1062-1064 1067-106d 1071-1074 1082-108d",
    "108f 109a-109d 135d-135f 1712-1715 1732-1734 1752-1753 1772-1773 17b6-17d3 17dd 1885-1886 18a9",
    "1920-193b 1a17-1a1b 1a55-1a7f 1ab0-1ace 1b00-1b04 1b34-1b44 1b6b-1b82 1ba1-1bad 1be6-1bf3",
    "1c24-1c37 1cd0-1ce8 1ced 1cf4 1cf7-1cf9 1dc0-1dff 2cef-2cf1 2d7f 2de0-2dff 302a-302d 3099-309a",
    "a66f-a67d a69e-a69f a6f0-a6f1 a802 a806 a80b a823-a82c a880-a881 a8b4-a8c5 a8e0-a8f1 a8ff",
    "a926-a92d a947-a983 a9b3-a9c0 a9e5 aa29-aa36 aa43 aa4c-aa4d aa7b-aa7d aab0 aab2-aab4 aab7-aab8",
    "aabe-aabf aac1 aaeb-aaef aaf5-aaf6 abe3-abed fb1e-fe2f 101fd 102e0 10376-1037a 10a01-10a0f",
    "10a38-10a3f 10ae5-10ae6 10d24-10d27 10eab-10eac 10f46-10f50 10f82-10f85 11000-11002 11038-11046",
    "11070 11073-11074 1107f-11082 110b0-110c2 11100-11102 11127-11134 11145-11146 11173 11180-11182",
    "111b3-111c0 111c9-111cf 1122c-1123e 112df-112ea 11300-11303 1133b-1133c 1133e-1134d 11357",
    "11362-11374 11435-11446 1145e 114b0-114c3 115af-115c0 115dc-115dd 11630-11640 116ab-116b7",
    "1171d-1172b 1182c-1183a 11930-1193e 11940 11942-11943 119d1-119e0 119e4 11a01-11a0a 11a33-11a39",
    "11a3b-11a47 11a51-11a5b 11a8a-11a99 11c2f-11c3f 11c92-11cb6 11d31-11d45 11d47 11d8a-11d97",
    "11ef3-11ef6 16af0-16af4 16b30-16b36 16f4f 16f51-16f92 16fe4-16ff1 1bc9d-1daaf 1e000-1e02a",
    "1e130-1e136 1e2ae 1e2ec-1e2ef 1e8d0-1e8d6 1e944-1e94a"]

def isMark (c : Nat) : Bool :=
  marks.contains c

end Text
namespace Hostname

open Text

def hyphen : Nat := 0x2D

def hyphensFit (label : List Nat) : Bool :=
  (label.drop 2).take 2 != [hyphen, hyphen] &&
    label.head? != some hyphen && label.getLast? != some hyphen

def rightToLeftClasses : List BidiClass :=
  [.rightToLeft, .arabicLetter, .arabicNumber, .europeanNumber, .europeanSeparator,
   .commonSeparator, .europeanTerminator, .otherNeutral, .boundaryNeutral, .nonspacingMark]

def leftToRightClasses : List BidiClass :=
  [.leftToRight, .europeanNumber, .europeanSeparator, .commonSeparator,
   .europeanTerminator, .otherNeutral, .boundaryNeutral, .nonspacingMark]

def endsIn (ends : List BidiClass) (classes : List BidiClass) : Bool :=
  match (classes.filter (· != .nonspacingMark)).getLast? with
  | some c => ends.contains c
  | none => false

def bidiFits (classes : List BidiClass) : Bool :=
  if classes.contains .unknown then false
  else if !classes.any (fun c => c == .rightToLeft || c == .arabicLetter || c == .arabicNumber) then true
  else match classes.head? with
    | some .rightToLeft | some .arabicLetter =>
      classes.all rightToLeftClasses.contains &&
        endsIn [.rightToLeft, .arabicLetter, .europeanNumber, .arabicNumber] classes &&
        !(classes.contains .europeanNumber && classes.contains .arabicNumber)
    | some .leftToRight =>
      classes.all leftToRightClasses.contains && endsIn [.leftToRight, .europeanNumber] classes
    | _ => false

def labelFits (label : List Nat) : Bool :=
  !label.isEmpty && label.length ≤ 254 && isComposed label && hyphensFit label &&
    !(label.head?.map isMark).getD false && allFit label && bidiFits (label.map bidiClass)

def maxLabelLength : Nat := 63

def encodedPrefix : List Char := ['x', 'n', '-', '-']

def asciiLabel? (label : List Char) : Option String :=
  let fits := if label.all (·.toNat < 0x80) then
      let lower := label.map Char.toLower
      if encodedPrefix.isPrefixOf lower then
        let rest := lower.drop 4
        if rest.isEmpty || rest.getLast? == some '-' then false
        else match Punycode.decode? rest with
          | some u => labelFits u
          | none => false
      else labelFits (lower.map Char.toNat)
    else labelFits (label.map Char.toNat)
  let ascii := if label.all (·.toNat < 0x80) then String.ofList label
    else "xn--" ++ Punycode.encode (label.map Char.toNat)
  if fits && ascii.length ≤ maxLabelLength then some ascii else none

def isLabelStop (c : Char) : Bool :=
  c == '.' || c.toNat == 0x3002 || c.toNat == 0xFF0E || c.toNat == 0xFF61

def maxNameLength : Nat := 253

/-- The ASCII form of a host name already in lower case, if it has one. -/
def toAscii? (name : String) : Option String :=
  let cs := name.toList
  let labels := cs.splitOnP isLabelStop
  let trailing := labels.length > 1 && labels.getLast? == some []
  let labels := if trailing then labels.dropLast else labels
  if maxNameLength + 1 < cs.length || labels == [[]] then none
  else
    match labels.mapM asciiLabel? with
    | some ascii =>
      let out := ".".intercalate ascii ++ (if trailing then "." else "")
      if out.length ≤ maxNameLength + (if trailing then 1 else 0) then some out else none
    | none => none

end Hostname
end SpireEnroll
