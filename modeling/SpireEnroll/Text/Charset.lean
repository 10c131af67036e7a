import SpireEnroll.Text.Utf8
import SpireEnroll.Text.Literal

/-!
# Character sets

Response bodies are bytes; their text depends on the character set the response
names, which is looked up by name the usual way: letters in lower case, and runs
of other characters than letters, digits and `.` read as one `_`, so that
`UTF-8`, `utf8` and `utf_8` name one set. The sets known here are UTF-8 (with and
without a byte order mark), Latin-1, ASCII, Windows-1252, UTF-16 and UTF-32 (with
a byte order mark, or in a fixed byte order).

Text is read in two ways:

* *lossy*: every stretch of bytes that cannot be read becomes one replacement
  character, as a reader with replacement does;
* *strict*, for JSON bodies: the first such stretch fails the reading, except
  that surrogate code points are let through. A surrogate cannot be held in a
  text here and is read as the replacement character.
-/

namespace SpireEnroll

/-- A known character set. -/
inductive Charset where
  | utf8
  | utf8Sig
  | latin1
  | ascii
  | cp1252
  | utf16
  | utf16le
  | utf16be
  | utf32
  | utf32le
  | utf32be
deriving DecidableEq, Repr, Inhabited

namespace Charset

def normalName (name : String) : String :=
  let cs := name.toList.map Char.toLower
  let rec go : List Char → Bool → List Char → List Char
    | [], _, acc => acc.reverse
    | c :: rest, gap, acc =>
      if c.isAlphanum || c == '.' then
        let acc := if gap && !acc.isEmpty then '_' :: acc else acc
        go rest false (if c.toNat < 128 then c :: acc else acc)
      else go rest true acc
  String.ofList (go cs false [])

def names : List (Charset × List String) :=
  [(.utf8, ["utf_8", "utf8", "u8", "utf", "utf8_ucs2", "utf8_ucs4", "cp65001"]),
   (.utf8Sig, ["utf_8_sig"]),
   (.latin1, ["latin_1", "latin1", "latin", "l1", "iso8859_1", "iso_8859_1", "8859", "cp819",
     "ibm819", "iso_ir_100", "csisolatin1", "iso_8859_1_1987", "iso8859"]),
   (.ascii, ["ascii", "us_ascii", "646", "ansi_x3.4_1968", "ansi_x3_4_1968", "ansi_x3.4_1986",
     "cp367", "csascii", "ibm367", "iso646_us", "iso_646.irv_1991", "iso_ir_6", "us"]),
   (.cp1252, ["cp1252", "windows_1252", "1252"]),
   (.utf16, ["utf_16", "u16", "utf16"]),
   (.utf16le, ["utf_16_le", "utf_16le", "unicodelittleunmarked"]),
   (.utf16be, ["utf_16_be", "utf_16be", "unicodebigunmarked"]),
   (.utf32, ["utf_32", "u32", "utf32"]),
   (.utf32le, ["utf_32_le", "utf_32le"]),
   (.utf32be, ["utf_32_be", "utf_32be"])]

/-- The set a name stands for, if it is known. -/
def ofName? (name : String) : Option Charset :=
  let n := normalName name
  let n2 := n.replace "." "_"
  (names.find? fun (_, ns) => ns.contains n || ns.contains n2).map (·.1)

def cp1252High : Array Nat :=
  #[0x20AC, 0, 0x201A, 0x0192, 0x201E, 0x2026, 0x2020, 0x2021, 0x02C6, 0x2030, 0x0160, 0x2039,
    0x0152, 0, 0x017D, 0, 0, 0x2018, 0x2019, 0x201C, 0x201D, 0x2022, 0x2013, 0x2014, 0x02DC,
    0x2122, 0x0161, 0x203A, 0x0153, 0, 0x017E, 0x0178]

def charOf (n : Nat) : Char :=
  if n < 0xD800 || (0xE000 ≤ n && n ≤ 0x10FFFF) then Char.ofNat n else '�'

def singleBytes (f : Nat → Option Nat) (bs : Array UInt8) : List (Option Char) :=
  bs.toList.map fun b => (f b.toNat).map charOf

/-- The byte order of a wide set. -/
inductive Order where
  | little
  | big
deriving DecidableEq

def unitAt (bs : Array UInt8) (order : Order) (width i : Nat) : Nat :=
  let bytes := (List.range width).map fun k => (bs.getD (i + k) 0).toNat
  let bytes := if order == .little then bytes.reverse else bytes
  bytes.foldl (fun n b => n * 256 + b) 0

def utf16Chars (bs : Array UInt8) (order : Order) (passSurrogates : Bool) (start : Nat) :
    List (Option Char) :=
  go start (bs.size + 1) []
where
  go (i : Nat) : Nat → List (Option Char) → List (Option Char)
    | 0, acc => acc.reverse
    | fuel + 1, acc =>
      if i ≥ bs.size then acc.reverse
      else if i + 2 > bs.size then (none :: acc).reverse
      else
        let u := unitAt bs order 2 i
        if u < 0xD800 || u ≥ 0xE000 then go (i + 2) fuel (some (Char.ofNat u) :: acc)
        else if u ≥ 0xDC00 then
          go (i + 2) fuel ((if passSurrogates then some (Text.charOfCode u) else none) :: acc)
        else if i + 4 > bs.size then
          (if passSurrogates && i + 4 > bs.size && i + 2 == bs.size then
            (some (Text.charOfCode u) :: acc).reverse
          else (none :: acc).reverse)
        else
          let v := unitAt bs order 2 (i + 2)
          if 0xDC00 ≤ v && v < 0xE000 then
            go (i + 4) fuel (some (Char.ofNat (0x10000 + (u - 0xD800) * 0x400 + (v - 0xDC00))) :: acc)
          else go (i + 2) fuel ((if passSurrogates then some (Text.charOfCode u) else none) :: acc)

def utf32Chars (bs : Array UInt8) (order : Order) (passSurrogates : Bool) (start : Nat) :
    List (Option Char) :=
  go start (bs.size + 1) []
where
  go (i : Nat) : Nat → List (Option Char) → List (Option Char)
    | 0, acc => acc.reverse
    | fuel + 1, acc =>
      if i ≥ bs.size then acc.reverse
      else if i + 4 > bs.size then (none :: acc).reverse
      else
        let u := unitAt bs order 4 i
        if u > 0x10FFFF then go (i + 4) fuel (none :: acc)
        else if 0xD800 ≤ u && u < 0xE000 then
          go (i + 4) fuel ((if passSurrogates then some (Text.charOfCode u) else none) :: acc)
        else go (i + 4) fuel (some (Char.ofNat u) :: acc)

def startsWith (bs : Array UInt8) (pre : List Nat) : Bool :=
  bs.size ≥ pre.length && (List.range pre.length).all fun k => (bs.getD k 0).toNat == pre.getD k 0

def wideChars (c : Charset) (bs : Array UInt8) (passSurrogates : Bool) : List (Option Char) :=
  match c with
  | .latin1 => singleBytes some bs
  | .ascii => singleBytes (fun b => if b < 128 then some b else none) bs
  | .cp1252 => singleBytes (fun b =>
      if b < 0x80 || b ≥ 0xA0 then some b
      else match cp1252High.getD (b - 0x80) 0 with
        | 0 => none
        | n => some n) bs
  | .utf16 =>
    if startsWith bs [0xFF, 0xFE] then utf16Chars bs .little passSurrogates 2
    else if startsWith bs [0xFE, 0xFF] then utf16Chars bs .big passSurrogates 2
    else utf16Chars bs .little passSurrogates 0
  | .utf16le => utf16Chars bs .little passSurrogates 0
  | .utf16be => utf16Chars bs .big passSurrogates 0
  | .utf32 =>
    if startsWith bs [0xFF, 0xFE, 0, 0] then utf32Chars bs .little passSurrogates 4
    else if startsWith bs [0, 0, 0xFE, 0xFF] then utf32Chars bs .big passSurrogates 4
    else utf32Chars bs .little passSurrogates 0
  | .utf32le => utf32Chars bs .little passSurrogates 0
  | .utf32be => utf32Chars bs .big passSurrogates 0
  | .utf8 | .utf8Sig => []

def dropUtf8Mark (bs : Array UInt8) : Array UInt8 :=
  if startsWith bs [0xEF, 0xBB, 0xBF] then bs.extract 3 bs.size else bs

/-- Read bytes, each stretch that cannot be read becoming a replacement character. -/
def decodeLossy (c : Charset) (bs : Array UInt8) : String :=
  match c with
  | .utf8 => Utf8.decodeLossy bs
  | .utf8Sig => Utf8.decodeLossy (dropUtf8Mark bs)
  | _ => String.ofList ((c.wideChars bs false).map (·.getD '�'))

def utf8PassingSurrogates (bs : Array UInt8) : Option String :=
  go 0 (bs.size + 1) []
where
  go (i : Nat) : Nat → List Char → Option String
    | 0, acc => some (String.ofList acc.reverse)
    | fuel + 1, acc =>
      if i ≥ bs.size then some (String.ofList acc.reverse)
      else
        let b := Utf8.byteAt bs i
        let b2 := Utf8.byteAt bs (i + 1)
        let b3 := Utf8.byteAt bs (i + 2)
        if b == 0xED && 0xA0 ≤ b2 && b2 < 0xC0 && i + 3 ≤ bs.size && Utf8.isCont b3 then
          go (i + 3) fuel (Text.charOfCode (0xD000 + (b2 - 0x80) * 64 + (b3 - 0x80)) :: acc)
        else match Utf8.step bs i with
          | .ok (n, k) => go (i + max k 1) fuel (Char.ofNat n :: acc)
          | .error _ => none

def decodePassingSurrogates (c : Charset) (bs : Array UInt8) : Option String :=
  match c with
  | .utf8 => utf8PassingSurrogates bs
  | .utf8Sig => utf8PassingSurrogates (dropUtf8Mark bs)
  | _ => (c.wideChars bs true).mapM id |>.map String.ofList

/-- The set a JSON body is in, told from its first bytes: a byte order mark, or
the pattern of zero bytes an ASCII character leaves in UTF-16 and UTF-32. -/
def ofJsonBytes (bs : Array UInt8) : Charset :=
  let b (i : Nat) : Nat := (bs.getD i 0).toNat
  if startsWith bs [0, 0, 0xFE, 0xFF] || startsWith bs [0xFF, 0xFE, 0, 0] then .utf32
  else if startsWith bs [0xFE, 0xFF] || startsWith bs [0xFF, 0xFE] then .utf16
  else if startsWith bs [0xEF, 0xBB, 0xBF] then .utf8Sig
  else if bs.size ≥ 4 then
    if b 0 == 0 then (if b 1 != 0 then .utf16be else .utf32be)
    else if b 1 == 0 then (if b 2 != 0 || b 3 != 0 then .utf16le else .utf32le)
    else .utf8
  else if bs.size == 2 then
    if b 0 == 0 then .utf16be
    else if b 1 == 0 then .utf16le
    else .utf8
  else .utf8

end Charset
end SpireEnroll
