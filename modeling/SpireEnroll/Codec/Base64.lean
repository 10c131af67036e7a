/-!
# Base64

The standard base64 alphabet (`A`–`Z`, `a`–`z`, `0`–`9`, `+`, `/`) writes every three
bytes as four characters; a final group of one or two bytes is written as two or
three characters and padded with `=` to four.

Reading is strict: the text must consist of whole groups of four alphabet
characters, the last of which may instead be two or three alphabet characters
padded with `=` to four, or be followed by a run of `=` that reads as nothing.
Nothing else is allowed: no blanks, no other characters, no padding that opens the
text or stands elsewhere. The bits of a padded group that no byte uses are ignored,
so a text need not be the canonical writing of what it reads as.
-/

namespace SpireEnroll
namespace Base64

def sextetChar (n : Nat) : Char :=
  if n < 26 then Char.ofNat ('A'.toNat + n)
  else if n < 52 then Char.ofNat ('a'.toNat + (n - 26))
  else if n < 62 then Char.ofNat ('0'.toNat + (n - 52))
  else if n = 62 then '+'
  else '/'

def sextetValue? (c : Char) : Option Nat :=
  if 'A' ≤ c ∧ c ≤ 'Z' then some (c.toNat - 'A'.toNat)
  else if 'a' ≤ c ∧ c ≤ 'z' then some (c.toNat - 'a'.toNat + 26)
  else if '0' ≤ c ∧ c ≤ '9' then some (c.toNat - '0'.toNat + 52)
  else if c = '+' then some 62
  else if c = '/' then some 63
  else none

def encodeChars : List UInt8 → List Char
  | a :: b :: c :: rest =>
    let n := a.toNat * 65536 + b.toNat * 256 + c.toNat
    sextetChar (n / 262144) :: sextetChar (n / 4096 % 64) :: sextetChar (n / 64 % 64) ::
      sextetChar (n % 64) :: encodeChars rest
  | [a, b] =>
    let n := a.toNat * 65536 + b.toNat * 256
    [sextetChar (n / 262144), sextetChar (n / 4096 % 64), sextetChar (n / 64 % 64), '=']
  | [a] =>
    let n := a.toNat * 65536
    [sextetChar (n / 262144), sextetChar (n / 4096 % 64), '=', '=']
  | [] => []

/-- The base64 text of a byte list. -/
def encode (bytes : List UInt8) : String :=
  String.ofList (encodeChars bytes)

def decodeChars : List Char → Option (List UInt8)
  | [] => some []
  | '=' :: rest => if rest.all (· == '=') then some [] else none
  | [a, b, '=', '='] => do
    let va ← sextetValue? a
    let vb ← sextetValue? b
    pure [(va * 4 + vb / 16).toUInt8]
  | [a, b, c, '='] => do
    let va ← sextetValue? a
    let vb ← sextetValue? b
    let vc ← sextetValue? c
    pure [(va * 4 + vb / 16).toUInt8, ((vb % 16) * 16 + vc / 4).toUInt8]
  | a :: b :: c :: d :: rest => do
    let va ← sextetValue? a
    let vb ← sextetValue? b
    let vc ← sextetValue? c
    let vd ← sextetValue? d
    let tail ← decodeChars rest
    pure ((va * 4 + vb / 16).toUInt8 :: ((vb % 16) * 16 + vc / 4).toUInt8 ::
      ((vc % 4) * 64 + vd).toUInt8 :: tail)
  | _ => none

/-- The bits of a padded last group that no byte takes: the low four bits of the
second character of `ab==`, the low two of the third of `abc=`; none after a whole
group. -/
def spareBits : List Char → Nat
  | [_, b, '=', '='] => (sextetValue? b).getD 0 % 16
  | [_, _, c, '='] => (sextetValue? c).getD 0 % 4
  | _ :: _ :: _ :: _ :: rest => spareBits rest
  | _ => 0

/-- The bytes of a strict base64 text; padding may not open it. -/
def decode? (s : String) : Option (List UInt8) :=
  match s.toList with
  | '=' :: _ => none
  | cs => decodeChars cs

end Base64
end SpireEnroll
