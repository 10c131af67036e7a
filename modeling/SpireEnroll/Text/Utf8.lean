import SpireEnroll.Text.Literal

/-!
# Reading UTF-8

Bytes are read as UTF-8 one sequence at a time. A sequence that cannot be read is
a *fault*, a stretch of bytes with a reason, and the stretch is what a reader
that replaces bad bytes turns into one replacement character before it goes on:

* a byte that cannot start a sequence (`80`–`C1`, `F5`–`FF`) is a stretch of one
  byte, an *invalid start byte*;
* a lead byte followed by a byte that cannot continue it is an *invalid
  continuation byte*, and the stretch is the lead byte with the continuation
  bytes that were good;
* a sequence cut short by the end of the bytes is *unexpected end of data*, and
  the stretch runs to the end.

Overlong forms, surrogates and code points above `10FFFF` are refused at the
second byte: after `E0` it must be at least `A0`, after `ED` below `A0`, after
`F0` at least `90`, after `F4` below `90`.
-/

namespace SpireEnroll
namespace Utf8

/-- A stretch `[start, stop)` of bytes that cannot be read, and why. -/
structure Fault where
  start : Nat
  stop : Nat
  reason : String
deriving Repr, Inhabited

def isCont (b : Nat) : Bool :=
  0x80 ≤ b && b < 0xC0

def secondOk (lead b : Nat) : Bool :=
  isCont b &&
    (if lead == 0xE0 then 0xA0 ≤ b
     else if lead == 0xED then b < 0xA0
     else if lead == 0xF0 then 0x90 ≤ b
     else if lead == 0xF4 then b < 0x90
     else true)

def byteAt (bs : Array UInt8) (i : Nat) : Nat :=
  (bs.getD i 0).toNat

def step (bs : Array UInt8) (i : Nat) : Except Fault (Nat × Nat) :=
  let n := bs.size
  let b := byteAt bs i
  let b2 := byteAt bs (i + 1)
  let b3 := byteAt bs (i + 2)
  let b4 := byteAt bs (i + 3)
  let cont (k : Nat) : Fault := ⟨i, i + k, "invalid continuation byte"⟩
  let cut : Fault := ⟨i, n, "unexpected end of data"⟩
  if b < 0x80 then .ok (b, 1)
  else if b < 0xC2 then .error ⟨i, i + 1, "invalid start byte"⟩
  else if b < 0xE0 then
    if i + 2 > n then .error cut
    else if !isCont b2 then .error (cont 1)
    else .ok ((b % 0x20) * 0x40 + b2 % 0x40, 2)
  else if b < 0xF0 then
    if i + 2 > n then .error cut
    else if !secondOk b b2 then .error (cont 1)
    else if i + 3 > n then .error cut
    else if !isCont b3 then .error (cont 2)
    else .ok ((b % 0x10) * 0x1000 + (b2 % 0x40) * 0x40 + b3 % 0x40, 3)
  else if b < 0xF5 then
    if i + 2 > n then .error cut
    else if !secondOk b b2 then .error (cont 1)
    else if i + 3 > n then .error cut
    else if !isCont b3 then .error (cont 2)
    else if i + 4 > n then .error cut
    else if !isCont b4 then .error (cont 3)
    else .ok ((b % 0x08) * 0x40000 + (b2 % 0x40) * 0x1000 + (b3 % 0x40) * 0x40 + b4 % 0x40, 4)
  else .error ⟨i, i + 1, "invalid start byte"⟩

def decode (bs : Array UInt8) : Except Fault String :=
  go 0 []
where
  go (i : Nat) (acc : List Char) : Except Fault String :=
    if _h : i < bs.size then
      match step bs i with
      | .ok (c, k) => go (i + max k 1) (Char.ofNat c :: acc)
      | .error f => .error f
    else .ok (String.ofList acc.reverse)
  termination_by bs.size - i

def decodeLossy (bs : Array UInt8) : String :=
  go 0 []
where
  go (i : Nat) (acc : List Char) : String :=
    if _h : i < bs.size then
      match step bs i with
      | .ok (c, k) => go (i + max k 1) (Char.ofNat c :: acc)
      | .error f => go (max f.stop (i + 1)) ('�' :: acc)
    else String.ofList acc.reverse
  termination_by bs.size - i

/-- The message for a fault of the named codec, as decoding errors print it. -/
def Fault.message (f : Fault) (codec : String) (bs : Array UInt8) : String :=
  if f.stop == f.start + 1 then
    "'" ++ codec ++ "' codec can't decode byte 0x" ++
      String.ofList (Text.hexDigits 2 (byteAt bs f.start)) ++ " in position " ++
      toString f.start ++ ": " ++ f.reason
  else
    "'" ++ codec ++ "' codec can't decode bytes in position " ++ toString f.start ++ "-" ++
      toString (f.stop - 1) ++ ": " ++ f.reason

end Utf8
end SpireEnroll
