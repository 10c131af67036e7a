/-!
# Punycode

The bootstring encoding of a label's code points into the letters, digits and
hyphen of ASCII (RFC 3492), by which a host name label outside ASCII travels.

The ASCII code points of the label are written first, in order, and followed by
a hyphen when there are any. Then each other code point, in increasing order of
value and, for equal values, of position, is written as the distance from the
previous insertion, counting the positions it passes over, as a number of
variable length in base 36. A digit below the threshold of its place ends a
number; thresholds follow a bias that adapts to the distances written so far.

Decoding reads the part after the last hyphen as such numbers and inserts the
code points back; it fails on a character that is not a digit, on a number cut
short, and on a code point beyond the last one of Unicode.
-/

namespace SpireEnroll
namespace Hostname
namespace Punycode

def digitChar (d : Nat) : Char :=
  if d < 26 then Char.ofNat (0x61 + d) else Char.ofNat (0x30 + d - 26)

def digitValue? (c : Char) : Option Nat :=
  if 'A' ≤ c && c ≤ 'Z' then some (c.toNat - 'A'.toNat)
  else if 'a' ≤ c && c ≤ 'z' then some (c.toNat - 'a'.toNat)
  else if '0' ≤ c && c ≤ '9' then some (c.toNat - '0'.toNat + 26)
  else none

def threshold (k bias : Nat) : Nat :=
  if k ≤ bias then 1 else if bias + 26 ≤ k then 26 else k - bias

theorem threshold_pos (k bias : Nat) : 1 ≤ threshold k bias := by
  unfold threshold
  split
  · omega
  · split <;> omega

theorem threshold_le (k bias : Nat) : threshold k bias ≤ 26 := by
  unfold threshold
  split
  · omega
  · split <;> omega

def settle (delta k : Nat) : Nat :=
  if 455 < delta then settle (delta / 35) (k + 36) else k + 36 * delta / (delta + 38)
termination_by delta
decreasing_by omega

def adapt (delta points : Nat) (first : Bool) : Nat :=
  let d := if first then delta / 700 else delta / 2
  settle (d + d / points) 0

def encodeNumber (bias k q : Nat) : List Char :=
  let t := threshold k bias
  if q < t then [digitChar q]
  else digitChar (t + (q - t) % (36 - t)) :: encodeNumber bias (k + 36) ((q - t) / (36 - t))
termination_by q
decreasing_by
  have h1 := threshold_pos k bias
  have h2 := threshold_le k bias
  have h3 : (q - threshold k bias) / (36 - threshold k bias) ≤ q - threshold k bias :=
    Nat.div_le_self _ _
  omega

/-- The state of encoding: digits written, distance so far, bias, and how many
code points are placed. -/
structure Encoding where
  out : List Char
  delta : Nat
  bias : Nat
  placed : Nat

def Encoding.pass (basic m : Nat) (e : Encoding) (c : Nat) : Encoding :=
  if c < m then { e with delta := e.delta + 1 }
  else if c == m then
    { out := e.out ++ encodeNumber e.bias 36 e.delta, delta := 0,
      bias := adapt e.delta (e.placed + 1) (e.placed == basic), placed := e.placed + 1 }
  else e

/-- Place the values of `ms` (increasing) in turn, `n` the value after the last
one placed. -/
def encodeValues (input : List Nat) (basic : Nat) : List Nat → Nat → Encoding → Encoding
  | [], _, e => e
  | m :: ms, n, e =>
    let e := { e with delta := e.delta + (m - n) * (e.placed + 1) }
    let e := input.foldl (Encoding.pass basic m) e
    encodeValues input basic ms (m + 1) { e with delta := e.delta + 1 }

def insertValue (x : Nat) : List Nat → List Nat
  | [] => [x]
  | y :: ys => if x < y then x :: y :: ys else if x == y then y :: ys else y :: insertValue x ys

def distinctValues (xs : List Nat) : List Nat :=
  xs.foldr insertValue []

/-- The encoding of a label's code points. -/
def encode (input : List Nat) : String :=
  let basic := (input.filter (· < 0x80)).map Char.ofNat
  let values := distinctValues (input.filter (0x80 ≤ ·))
  let e := encodeValues input basic.length values 0x80
    { out := [], delta := 0, bias := 72, placed := basic.length }
  String.ofList (basic ++ (if basic.isEmpty then [] else ['-']) ++ e.out)

def readNumber (bias : Nat) :
    (cs : List Char) → (k w acc : Nat) → Option { r : Nat × List Char // r.2.length < cs.length }
  | [], _, _, _ => none
  | c :: rest, k, w, acc =>
    match digitValue? c with
    | none => none
    | some d =>
      let t := threshold k bias
      if d < t then some ⟨(acc + d * w, rest), by simp⟩
      else
        match readNumber bias rest (k + 36) (w * (36 - t)) (acc + d * w) with
        | some ⟨r, h⟩ => some ⟨r, by simp; omega⟩
        | none => none

/-- Insert the code points the numbers of `cs` stand for into `out`, `n` the last
value inserted and `i` the position after it. -/
def decodeFrom (cs : List Char) (out : List Nat) (n i bias : Nat) (first : Bool) :
    Option (List Nat) :=
  if cs.isEmpty then some out
  else
    match readNumber bias cs 36 1 0 with
    | none => none
    | some ⟨(delta, rest), hr⟩ =>
      let len := out.length + 1
      let i := i + delta
      let n := n + i / len
      let i := i % len
      if 0x10FFFF < n then none
      else decodeFrom rest (out.take i ++ n :: out.drop i) n (i + 1) (adapt delta len first) false
termination_by cs.length
decreasing_by exact hr

/-- The code points a label's ASCII encoding stands for. -/
def decode? (cs : List Char) : Option (List Nat) :=
  let (basic, digits) :=
    match cs.reverse.findIdx? (· == '-') with
    | some j => (cs.take (cs.length - j - 1), cs.drop (cs.length - j))
    | none => ([], cs)
  decodeFrom digits (basic.map Char.toNat) 0x80 0 72 true

end Punycode
end Hostname
end SpireEnroll
