import SpireEnroll.Decimal.Shortest

/-!
# Durations

A duration is a whole number of microseconds. One made from a float number of
seconds keeps the whole seconds exactly, takes the fraction times a million as a
float, and rounds what is left below a microsecond to the nearest microsecond,
a half going to the even total. A duration spans at most 999 999 999 days either
way; past that, and for counts of days that do not even fit 32 bits, it has no
value, and neither has NaN or an infinity.
-/

/-!
## Exact values of floats

Every finite float is a dyadic rational. These functions read that value off the
bits, without rounding: as a rational, and truncated toward zero as an integer.
NaN and the infinities have no such value.
-/

namespace SpireEnroll
namespace Decimal

def Binary.toRat (x : Binary) : Rat :=
  if 0 ≤ x.q then ((x.m * Nat.pow 2 x.q.toNat : Nat) : Rat)
  else mkRat x.m (Nat.pow 2 (-x.q).toNat)

def Binary.trunc (x : Binary) : Nat :=
  if 0 ≤ x.q then x.m * Nat.pow 2 x.q.toNat else x.m / Nat.pow 2 (-x.q).toNat

def signBit (x : Float) : Bool :=
  x.toBits >>> 63 == 1

def exactValue? (x : Float) : Option Rat :=
  if x.isNaN || x.isInf then none
  else
    let r := (Binary.ofBits x.toBits).toRat
    some (if signBit x then -r else r)

def truncate? (x : Float) : Option Int :=
  if x.isNaN || x.isInf then none
  else
    let n : Int := (Binary.ofBits x.toBits).trunc
    some (if signBit x then -n else n)

end Decimal

/-- A whole number of microseconds. -/
structure Duration where
  micros : Int
deriving DecidableEq, Repr, Inhabited

/-- Why a float number of seconds makes no duration. -/
inductive DurationError where
  | nan
  | infinite
  /-- The count of days does not fit 32 bits. -/
  | daysUnrepresentable
  /-- The count of days is representable but beyond the limit. -/
  | daysOutOfRange (days : Int)
deriving DecidableEq, Repr

namespace DurationError

/-- The kind of failure, as the error's class. -/
def kind : DurationError → String
  | .nan => "ValueError"
  | _ => "OverflowError"

/-- The text of the failure. -/
def message : DurationError → String
  | .nan => "cannot convert float NaN to integer"
  | .infinite => "cannot convert float infinity to integer"
  | .daysUnrepresentable => "Python int too large to convert to C int"
  | .daysOutOfRange d => s!"days={d}; must have magnitude <= 999999999"

end DurationError

namespace Duration

def microsPerDay : Int := 86400000000

def maxDays : Int := 999999999

def ofMicros (us : Int) : Except DurationError Duration :=
  let days := us / microsPerDay
  if days < -2147483648 ∨ 2147483647 < days then .error .daysUnrepresentable
  else if days < -maxDays ∨ maxDays < days then .error (.daysOutOfRange days)
  else .ok ⟨us⟩

def roundLeftover (us : Int) (left : Float) : Int :=
  if left == 0.5 then (if us % 2 == 1 then us + 1 else us)
  else if left == -0.5 then (if us % 2 == 1 then us - 1 else us)
  else if left > 0.5 then us + 1
  else if left < -0.5 then us - 1
  else us

/-- The duration of a float number of seconds. -/
def ofSeconds (x : Float) : Except DurationError Duration :=
  if x.isNaN then .error .nan
  else if x.isInf then .error .infinite
  else
    let whole := (Decimal.truncate? x).getD 0
    let frac := x - Float.ofInt whole
    let base := whole * 1000000
    if frac == 0.0 then ofMicros base
    else
      let scaled := 1000000.0 * frac
      let wholeMicros := (Decimal.truncate? scaled).getD 0
      let left := scaled - Float.ofInt wholeMicros
      ofMicros (roundLeftover (base + wholeMicros) left)

/-- The duration in seconds, as the float nearest to it. -/
def totalSeconds (d : Duration) : Float :=
  let x := Float.ofScientific d.micros.natAbs true 6
  if d.micros < 0 then -x else x

/-- The duration in seconds, exactly. -/
def seconds (d : Duration) : Rat :=
  mkRat d.micros 1000000

def ofWholeSeconds (n : Nat) : Duration :=
  ⟨(n : Int) * 1000000⟩

end Duration
end SpireEnroll
