/-!
# Shortest decimals of binary floats

A finite binary64 value stands for every real that rounds to it: the interval from
halfway to its lower neighbour to halfway to its upper neighbour, ends included
exactly when the mantissa is even. The decimal chosen for it is the one with the
fewest significant digits inside that interval; of two such decimals the nearer, and
on an exact tie the one whose last digit is even.

The search tries one, two, … digits. On each grid only the two neighbours of the
value need testing: if any point of the grid lies in the interval, one of them does.
All comparisons are made on naturals, by cross-multiplying, so nothing here rounds.
-/

namespace SpireEnroll
namespace Decimal

/-- A finite non-negative binary64 value `m * 2^q`. -/
structure Binary where
  m : Nat
  q : Int
  /-- The gap to the value below is half the gap to the value above: `m` is the
  smallest normal mantissa and a smaller exponent exists. -/
  narrowBelow : Bool
deriving Repr, DecidableEq

def Binary.ofBits (b : UInt64) : Binary :=
  let e := ((b >>> 52) &&& 0x7FF).toNat
  let f := (b &&& 0xFFFFFFFFFFFFF).toNat
  if e == 0 then ⟨f, -1074, false⟩ else ⟨Nat.pow 2 52 + f, (e : Int) - 1075, f == 0 && e > 1⟩

/-- The decimal `digits * 10^exp`. -/
structure Dec where
  digits : Nat
  exp : Int
deriving Repr, DecidableEq

def cmpScaled (a : Nat) (i : Int) (n : Nat) (j : Int) : Ordering :=
  compare (a * Nat.pow 10 i.toNat * Nat.pow 2 (-j).toNat)
    (n * Nat.pow 2 j.toNat * Nat.pow 10 (-i).toNat)

def Binary.readsBack (x : Binary) (d : Dec) : Bool :=
  let lo := if x.narrowBelow then 4 * x.m - 1 else 4 * x.m - 2
  let hi := 4 * x.m + 2
  let incl := x.m % 2 == 0
  let cl := cmpScaled d.digits d.exp lo (x.q - 2)
  let ch := cmpScaled d.digits d.exp hi (x.q - 2)
  (cl == .gt || (incl && cl == .eq)) && (ch == .lt || (incl && ch == .eq))

def digitCount (n : Nat) : Nat :=
  (Nat.toDigits 10 n).length

def Binary.leadExp (x : Binary) : Int :=
  let num := x.m * Nat.pow 2 x.q.toNat
  let den := Nat.pow 2 (-x.q).toNat
  let k : Int := (digitCount num : Int) - (digitCount den : Int)
  -- `10^k ≤ num / den` decides between `k` and `k - 1`
  if num * Nat.pow 10 (-k).toNat ≥ den * Nat.pow 10 k.toNat then k else k - 1

def Binary.floorOnGrid (x : Binary) (e : Int) : Nat × Bool :=
  let num := x.m * Nat.pow 2 x.q.toNat * Nat.pow 10 (-e).toNat
  let den := Nat.pow 2 (-x.q).toNat * Nat.pow 10 e.toNat
  (num / den, num % den == 0)

def Binary.nearer (x : Binary) (c : Nat) (e : Int) : Nat :=
  -- twice the value against the sum of the two candidates
  match cmpScaled (2 * c + 1) e (2 * x.m) x.q with
  | .lt => c + 1
  | .gt => c
  | .eq => if c % 2 == 0 then c else c + 1

def Binary.onGrid (x : Binary) (e : Int) : Option Dec :=
  let (c, exact) := x.floorOnGrid e
  if exact then some ⟨c, e⟩
  else
    let lo := x.readsBack ⟨c, e⟩
    let hi := x.readsBack ⟨c + 1, e⟩
    if lo && hi then some ⟨x.nearer c e, e⟩
    else if lo then some ⟨c, e⟩
    else if hi then some ⟨c + 1, e⟩
    else none

def Dec.strip (d : Dec) : Dec :=
  go d.digits.log2.succ d
where
  go : Nat → Dec → Dec
    | 0, d => d
    | fuel + 1, d =>
      if d.digits ≠ 0 ∧ d.digits % 10 = 0 then go fuel ⟨d.digits / 10, d.exp + 1⟩ else d

def Binary.shortest (x : Binary) : Dec :=
  let k := x.leadExp
  let found := (List.range 17).findSome? fun (n : Nat) => x.onGrid (k - (n : Int))
  match found with
  | some d => d.strip
  | none => (Dec.strip ⟨x.m * Nat.pow 2 x.q.toNat * Nat.pow 5 (-x.q).toNat,
    if x.q < 0 then x.q else 0⟩)

end Decimal
end SpireEnroll
