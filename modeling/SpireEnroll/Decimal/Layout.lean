import SpireEnroll.Decimal.Shortest

/-!
# Laying out a decimal

A selected decimal is written either positionally (`1500.0`, `0.0001`) or with an
exponent (`1.5e+16`). Which of the two, and the small marks around the digits, are
the decisions of a number format, gathered in one record `Layout`. The writer adds
the sign and the special values in front of the layout.
-/

namespace SpireEnroll
namespace Decimal

/-- The decisions of a float format. -/
structure Layout where
  /-- Leading-digit exponents `e` with `plainFrom ≤ e < plainBelow` are positional. -/
  plainFrom : Int
  plainBelow : Int
  /-- An integral positional value keeps a point and a zero (`12.0`). -/
  pointZero : Bool
  /-- The letter before an exponent. -/
  expMark : Char
  /-- A non-negative exponent carries a plus sign (`e+16`). -/
  expPlus : Bool
  /-- The least number of exponent digits (`e-05`). -/
  expWidth : Nat
  /-- Texts of the special values. -/
  nan : String
  inf : String

def digitsOf (n : Nat) : List Char :=
  Nat.toDigits 10 n

def padZeros (w : Nat) (cs : List Char) : List Char :=
  List.replicate (w - cs.length) '0' ++ cs

def Layout.write (f : Layout) (d : Dec) : String :=
  let ds := digitsOf d.digits
  let n : Int := ds.length
  -- exponent of the leading digit
  let lead := d.exp + n - 1
  if f.plainFrom ≤ lead ∧ lead < f.plainBelow then
    let point := lead + 1
    if point ≤ 0 then
      String.ofList (['0', '.'] ++ List.replicate (-point).toNat '0' ++ ds)
    else if point < n then
      String.ofList (ds.take point.toNat ++ ['.'] ++ ds.drop point.toNat)
    else
      String.ofList (ds ++ List.replicate (point - n).toNat '0') ++
        (if f.pointZero then ".0" else "")
  else
    let mant := match ds with
      | [] => ['0']
      | [c] => [c]
      | c :: rest => c :: '.' :: rest
    let sign := if lead < 0 then ['-'] else if f.expPlus then ['+'] else []
    String.ofList (mant ++ [f.expMark] ++ sign ++ padZeros f.expWidth (digitsOf lead.natAbs))

def Layout.render (f : Layout) (x : Float) : String :=
  if x.isNaN then f.nan
  else
    let bits := x.toBits
    let neg := bits >>> 63 == 1
    let sign := if neg then "-" else ""
    if x.isInf then sign ++ f.inf
    else
      let b := Binary.ofBits bits
      if b.m == 0 then sign ++ (if f.pointZero then "0.0" else "0")
      else sign ++ f.write b.shortest

end Decimal
end SpireEnroll
