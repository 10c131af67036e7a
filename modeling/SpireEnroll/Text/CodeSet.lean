/-!
# Tables of code points

A property of characters taken from the Unicode tables is kept as runs: sorted,
disjoint, inclusive ranges of code points, each with the property's value there.
A code point outside every run has none.

A table is written as text, one run per word, words separated by spaces: `lo-hi`
or `lo` for a single code point, both in hexadecimal, then the value's fields,
each after a `:`. A set writes no fields.

Looking a code point up is a binary search for the last run that starts at or
before it; the run holds the code point when it ends at or after it.
-/

namespace SpireEnroll

/-- A run of code points `lo ≤ c ≤ hi` that share a value. -/
structure CodeRun (α : Type) where
  lo : Nat
  hi : Nat
  value : α
deriving Repr, Inhabited

/-- A table of code points: runs in increasing order, none overlapping. -/
structure CodeMap (α : Type) where
  runs : Array (CodeRun α)
deriving Inhabited

abbrev CodeSet := CodeMap Unit

namespace CodeMap

variable {α : Type}

def lastStart (runs : Array (CodeRun α)) (c lo hi : Nat) : Nat :=
  if lo + 1 < hi then
    let mid := (lo + hi) / 2
    if ((runs[mid]?).map (·.lo)).getD 0 ≤ c then lastStart runs c mid hi
    else lastStart runs c lo mid
  else lo
termination_by hi - lo
decreasing_by all_goals omega

def run? (m : CodeMap α) (c : Nat) : Option (CodeRun α) :=
  match m.runs[lastStart m.runs c 0 m.runs.size]? with
  | some r => if r.lo ≤ c && c ≤ r.hi then some r else none
  | none => none

def find? (m : CodeMap α) (c : Nat) : Option α :=
  (m.run? c).map (·.value)

def contains (m : CodeMap α) (c : Nat) : Bool :=
  (m.run? c).isSome

def hexDigit? (c : Char) : Option Nat :=
  if '0' ≤ c && c ≤ '9' then some (c.toNat - '0'.toNat)
  else if 'a' ≤ c && c ≤ 'f' then some (c.toNat - 'a'.toNat + 10)
  else if 'A' ≤ c && c ≤ 'F' then some (c.toNat - 'A'.toNat + 10)
  else none

def readHex? (s : String) : Option Nat :=
  if s.isEmpty then none
  else s.toList.foldl (fun acc c => do let n ← acc; let d ← hexDigit? c; pure (16 * n + d)) (some 0)

def readRun? (value : List String → Option α) (word : String) : Option (CodeRun α) :=
  match word.splitOn ":" with
  | range :: fields => do
    let v ← value fields
    match range.splitOn "-" with
    | [lo] => let lo ← readHex? lo; pure ⟨lo, lo, v⟩
    | [lo, hi] => do let lo ← readHex? lo; let hi ← readHex? hi; pure ⟨lo, hi, v⟩
    | _ => none
  | [] => none

def ofLines (value : List String → Option α) (lines : List String) : CodeMap α :=
  ⟨(lines.flatMap fun l => (l.splitOn " ").filterMap (readRun? value)).toArray⟩

end CodeMap

namespace CodeSet

def ofLines (lines : List String) : CodeSet :=
  CodeMap.ofLines (fun _ => some ()) lines

end CodeSet

end SpireEnroll
