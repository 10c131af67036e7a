import SpireEnroll.Decimal.Layout
import SpireEnroll.Text.Literal

/-!
# Dynamic values

Registry answers, annotation values and decoded documents are dynamic data: null,
booleans, integers, floats, texts, lists, and dictionaries with text keys. A
dictionary keeps its keys in insertion order; writing a key that is present
replaces its value in place.

A value is *truthy* unless it is null, false, zero, or an empty text, list or
dictionary. NaN is truthy: it is not zero.
-/

namespace SpireEnroll

/-- A dynamic value. -/
inductive Value where
  | null
  | bool (b : Bool)
  | int (n : Int)
  | float (x : Float)
  | str (s : String)
  | list (items : List Value)
  | dict (entries : List (String × Value))
deriving Inhabited

namespace Value

/-- Whether a value counts as true in a test. -/
def truthy : Value → Bool
  | .null => false
  | .bool b => b
  | .int n => n != 0
  | .float x => !(x == 0.0)
  | .str s => !s.isEmpty
  | .list xs => !xs.isEmpty
  | .dict es => !es.isEmpty

def get? (v : Value) (key : String) : Option Value :=
  match v with
  | .dict es => es.lookup key
  | _ => none

/-- Set `key` in an entry list: in place when present, at the end otherwise. -/
def setEntry (es : List (String × Value)) (key : String) (v : Value) :
    List (String × Value) :=
  if es.any (·.1 == key) then es.map fun e => if e.1 == key then (key, v) else e
  else es ++ [(key, v)]

theorem lookup_cons_of_ne {k a : String} (b : Value) (es : List (String × Value)) (h : k ≠ a) :
    ((a, b) :: es).lookup k = es.lookup k := by
  rw [List.lookup_cons, beq_false_of_ne h]

theorem lookup_map_replace {k k' : String} (v : Value) (es : List (String × Value))
    (h : k' ≠ k) :
    (es.map fun e => if e.1 == k then (k, v) else e).lookup k' = es.lookup k' := by
  induction es with
  | nil => rfl
  | cons e es ih =>
      obtain ⟨a, b⟩ := e
      by_cases ha : a = k
      · subst ha
        rw [List.map_cons, if_pos (beq_self_eq_true a), lookup_cons_of_ne _ _ h,
          lookup_cons_of_ne _ _ h, ih]
      · rw [List.map_cons, beq_false_of_ne ha, if_neg Bool.false_ne_true]
        by_cases hka : k' = a
        · subst hka
          simp
        · rw [lookup_cons_of_ne _ _ hka, lookup_cons_of_ne _ _ hka, ih]

theorem lookup_append_of_ne {k k' : String} (v : Value) (es : List (String × Value))
    (h : k' ≠ k) : (es ++ [(k, v)]).lookup k' = es.lookup k' := by
  induction es with
  | nil => rw [List.nil_append, lookup_cons_of_ne _ _ h]
  | cons e es ih =>
      obtain ⟨a, b⟩ := e
      by_cases hka : k' = a
      · subst hka
        simp
      · rw [List.cons_append, lookup_cons_of_ne _ _ hka, lookup_cons_of_ne _ _ hka, ih]

theorem lookup_setEntry_self (es : List (String × Value)) (k : String) (v : Value) :
    (setEntry es k v).lookup k = some v := by
  induction es with
  | nil => simp [setEntry]
  | cons e es ih =>
      obtain ⟨a, b⟩ := e
      by_cases ha : a = k
      · subst ha
        simp [setEntry]
      · have hrest : setEntry ((a, b) :: es) k v = (a, b) :: setEntry es k v := by
          unfold setEntry
          by_cases hany : es.any (·.1 == k) = true <;> simp [beq_false_of_ne ha, hany, ha]
        rw [hrest, lookup_cons_of_ne _ _ (Ne.symm ha), ih]

theorem lookup_setEntry_of_ne (es : List (String × Value)) {k k' : String} (v : Value)
    (h : k' ≠ k) : (setEntry es k v).lookup k' = es.lookup k' := by
  unfold setEntry
  split
  · exact lookup_map_replace v es h
  · exact lookup_append_of_ne v es h

def entriesOfPairs (ps : List (String × Value)) : List (String × Value) :=
  ps.foldl (fun es p => setEntry es p.1 p.2) []

def str? : Value → Option String
  | .str s => some s
  | _ => none

def list? : Value → Option (List Value)
  | .list xs => some xs
  | _ => none

def dict? : Value → Option (List (String × Value))
  | .dict es => some es
  | _ => none

def bool? : Value → Option Bool
  | .bool b => some b
  | _ => none

def int? : Value → Option Int
  | .int n => some n
  | _ => none

def float? : Value → Option Float
  | .int n => some (Float.ofInt n)
  | .float x => some x
  | _ => none

def isNull : Value → Bool
  | .null => true
  | _ => false

/-!
## The text of a value

Every value has a *literal*, the text that would read back as it, and a *display*,
the text shown to a person. They differ only on texts: a text displays as itself,
and its literal is quoted. Inside lists and dictionaries items are always written
as literals: `['a', 1, None, True]`, `{'k': 'v'}`.

Floats are written with the fewest digits that read back, positionally for leading
exponents from -4 to 15 and with a signed two-digit exponent otherwise; an
integral float keeps `.0`.
-/

def floatLayout : Decimal.Layout where
  plainFrom := -4
  plainBelow := 16
  pointZero := true
  expMark := 'e'
  expPlus := true
  expWidth := 2
  nan := "nan"
  inf := "inf"

def floatText (x : Float) : String :=
  floatLayout.render x

mutual
/-- The literal of a value. -/
def literal : Value → String
  | .null => "None"
  | .bool b => if b then "True" else "False"
  | .int n => toString n
  | .float x => floatText x
  | .str s => Text.literal s
  | .list xs => "[" ++ ", ".intercalate (literalItems xs) ++ "]"
  | .dict es => "\x7b" ++ ", ".intercalate (literalEntries es) ++ "\x7d"

def literalItems : List Value → List String
  | [] => []
  | v :: vs => literal v :: literalItems vs

def literalEntries : List (String × Value) → List String
  | [] => []
  | (k, v) :: es => (Text.literal k ++ ": " ++ literal v) :: literalEntries es
end

/-- The display of a value: a text shows as itself, anything else as its literal. -/
def display : Value → String
  | .str s => s
  | v => literal v

end Value
end SpireEnroll
