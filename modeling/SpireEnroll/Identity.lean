import SpireEnroll.Value.Basic

/-!
# Identity objects

The part of a ServiceAccount the operator reads and writes: where it lives, its
annotations, its finalizers, whether it is being deleted, and the version it was
read at. Finalizers form a list that may hold repeats: adding one appends it only
when absent, removing one drops every occurrence. The object's own methods for
these (`pushFinalizer`, `purgeFinalizer`) also tell whether the object changed.
-/

namespace SpireEnroll

namespace Finalizers

def add (f : String) (fs : List String) : List String :=
  if fs.contains f then fs else fs ++ [f]

def remove (f : String) (fs : List String) : List String :=
  fs.filter (· != f)

theorem add_of_contains_eq_false {f : String} {fs : List String} (h : fs.contains f = false) :
    add f fs = fs ++ [f] := by
  unfold add
  rw [h]
  rfl

theorem contains_add (f : String) (fs : List String) : (add f fs).contains f = true := by
  unfold add
  split
  · assumption
  · simp

theorem contains_remove (f : String) (fs : List String) : (remove f fs).contains f = false := by
  simp [remove]

end Finalizers

/-- A ServiceAccount as the operator sees it. -/
structure Identity where
  ns : String
  name : String
  annotations : List (String × Value)
  finalizers : List String
  deleting : Bool
  resourceVersion : Option String
deriving Inhabited

namespace Identity

/-- Where the object lives, `namespace/name`. -/
def key (o : Identity) : String :=
  o.ns ++ "/" ++ o.name

/-- Whether the object carries the finalizer. -/
def hasFinalizer (o : Identity) (f : String) : Bool :=
  o.finalizers.contains f

def addFinalizer (o : Identity) (f : String) : Identity :=
  { o with finalizers := Finalizers.add f o.finalizers }

/-- The object without any occurrence of the finalizer. Removing changes the object
exactly when `hasFinalizer` was true. -/
def removeFinalizer (o : Identity) (f : String) : Identity :=
  { o with finalizers := Finalizers.remove f o.finalizers }

/-- Add the finalizer as the object's own method does: append it unless it is
present, and tell whether the object changed. -/
def pushFinalizer (o : Identity) (f : String) : Bool × Identity :=
  if o.finalizers.contains f then (false, o)
  else (true, { o with finalizers := o.finalizers ++ [f] })

/-- Remove the finalizer as the object's own method does: when it is present, drop
every occurrence and tell that the object changed. -/
def purgeFinalizer (o : Identity) (f : String) : Bool × Identity :=
  if o.finalizers.contains f then (true, { o with finalizers := o.finalizers.filter (· != f) })
  else (false, o)

/-- The value of an annotation. -/
def annotation? (o : Identity) (k : String) : Option Value :=
  o.annotations.lookup k

/-- The object with an annotation set: in place when present, at the end otherwise. -/
def setAnnotation (o : Identity) (k : String) (v : Value) : Identity :=
  { o with annotations := Value.setEntry o.annotations k v }

def removeAnnotation (o : Identity) (k : String) : Identity :=
  { o with annotations := o.annotations.filter (·.1 != k) }

end Identity
end SpireEnroll
