import SpireEnroll.Identity
import SpireEnroll.Settings

/-!
# Lifecycle

Where a ServiceAccount stands with respect to the registry, read off its
annotations and deletion marker. It is managed only when the managed annotation is
exactly the text `true`; deletion takes precedence over a recorded entry id; an
entry id counts when it is truthy.
-/

namespace SpireEnroll

/-- The lifecycle states; `finalized` is only ever an outcome. -/
inductive Lifecycle where
  | unmanaged
  | pendingRegistration
  | registered
  | pendingRevocation
  | finalized
deriving DecidableEq, Repr, Inhabited

namespace Lifecycle

/-- The name of a state. -/
def name : Lifecycle → String
  | .unmanaged => "Unmanaged"
  | .pendingRegistration => "PendingRegistration"
  | .registered => "Registered"
  | .pendingRevocation => "PendingRevocation"
  | .finalized => "Finalized"

end Lifecycle

namespace Identity

/-- The object asks to be managed: its managed annotation is the text `true`. -/
def isManaged (s : Settings) (o : Identity) : Bool :=
  match o.annotation? s.managedAnnotation with
  | some (.str v) => v == "true"
  | _ => false

/-- The object records an entry id. -/
def hasEntryId (s : Settings) (o : Identity) : Bool :=
  (o.annotation? s.entryIdAnnotation).any Value.truthy

/-- The state of an object. -/
def lifecycle (s : Settings) (o : Identity) : Lifecycle :=
  if !o.isManaged s then .unmanaged
  else if o.deleting then .pendingRevocation
  else if o.hasEntryId s then .registered
  else .pendingRegistration

variable (s : Settings) (o : Identity)

theorem isManaged_eq_true_iff :
    o.isManaged s = true ↔ o.annotation? s.managedAnnotation = some (.str "true") := by
  unfold isManaged
  split
  · rename_i v h
    simp [h]
  · rename_i h
    simp only [Bool.false_eq_true, false_iff]
    intro h'
    exact h "true" h'

theorem isManaged_eq_false_iff :
    o.isManaged s = false ↔ o.annotation? s.managedAnnotation ≠ some (.str "true") := by
  rw [← Bool.not_eq_true, isManaged_eq_true_iff]

theorem lifecycle_eq_unmanaged_iff : o.lifecycle s = .unmanaged ↔ o.isManaged s = false := by
  unfold lifecycle
  cases o.isManaged s with
  | false => simp
  | true =>
      simp only [Bool.not_true, Bool.false_eq_true, if_false]
      split
      · simp
      · split <;> simp

theorem isManaged_of_ne_unmanaged (h : o.lifecycle s ≠ .unmanaged) : o.isManaged s = true := by
  cases hm : o.isManaged s with
  | false => exact absurd ((lifecycle_eq_unmanaged_iff s o).2 hm) h
  | true => rfl

theorem lifecycle_ne_finalized : o.lifecycle s ≠ .finalized := by
  unfold lifecycle
  split
  · nofun
  · split
    · nofun
    · split <;> nofun

theorem hasEntryId_setAnnotation_self (v : Value) :
    ( o.setAnnotation s.entryIdAnnotation v).hasEntryId s = v.truthy := by
  simp [hasEntryId, annotation?, setAnnotation, Value.lookup_setEntry_self]

theorem lifecycle_eq_pendingRegistration_iff :
    o.lifecycle s = .pendingRegistration ↔
      o.isManaged s = true ∧ o.deleting = false ∧ o.hasEntryId s = false := by
  unfold lifecycle
  cases o.isManaged s <;> cases o.deleting <;> cases o.hasEntryId s <;> simp

theorem hasEntryId_eq_false_of_pendingRegistration (h : o.lifecycle s = .pendingRegistration) :
    o.hasEntryId s = false := by
  unfold lifecycle at h
  split at h
  · cases h
  · split at h
    · cases h
    · split at h
      · cases h
      · simp_all

end Identity
end SpireEnroll
