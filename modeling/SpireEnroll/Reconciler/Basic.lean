import SpireEnroll.Reconciler.Lookup
import SpireEnroll.Lifecycle

/-!
# Reconciling a ServiceAccount

A reconcile reads a ServiceAccount as it is now, finds its lifecycle state, and
takes the one step that moves it on:

* unmanaged: nothing;
* being deleted: delete its entry at the registry, then release the operator's
  finalizer if the account carries it; the outcome is `finalized`;
* registered: add the finalizer if it is missing;
* otherwise: create an entry (with the admin credential, or without one when the
  credential cannot be had, which is counted), record its id on the account, and
  add the finalizer if it is missing.

The reconcile is written against its collaborators (`Collaborators`): the store
of accounts, the cluster context, the admin credential, the registry, a counter,
and the deadline and clock it runs against. Each collaborator is any computation
in the world, so the same reconcile runs against the cluster's API
(`Reconciler.collaborators`) or against anything else.

Every call is guarded by the deadline, with one exception: the write that
records a new entry's id uses the request timeout alone, so that an entry once
created is recorded even when the deadline has run out or was cancelled. A
missing account gives no state; any failure stops the reconcile.
-/

namespace SpireEnroll

/-- What a reconcile calls on: the store of accounts, the cluster context, the
admin credential, the registry and the fallback counter, each a computation in
the world, and the deadline and clock it reads. -/
structure Collaborators (W : Type) where
  /-- Read an account, none when it does not exist. -/
  get : String → String → Option Rat → Run W (Option Identity)
  /-- Write an account's annotations and finalizers back; the stored account. -/
  update : Identity → Option Rat → Run W Identity
  clusterContext : Option Rat → Run W ClusterContext
  adminCredential : Option Rat → Run W String
  createEntry : RegistrationRequest → Option Rat → Run W String
  revokeEntry : RegistrationRequest → Option Rat → Run W Unit
  /-- Count a registration that goes ahead without the credential. -/
  countFallback : W → W
  deadline : W → Deadline
  clock : W → Rat
  /-- Time passing before the clock is read, keeping the deadline and never
  taking the clock back. -/
  elapse : W → W := fun w => w
  deadline_elapse : ∀ w, deadline (elapse w) = deadline w := by intro; rfl
  clock_le_elapse : ∀ w, clock w ≤ clock (elapse w) := by intro; exact Rat.le_refl

namespace Collaborators

variable {W : Type} (c : Collaborators W) (s : Settings)

/-- Read the clock, after time has passed. -/
def reading : Run W Rat := do
  Run.change c.elapse
  Run.read c.clock

/-- The timeout of a guarded call. The deadline is checked at one reading of the
clock, failing when it is cancelled or spent, and the request timeout is cut
down to what is left at a second reading, which may come later. -/
def guardedTimeout : Run W (Option Rat) := do
  let d ← Run.read c.deadline
  let checkedAt ← c.reading
  Run.ofExcept (d.check checkedAt)
  let now ← c.reading
  pure (d.grant now (some s.requestTimeout.seconds))

/-- Delete the entry of an account being deleted and release it. -/
def revoke (o : Identity) : Run W Lifecycle := do
  let ctx ← c.clusterContext (← c.guardedTimeout s)
  c.revokeEntry (RegistrationRequest.build ctx o "") (← c.guardedTimeout s)
  if o.hasFinalizer s.finalizer then
    let _ ← c.update (o.removeFinalizer s.finalizer) (← c.guardedTimeout s)
  return .finalized

/-- Make sure a registered account carries the finalizer. -/
def ensureFinalizer (o : Identity) : Run W Lifecycle := do
  if !o.hasFinalizer s.finalizer then
    let _ ← c.update (o.addFinalizer s.finalizer) (← c.guardedTimeout s)
  return .registered

/-- The admin credential, or the empty text when it cannot be had. -/
def credentialOrNone : Run W String :=
  tryCatch (do c.adminCredential (← c.guardedTimeout s)) fun e =>
    if e.kind == .credentialLookup then do
      Run.change c.countFallback
      pure ""
    else throw e

/-- Register an account: create its entry and record it. Once the id is
recorded, the account is finished off as a registered one is. -/
def register (o : Identity) : Run W Lifecycle := do
  let ctx ← c.clusterContext (← c.guardedTimeout s)
  let credential ← c.credentialOrNone s
  let id ← c.createEntry (RegistrationRequest.build ctx o credential) (← c.guardedTimeout s)
  let o ← c.update ( o.setAnnotation s.entryIdAnnotation (.str id)) (some s.requestTimeout.seconds)
  c.ensureFinalizer s o

/-- Reconcile the account at `ns/name`: the state it was left in, or none when it
does not exist. -/
def reconcile (ns name : String) : Run W (Option Lifecycle) := do
  let some o ← c.get ns name (← c.guardedTimeout s) | return none
  match o.lifecycle s with
  | .unmanaged => return some .unmanaged
  | .pendingRevocation => return some (← c.revoke s o)
  | .registered => return some (← c.ensureFinalizer s o)
  | .pendingRegistration | .finalized => return some (← c.register s o)

end Collaborators

namespace Reconciler

variable {W : Type} (r : Reconciler W)

def fallbackCounter : String := "credential_fallback"

/-- The collaborators of a reconciler: its calls into the cluster's API and the
registry. -/
def collaborators : Collaborators W where
  get := r.getAccount
  update := r.updateAccount
  clusterContext := r.clusterContext
  adminCredential := r.adminCredential
  createEntry := r.createEntry
  revokeEntry := r.revokeEntry
  countFallback := r.outside.count fallbackCounter
  deadline := r.outside.deadline
  clock := r.outside.clock
  elapse := r.outside.elapse
  deadline_elapse := r.outside.deadline_elapse
  clock_le_elapse := r.outside.clock_le_elapse

/-- Reconcile the account at `ns/name` against the cluster. -/
def reconcile (ns name : String) : Run W (Option Lifecycle) :=
  r.collaborators.reconcile r.settings ns name

end Reconciler
end SpireEnroll
