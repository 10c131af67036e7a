import SpireEnroll.Cluster.Objects
import SpireEnroll.Registry.Client
import SpireEnroll.Deadline

/-!
# What a reconcile asks of the world

A reconcile runs in some world `W` it cannot see into: it reads and writes
ServiceAccounts, reads a ConfigMap and a Secret, posts to the registry, counts
events and records durations, and it reads its deadline and the clock, which
time passing moves on. Each call is a total function of the world, giving
the world after the call and the call's answer, so the same reconcile can be run
against a live cluster or a model of one, and reasoned about in either.

A reconcile is a computation in the state of its world that may fail with an
operator error (`Run`).
-/

namespace SpireEnroll

/-- The calls a reconcile makes into its world, and what it reads of it. -/
structure Outside (W : Type) where
  /-- Read a ServiceAccount, with a timeout. -/
  readAccount : String → String → Option Rat → W → W × Except ClusterFailure AccountRecord
  /-- Replace a ServiceAccount by a body; the stored account after the write. -/
  replaceAccount : AccountRecord → Option Rat → W → W × Except ClusterFailure AccountRecord
  /-- Read a ConfigMap. -/
  readConfigMap : String → String → Option Rat → W → W × Except ClusterFailure ConfigMapRecord
  /-- Read a Secret. -/
  readSecret : String → String → Option Rat → W → W × Except ClusterFailure SecretRecord
  /-- Post to the registry for an operation; what the transport did with it. -/
  deliver : RegistryOp → Post Rat → W → W × Delivery
  /-- The deadline of the running reconcile, as it stands. -/
  deadline : W → Deadline
  /-- The clock, in seconds. -/
  clock : W → Rat
  /-- Time passing before the clock is read: the world may move on, but the
  deadline stays as it stands and the clock never goes back. -/
  elapse : W → W := fun w => w
  deadline_elapse : ∀ w, deadline (elapse w) = deadline w := by intro; rfl
  clock_le_elapse : ∀ w, clock w ≤ clock (elapse w) := by intro; exact Rat.le_refl
  /-- Count one event under a name. -/
  count : String → W → W
  /-- Record one observation of a duration, in seconds, under a name. -/
  observe : String → Rat → W → W

/-- A computation in the state of a world `W` that may fail with an operator
error. -/
abbrev Run (W : Type) := ExceptT OperatorError (StateM W)

namespace Run

variable {W α : Type}

/-- Make a call into the world. -/
def call (f : W → W × α) : Run W α :=
  ExceptT.lift (modifyGet fun w => let (w', a) := f w; (a, w'))

/-- Change the world. -/
def change (f : W → W) : Run W Unit :=
  ExceptT.lift (modify f)

def read (f : W → α) : Run W α :=
  ExceptT.lift (do pure (f (← get)))

def ofExcept (r : Except OperatorError α) : Run W α :=
  ExceptT.mk (pure r)

def attempt (m : Run W α) : Run W (Except OperatorError α) :=
  ExceptT.lift m.run

/-- Run a computation from a world: its result and the world after it. -/
def exec (m : Run W α) (w : W) : Except OperatorError α × W :=
  (m.run.run w)

end Run

def ClusterFailure.foreign (kind message : String) : OperatorError :=
  .other (.foreign kind) message

end SpireEnroll
