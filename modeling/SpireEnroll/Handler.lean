import SpireEnroll.Settings
import SpireEnroll.Error
import SpireEnroll.Deadline

/-!
# Handlers

The operator answers five events on a managed ServiceAccount (its creation, an
update, finding it at start-up, its deletion, and a periodic resync) with one
handler each. Every handler runs one reconcile of the account, under a fresh
deadline of the reconcile timeout, and records how it went under its own
operation name.

While the reconcile runs, a gauge counts it as in progress. A reconcile that
returns is counted as a success and its duration is recorded. One that fails is
counted as an error, a warning event with the failure's summary is posted, and
the handler asks to be run again later: its text names the failure, and it asks
for the configured retry delay.

The handlers' meters and events (`Telemetry`) are kept apart from the world the
reconcile runs in, which the reconcile alone changes. The gauge moves by whole
steps from zero, so its float value is always a whole number and is kept as one.
-/

namespace SpireEnroll

/-- A request to run the handler again after `delay` seconds. -/
structure RetryLater where
  message : String
  delay : Float

def RetryLater.ofFailure (s : Settings) (kind message : String) : RetryLater :=
  ⟨"Reconcile failed: " ++ shortError kind message eventLimit, s.retryDelay.totalSeconds⟩

/-- A warning event: its reason and its message. -/
structure Warning where
  reason : String
  message : String
deriving DecidableEq, Repr

def reconcileFailedReason : String := "SpireReconcileFailed"

/-- The handlers' meters and the events they posted: the gauge of reconciles in
progress, each reconcile counted under its operation and outcome, each duration
recorded under its operation, and the warnings, all in the order they came. -/
structure Telemetry where
  inProgress : Int := 0
  totals : List (String × String) := []
  durations : List (String × Rat) := []
  warnings : List Warning := []

namespace Telemetry

def enter (m : Telemetry) : Telemetry :=
  { m with inProgress := m.inProgress + 1 }

def leave (m : Telemetry) : Telemetry :=
  { m with inProgress := m.inProgress - 1 }

/-- Count a reconcile of an operation with its outcome. -/
def count (op outcome : String) (m : Telemetry) : Telemetry :=
  { m with totals := m.totals ++ [(op, outcome)] }

def observe (op : String) (x : Rat) (m : Telemetry) : Telemetry :=
  { m with durations := m.durations ++ [(op, x)] }

def warn (e : Warning) (m : Telemetry) : Telemetry :=
  { m with warnings := m.warnings ++ [e] }

/-- How many reconciles of an operation were counted with an outcome. -/
def total (m : Telemetry) (op outcome : String) : Nat :=
  m.totals.count (op, outcome)

end Telemetry

/-- The events a handler answers, one handler each. -/
inductive Trigger where
  | create
  | update
  | resume
  | delete
  | resync
deriving DecidableEq, Repr

namespace Trigger

def all : List Trigger :=
  [.create, .update, .resume, .delete, .resync]

/-- The operation a trigger's handler records its reconciles under. -/
def operation : Trigger → String
  | .create => "create"
  | .update => "update"
  | .resume => "resume"
  | .delete => "delete"
  | .resync => "resync"

end Trigger

section

variable {W α : Type}

/-- Run one reconcile of the account at `ns/name` for the handler of operation
`op`, and record how it went. The reconcile is given a fresh deadline of the
reconcile timeout, set when the handler starts; `clock` reads the world's clock.
The gauge is lowered once the reconcile is over: on a failure only after the
error is counted and the warning posted. -/
def reconcileAccount (s : Settings) (clock : W → Rat)
    (reconcile : String → String → Deadline → W → Except OperatorError α × W)
    (op ns name : String) (w : W) (m : Telemetry) : Except RetryLater Unit × W × Telemetry :=
  let deadline := Deadline.start (some s.reconcileTimeout.seconds) (clock w)
  let start := clock w
  let m := m.enter
  match reconcile ns name deadline w with
  | (.ok _, w) => (.ok (), w, (m.leave.count op "success").observe op (clock w - start))
  | (.error e, w) =>
    (.error (RetryLater.ofFailure s e.kind.name e.message), w,
      ((m.count op "error").warn ⟨reconcileFailedReason, e.short eventLimit⟩).leave)

/-- The handler of a trigger: a reconcile recorded under the trigger's operation. -/
def Trigger.handle (t : Trigger) (s : Settings) (clock : W → Rat)
    (reconcile : String → String → Deadline → W → Except OperatorError α × W)
    (ns name : String) (w : W) (m : Telemetry) : Except RetryLater Unit × W × Telemetry :=
  reconcileAccount s clock reconcile t.operation ns name w m

end

end SpireEnroll
