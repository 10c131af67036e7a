import SpireEnroll.Reconciler.Basic
import SpireEnroll.Cluster.Store
import SpireEnroll.Handler

/-!
# A model world

A world in which reconciles run one step after another: a cluster whose objects
keep the store's rules (`Store`), whose API calls can be made to fail on purpose,
and a registry whose answers are scripted.

* Each API call is logged with its method, place and timeout, and takes the next
  fault queued for its method, if any. A fault may cancel the running
  reconcile's deadline, and may refuse the call with a status and reason; a call
  that is not refused works on the store.
* Each post to the registry is logged and takes the next scripted answer, which
  may also cancel the deadline. With none left, or a blank one, the registry
  answers as a working one does: a creation gives entry `entry-n` for the n-th
  such answer, a deletion succeeds.
* Time does not pass between the calls of a step: every reading of the clock
  comes one instant after the step's deadline was set, so a budget that is
  positive is not yet spent, and what is left of it is just under the budget.
-/

namespace SpireEnroll

/-- A fault injected into an API call: it may cancel the deadline, and may refuse
the call with a status and reason. -/
structure Fault where
  cancel : Bool := false
  refusal : Option (Int × String) := none
deriving Inhabited

/-- A scripted registry answer, which may cancel the deadline when the post
arrives. -/
structure Scripted where
  delivery : Delivery
  cancel : Bool := false
deriving Inhabited

/-- A call as logged: an API call with its method, place and timeout, or a post. -/
inductive Call where
  | cluster (method ns name : String) (timeout : Option Rat)
  | post (p : Post Rat)

/-- The world: the store, the queued faults by method, the scripted registry
answers, how many default creations were answered, the running deadline, the
calls, counts and recorded durations of the current step, and the handlers'
meters and events. -/
structure World where
  store : Store := {}
  faults : List (String × List (Option Fault)) := []
  script : List (Option Scripted) := []
  defaultCreations : Nat := 0
  deadline : Deadline := Deadline.unlimited
  calls : List Call := []
  counted : List String := []
  observed : List (String × Rat) := []
  telemetry : Telemetry := {}

namespace World

def instant : Rat := 1 / 1000000000

/-- Log a call. -/
def log (c : Call) (w : World) : World :=
  { w with calls := w.calls ++ [c] }

def takeFault (method : String) (w : World) : Option Fault × World :=
  match w.faults.lookup method with
  | some (f :: rest) =>
    (f, { w with faults := w.faults.map fun (m, q) => if m == method then (m, rest) else (m, q) })
  | _ => (none, w)

def addFault (method : String) (f : Option Fault) (w : World) : World :=
  match w.faults.lookup method with
  | some _ => { w with faults := w.faults.map fun (m, q) => if m == method then (m, q ++ [f]) else (m, q) }
  | none => { w with faults := w.faults ++ [(method, [f])] }

def cancelIf (b : Bool) (w : World) : World :=
  if b then { w with deadline := w.deadline.cancel } else w

def clusterCall {α : Type} (method ns name : String) (timeout : Option Rat)
    (act : Store → Except ClusterFailure (α × Store)) (w : World) :
    World × Except ClusterFailure α :=
  let w := w.log (.cluster method ns name timeout)
  let (fault, w) := w.takeFault method
  let w := w.cancelIf (fault.any (·.cancel))
  match fault.bind (·.refusal) with
  | some (status, reason) => (w, .error (.refused status reason))
  | none =>
    match act w.store with
    | .ok (a, s) => ({ w with store := s }, .ok a)
    | .error e => (w, .error e)

def jsonAnswer (body : Value) : Delivery :=
  .answered ⟨200, [("content-type", "application/json")], (Json.write body).toUTF8.toList.toArray⟩

def defaultDelivery : RegistryOp → Nat → Delivery
  | .create, n => jsonAnswer (.dict [("entryID", .str ("entry-" ++ toString n))])
  | .revoke, _ => jsonAnswer (.dict [("message", .str "deleted")])

/-- A post: logged, answered by the next scripted answer or by default. -/
def deliver (op : RegistryOp) (p : Post Rat) (w : World) : World × Delivery :=
  let w := w.log (.post p)
  let (next, rest) := match w.script with
    | x :: xs => (x, xs)
    | [] => (none, [])
  let w := { w with script := rest }
  match next, op with
  | some s, _ => (w.cancelIf s.cancel, s.delivery)
  | none, .create =>
    let n := w.defaultCreations + 1
    ({ w with defaultCreations := n }, defaultDelivery .create n)
  | none, .revoke => (w, defaultDelivery .revoke 0)

/-- The world's calls, as a reconcile sees them. -/
def outside : Outside World where
  readAccount ns name t w :=
    w.clusterCall "read_service_account" ns name t fun s => (s.readAccount ns name).map (·, s)
  replaceAccount body t w :=
    w.clusterCall "replace_service_account" body.ns body.name t fun s => s.replaceAccount body
  readConfigMap ns name t w :=
    w.clusterCall "read_config_map" ns name t fun s => (s.readConfigMap ns name).map (·, s)
  readSecret ns name t w :=
    w.clusterCall "read_secret" ns name t fun s => (s.readSecret ns name).map (·, s)
  deliver op p w := w.deliver op p
  deadline w := w.deadline
  clock _ := instant
  count k w := { w with counted := w.counted ++ [k] }
  observe k x w := { w with observed := w.observed ++ [(k, x)] }

def beginStep (d : Deadline) (w : World) : World :=
  { w with calls := [], counted := [], observed := [], deadline := d }

/-- Run a computation as a step under a deadline. -/
def step {α : Type} (m : Run World α) (d : Deadline) (w : World) : Except OperatorError α × World :=
  m.exec (w.beginStep d)

/-- Run the handler of a trigger for the account at `ns/name` as a step. The
handler reads the clock as the step begins, at zero, so the reconcile it runs
makes its calls one instant after its deadline was set. -/
def handle (r : Reconciler World) (t : Trigger) (ns name : String) (w : World) :
    Except RetryLater Unit × World :=
  let (res, w, m) := t.handle r.settings (fun _ => 0)
    (fun ns name d w => w.step (r.reconcile ns name) d) ns name w w.telemetry
  (res, { w with telemetry := m })

end World

def tally (names : List String) : List (String × Nat) :=
  names.foldl (fun acc n =>
    if (acc.lookup n).isSome then acc.map fun (k, c) => if k == n then (k, c + 1) else (k, c)
    else acc ++ [(n, 1)]) []

end SpireEnroll
