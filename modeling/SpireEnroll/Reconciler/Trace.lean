import SpireEnroll.Reconciler.Basic

/-!
# Logs of reconciles

What a reconcile does is seen in the calls it makes to its collaborators. A
collaborator can be wrapped so that every call adds an entry to a log (an
`Exchange`: what was called, with which arguments, and what it answered), and
the reconcile run against the wrapped collaborators (`Collaborators.traced`) is
the same reconcile, now leaving its log.

A run of the operator is a sequence of reconciles of any accounts, with any
changes to the world made from outside between them (`Happening`); its record
(`Collaborators.session`) is the list of reconciles as they went, each with its
outcome and its own log.
-/

namespace SpireEnroll

/-- A call a reconcile made to one of its collaborators, with what it was given
and what it answered. -/
inductive Exchange where
  | get (ns name : String) (timeout : Option Rat) (answer : Except OperatorError (Option Identity))
  | update (o : Identity) (timeout : Option Rat) (answer : Except OperatorError Identity)
  | clusterContext (timeout : Option Rat) (answer : Except OperatorError ClusterContext)
  | adminCredential (timeout : Option Rat) (answer : Except OperatorError String)
  | createEntry (request : RegistrationRequest) (timeout : Option Rat)
      (answer : Except OperatorError String)
  | revokeEntry (request : RegistrationRequest) (timeout : Option Rat)
      (answer : Except OperatorError Unit)
  | countFallback

namespace Exchange

def obtained? : Exchange → Option Identity
  | .get _ _ _ (.ok (some o)) => some o
  | .update _ _ (.ok o) => some o
  | _ => none

/-- The account last handed back in a log, the one a write made next would
modify. -/
def lastObtained (log : List Exchange) : Option Identity :=
  (log.filterMap obtained?).getLast?

/-- What a write that went through wrote. -/
def written? : Exchange → Option Identity
  | .update o _ (.ok _) => some o
  | _ => none

end Exchange

namespace Run

variable {W α : Type}

def logging (m : Run W α) (entry : Except OperatorError α → Exchange) :
    Run (W × List Exchange) α :=
  ExceptT.mk (modifyGet fun p =>
    let r := m.exec p.1
    (r.1, (r.2, p.2 ++ [entry r.1])))

end Run

namespace Collaborators

variable {W : Type}

/-- The same collaborators, each call adding its exchange to a log kept beside
the world. -/
def traced (c : Collaborators W) : Collaborators (W × List Exchange) where
  get ns name t := (c.get ns name t).logging (.get ns name t)
  update o t := (c.update o t).logging (.update o t)
  clusterContext t := (c.clusterContext t).logging (.clusterContext t)
  adminCredential t := (c.adminCredential t).logging (.adminCredential t)
  createEntry req t := (c.createEntry req t).logging (.createEntry req t)
  revokeEntry req t := (c.revokeEntry req t).logging (.revokeEntry req t)
  countFallback p := (c.countFallback p.1, p.2 ++ [.countFallback])
  deadline p := c.deadline p.1
  clock p := c.clock p.1
  elapse p := (c.elapse p.1, p.2)
  deadline_elapse p := c.deadline_elapse p.1
  clock_le_elapse p := c.clock_le_elapse p.1

end Collaborators

/-- A reconcile as it went: the account, how it ended, and the calls it made in
order. -/
structure Reconciled where
  ns : String
  name : String
  result : Except OperatorError (Option Lifecycle)
  log : List Exchange

/-- What happens next in a run of the operator: a reconcile of the account at
`ns/name`, or a change of the world made from outside. -/
inductive Happening (W : Type) where
  | reconcile (ns name : String)
  | change (f : W → W)

namespace Collaborators

variable {W : Type} (c : Collaborators W) (s : Settings)

/-- Reconcile the account at `ns/name` from a world, keeping its log; the world
after it. -/
def reconciled (ns name : String) (w : W) : Reconciled × W :=
  let run := (c.traced.reconcile s ns name).exec (w, [])
  (⟨ns, name, run.1, run.2.2⟩, run.2.1)

/-- The reconciles of a run, in order, and the world after it. -/
def session : List (Happening W) → W → List Reconciled × W
  | [], w => ([], w)
  | .reconcile ns name :: hs, w =>
    let x := c.reconciled s ns name w
    let rest := session hs x.2
    (x.1 :: rest.1, rest.2)
  | .change f :: hs, w => session hs (f w)

end Collaborators
end SpireEnroll
