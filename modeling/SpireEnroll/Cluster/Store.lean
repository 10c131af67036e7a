import SpireEnroll.Cluster.Objects
import SpireEnroll.Text.Numeral

/-!
# The object store

The cluster's objects and the rules its API keeps when they are read and
written.

* A read of an object that does not exist is refused with 404.
* A replacement of an account is refused with 404 when the account does not
  exist, and with 409 when the body names a version other than the stored one.
  Otherwise the stored account takes the body's annotations and finalizers (its
  deletion marker stays as stored), and its version goes up by one.
* Every write raises the version: a version is a decimal number written as text,
  and an account without one gets version `1`.
* An account that is being deleted disappears as soon as a write leaves it
  without finalizers.

Outside writers (people and other controllers) change accounts too: they set
and remove annotations, remove finalizers and start deletions, under the same
rules.
-/

namespace SpireEnroll

/-- The cluster's objects. -/
structure Store where
  accounts : List AccountRecord := []
  configMaps : List ConfigMapRecord := []
  secrets : List SecretRecord := []
deriving Inhabited

def nextVersion : Option String → Except ClusterFailure String
  | none => .ok "1"
  | some v =>
    match Numeral.readInt? v with
    | some n => .ok (toString (n + 1))
    | none => .error (.raised "ValueError" ("invalid literal for int() with base 10: " ++ Text.literal v))

namespace Store

def account? (s : Store) (ns name : String) : Option AccountRecord :=
  s.accounts.find? (·.isAt ns name)

def configMap? (s : Store) (ns name : String) : Option ConfigMapRecord :=
  s.configMaps.find? fun c => c.ns == ns && c.name == name

def secret? (s : Store) (ns name : String) : Option SecretRecord :=
  s.secrets.find? fun c => c.ns == ns && c.name == name

def dropAccount (s : Store) (ns name : String) : Store :=
  { s with accounts := s.accounts.filter fun r => !r.isAt ns name }

def putAccount (s : Store) (r : AccountRecord) : Store :=
  if (s.account? r.ns r.name).isSome then
    { s with accounts := s.accounts.map fun q => if q.isAt r.ns r.name then r else q }
  else { s with accounts := s.accounts ++ [r] }

/-- The store after an account was written: kept, or gone when released. -/
def settle (s : Store) (r : AccountRecord) : Store :=
  if r.released then s.dropAccount r.ns r.name else s.putAccount r

def putConfigMap (s : Store) (c : ConfigMapRecord) : Store :=
  { s with configMaps := (s.configMaps.filter fun q => !(q.ns == c.ns && q.name == c.name)) ++ [c] }

def dropConfigMap (s : Store) (ns name : String) : Store :=
  { s with configMaps := s.configMaps.filter fun q => !(q.ns == ns && q.name == name) }

def putSecret (s : Store) (c : SecretRecord) : Store :=
  { s with secrets := (s.secrets.filter fun q => !(q.ns == c.ns && q.name == c.name)) ++ [c] }

def dropSecret (s : Store) (ns name : String) : Store :=
  { s with secrets := s.secrets.filter fun q => !(q.ns == ns && q.name == name) }

/-- Read an account. -/
def readAccount (s : Store) (ns name : String) : Except ClusterFailure AccountRecord :=
  match s.account? ns name with
  | some r => .ok r
  | none => .error .notFound

/-- Read a ConfigMap. -/
def readConfigMap (s : Store) (ns name : String) : Except ClusterFailure ConfigMapRecord :=
  match s.configMap? ns name with
  | some c => .ok c
  | none => .error .notFound

/-- Read a Secret. -/
def readSecret (s : Store) (ns name : String) : Except ClusterFailure SecretRecord :=
  match s.secret? ns name with
  | some c => .ok c
  | none => .error .notFound

/-- Replace an account by a body: the stored account after the write, and the
store. -/
def replaceAccount (s : Store) (body : AccountRecord) :
    Except ClusterFailure (AccountRecord × Store) := do
  let stored ← s.readAccount body.ns body.name
  if body.resourceVersion.isSome && body.resourceVersion != stored.resourceVersion then
    throw .conflict
  let v ← nextVersion stored.resourceVersion
  let r := { stored with annotations := body.annotations, finalizers := body.finalizers,
                         resourceVersion := some v }
  pure (r, s.settle r)

def touchAccount (s : Store) (ns name : String) (f : AccountRecord → AccountRecord) :
    Option (Except ClusterFailure Store) :=
  (s.account? ns name).map fun r => do
    let v ← nextVersion r.resourceVersion
    pure (s.settle { f r with resourceVersion := some v })

/-- Set an annotation of an account. -/
def setAnnotation (s : Store) (ns name key : String) (v : Value) :
    Option (Except ClusterFailure Store) :=
  s.touchAccount ns name fun r =>
    { r with annotations := some (Value.setEntry (r.annotations.getD []) key v) }

def removeAnnotation (s : Store) (ns name key : String) : Option (Except ClusterFailure Store) :=
  s.touchAccount ns name fun r =>
    { r with annotations := some ((r.annotations.getD []).filter (·.1 != key)) }

/-- Remove every occurrence of a finalizer of an account. -/
def removeFinalizer (s : Store) (ns name f : String) : Option (Except ClusterFailure Store) :=
  s.touchAccount ns name fun r =>
    { r with finalizers := some (Finalizers.remove f (r.finalizers.getD [])) }

/-- Start the deletion of an account; an account already being deleted is left
as it is. -/
def deleteAccount (s : Store) (ns name : String) : Option (Except ClusterFailure Store) :=
  match s.account? ns name with
  | some r => if r.deleting then some (.ok s) else s.touchAccount ns name fun r => { r with deleting := true }
  | none => none

end Store
end SpireEnroll
