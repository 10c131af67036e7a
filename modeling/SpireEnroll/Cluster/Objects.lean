import SpireEnroll.Identity

/-!
# Cluster objects

The objects the operator reads from the cluster's API, as the API stores them,
and the ways a call to the API can fail.

A ServiceAccount is stored with its place, its annotations and finalizers, its
deletion marker and its resource version. Annotations and finalizers are absent
until first written, which is not the same as empty: a write always stores them.
The operator's own view of an account (`Identity`) reads an absent field as empty.

A ConfigMap carries annotations (absent also when it has no metadata at all) and
data; a Secret carries data whose values are base64 texts.
-/

namespace SpireEnroll

/-- Why a call to the cluster's API failed: refused with an HTTP status and its
reason, or failed with an error of another kind and its text. -/
inductive ClusterFailure where
  | refused (status : Int) (reason : String)
  | raised (kind message : String)
deriving Repr, Inhabited

namespace ClusterFailure

def notFound : ClusterFailure := .refused 404 "Not Found"

def conflict : ClusterFailure := .refused 409 "Conflict"

end ClusterFailure

/-- A ServiceAccount as the cluster stores it. -/
structure AccountRecord where
  ns : String
  name : String
  annotations : Option (List (String × Value))
  finalizers : Option (List String)
  deleting : Bool
  resourceVersion : Option String
deriving Inhabited

namespace AccountRecord

/-- The operator's view of a stored account: absent fields read as empty. -/
def identity (r : AccountRecord) : Identity :=
  { ns := r.ns, name := r.name, annotations := r.annotations.getD [],
    finalizers := r.finalizers.getD [], deleting := r.deleting,
    resourceVersion := r.resourceVersion }

def isAt (r : AccountRecord) (ns name : String) : Bool :=
  r.ns == ns && r.name == name

def released (r : AccountRecord) : Bool :=
  r.deleting && (r.finalizers.getD []).isEmpty

end AccountRecord

def Identity.record (o : Identity) : AccountRecord :=
  { ns := o.ns, name := o.name, annotations := some o.annotations,
    finalizers := some o.finalizers, deleting := o.deleting,
    resourceVersion := o.resourceVersion }

/-- A ConfigMap as the cluster stores it. -/
structure ConfigMapRecord where
  ns : String
  name : String
  annotations : Option (List (String × Value))
  data : Option (List (String × Value))
deriving Inhabited

/-- A Secret as the cluster stores it. -/
structure SecretRecord where
  ns : String
  name : String
  data : Option (List (String × Value))
deriving Inhabited

end SpireEnroll
