import SpireEnroll.Reconciler.Outside
import SpireEnroll.Cluster.Context
import SpireEnroll.Codec.Base64
import SpireEnroll.Settings

/-!
# Lookups and writes

The single calls a reconcile is built from, each turning the world's answer into
a value or an operator error:

* the cluster context, from the cluster-info ConfigMap (`ClusterContext.ofConfig`);
  a missing ConfigMap is a configuration error, any other refusal an API error;
* the admin credential, from a Secret: its value must be present, non-empty and
  strict base64, and it is passed on in canonical base64;
* a ServiceAccount read (none when it does not exist) and written back;
* an entry created or deleted at the registry, each call counted as the client
  says (`RegistryClient.received`, `createAnswer`, `revokeAnswer`) and timed.

Failures of another kind than a refusal pass through unchanged.
-/

namespace SpireEnroll

/-- A reconciler: the operator's settings, its registry client and the world's
calls. -/
structure Reconciler (W : Type) where
  settings : Settings
  client : RegistryClient Rat
  outside : Outside W

def Value.typeName : Value → String
  | .null => "NoneType"
  | .bool _ => "bool"
  | .int _ => "int"
  | .float _ => "float"
  | .str _ => "str"
  | .list _ => "list"
  | .dict _ => "dict"

namespace Reconciler

variable {W : Type} (r : Reconciler W)

/-- The cluster context. -/
def clusterContext (timeout : Option Rat) : Run W ClusterContext := do
  let ns := r.settings.clusterInfoNamespace
  let name := r.settings.clusterInfoName
  match ← Run.call (r.outside.readConfigMap ns name timeout) with
  | .error (.refused 404 _) => throw (.clusterInfoMissing ns name)
  | .error (.refused _ reason) => throw (.clusterInfoUnreadable ns name reason)
  | .error (.raised kind message) => throw (ClusterFailure.foreign kind message)
  | .ok cm =>
    let trustDomain := ((cm.annotations.getD []).lookup r.settings.trustDomainAnnotation).bind Value.str?
    let config := ((cm.data.getD []).lookup r.settings.clusterInfoKey).bind Value.str?
    match ClusterContext.ofConfig trustDomain config with
    | .ok c => pure c
    | .error (.problem p) => throw (.clusterInfoInvalid ns name p)
    | .error (.raised kind message) => throw (ClusterFailure.foreign kind message)

/-- The admin credential, as canonical base64 text. -/
def adminCredential (timeout : Option Rat) : Run W String := do
  let ns := r.settings.credentialNamespace
  let name := r.settings.credentialName
  let key := r.settings.credentialKey
  match ← Run.call (r.outside.readSecret ns name timeout) with
  | .error (.refused status reason) => throw (.credentialUnreadable ns name status reason)
  | .error (.raised kind message) => throw (ClusterFailure.foreign kind message)
  | .ok secret =>
    match (secret.data.getD []).lookup key with
    | none => throw (.credentialMissing ns name key)
    | some v =>
      if !v.truthy then throw (.credentialMissing ns name key)
      match v with
      | .str text =>
        match Base64.decode? text with
        | none => throw (.credentialNotBase64 ns name key)
        | some [] => throw (.credentialEmpty ns name key)
        | some bytes => pure (Base64.encode bytes)
      | other =>
        throw (ClusterFailure.foreign "TypeError"
          ("argument should be a bytes-like object or ASCII string, not " ++
            Text.literal other.typeName))

/-- Read a ServiceAccount; none when it does not exist. -/
def getAccount (ns name : String) (timeout : Option Rat) : Run W (Option Identity) := do
  match ← Run.call (r.outside.readAccount ns name timeout) with
  | .ok a => pure (some a.identity)
  | .error (.refused 404 _) => pure none
  | .error (.refused status reason) => throw (.accountUnreadable ns name status reason)
  | .error (.raised kind message) => throw (ClusterFailure.foreign kind message)

/-- Write a ServiceAccount's annotations and finalizers back, against the
version it was read at; the stored account. -/
def updateAccount (o : Identity) (timeout : Option Rat) : Run W Identity := do
  match ← Run.call (r.outside.replaceAccount o.record timeout) with
  | .ok a => pure a.identity
  | .error (.refused status reason) => throw (.accountWriteRefused o.key status reason)
  | .error (.raised kind message) => throw (ClusterFailure.foreign kind message)

def countCall (op : RegistryOp) : Option CallStatus → Run W Unit
  | some s => Run.change (r.outside.count (op.name ++ "/" ++ s.label))
  | none => pure ()

/-- Post a request for an operation to the registry and take the answer: a
failure to reach the registry, or an answer that cannot be used, is counted and
fails the call. The exchange is timed from before the post is made to after it
ends, however it ends, and its duration recorded under the operation. -/
def exchange (op : RegistryOp) (req : RegistrationRequest) (timeout : Option Rat) :
    Run W (Response × Array UInt8) := do
  let start ← Run.read r.outside.clock
  let answer ← Run.attempt do
    let p ← Run.ofExcept (r.client.post op req timeout)
    match r.client.received op (← Run.call (r.outside.deliver op p)) with
    | .ok answer => pure answer
    | .error f =>
      r.countCall op f.status
      throw f.error
  Run.change fun w => r.outside.observe op.name (r.outside.clock w - start) w
  Run.ofExcept answer

/-- A call to the registry for an operation: the exchange, then its answer read as
the operation reads it, and counted as that reading says. -/
def registryCall {α : Type} (op : RegistryOp) (read : Response → Array UInt8 → CallOutcome α)
    (req : RegistrationRequest) (timeout : Option Rat) : Run W α := do
  let (response, content) ← r.exchange op req timeout
  let o := read response content
  r.countCall op o.status
  Run.ofExcept o.result

/-- Create an entry at the registry; its id. -/
def createEntry : RegistrationRequest → Option Rat → Run W String :=
  r.registryCall .create (RegistryClient.createAnswer r.client.runtime)

/-- Delete an entry at the registry. -/
def revokeEntry : RegistrationRequest → Option Rat → Run W Unit :=
  r.registryCall .revoke (RegistryClient.revokeAnswer r.client.runtime)

end Reconciler
end SpireEnroll
