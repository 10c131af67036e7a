/-!
# Errors

Every way a reconcile can fail is a constructor of `OperatorError`, named for its
cause. Each belongs to one *kind*, the class a caller can catch; the kinds form a
hierarchy (a credential lookup failure is a configuration error, a persistence
failure is an API failure, …). The text of an error is fixed by its cause in
`OperatorError.message`.

A failure is summarised for events as `Kind: message`, cut to a number of
characters.
-/

namespace SpireEnroll

/-- The classes of errors, as callers distinguish them. -/
inductive ErrorKind where
  | operator
  | configuration
  | credentialLookup
  | registry
  | transport
  | protocol
  | kubernetesApi
  | persistence
  | reconcileTimeout
  | reconcileCancelled
  /-- A failure raised by a library routine rather than by the operator, named by
  its class. -/
  | foreign (name : String)
deriving DecidableEq, Repr, Inhabited

namespace ErrorKind

/-- The class name of a kind. -/
def name : ErrorKind → String
  | .operator => "OperatorError"
  | .configuration => "ConfigurationError"
  | .credentialLookup => "CredentialLookupError"
  | .registry => "RegistryError"
  | .transport => "TransportError"
  | .protocol => "ProtocolError"
  | .kubernetesApi => "KubernetesAPIError"
  | .persistence => "PersistenceError"
  | .reconcileTimeout => "ReconcileTimeoutError"
  | .reconcileCancelled => "ReconcileCancelledError"
  | .foreign n => n

def all : List ErrorKind :=
  [.operator, .configuration, .credentialLookup, .registry, .transport, .protocol,
    .kubernetesApi, .persistence, .reconcileTimeout, .reconcileCancelled]

def ofName? (s : String) : Option ErrorKind :=
  all.find? (·.name == s)

def parent? : ErrorKind → Option ErrorKind
  | .operator => none
  | .configuration | .registry | .kubernetesApi
  | .reconcileTimeout | .reconcileCancelled => some .operator
  | .credentialLookup => some .configuration
  | .transport | .protocol => some .registry
  | .persistence => some .kubernetesApi
  | .foreign _ => none

end ErrorKind

/-- Why the cluster context cannot be taken from the cluster-info document. -/
inductive ContextProblem where
  | trustDomainMissing
  | configurationMissing
  /-- The document is not well-formed YAML; the detail says where and why. -/
  | notYaml (detail : String)
  | notMapping
  | clusterNameMissing
deriving DecidableEq, Repr

/-- The text of a context problem. -/
def ContextProblem.message : ContextProblem → String
  | .trustDomainMissing => "trust domain annotation is missing or empty"
  | .configurationMissing => "cluster configuration is missing or empty"
  | .notYaml detail => "cluster configuration is not valid YAML: " ++ detail
  | .notMapping => "cluster configuration is not a mapping"
  | .clusterNameMissing => "clusterName not found in cluster configuration"

/-- The two calls made to the registry. -/
inductive RegistryOp where
  | create
  | revoke
deriving DecidableEq, Repr

/-- The name of a registry operation. -/
def RegistryOp.name : RegistryOp → String
  | .create => "create_entry"
  | .revoke => "revoke_entry"

/-- What is wrong with an answer the registry gave. -/
inductive AnswerProblem where
  | notOk
  | notJson
  | notObject
  | noEntryId
  | deleteFailed
deriving DecidableEq, Repr

/-- The text of an answer problem. -/
def AnswerProblem.message : AnswerProblem → String
  | .notOk => "registry returned non-200"
  | .notJson => "response is not JSON"
  | .notObject => "response is not a JSON object"
  | .noEntryId => "response carries no entryID"
  | .deleteFailed => "failed to delete SPIRE entry"

/-- A failed reconcile, by cause. Namespaces and names locate the object involved. -/
inductive OperatorError where
  /-- The cluster-info ConfigMap does not exist. -/
  | clusterInfoMissing (ns name : String)
  /-- Reading the cluster-info ConfigMap failed otherwise. -/
  | clusterInfoUnreadable (ns name reason : String)
  /-- The cluster-info ConfigMap holds no usable context. -/
  | clusterInfoInvalid (ns name : String) (problem : ContextProblem)
  /-- Reading the credential Secret failed. -/
  | credentialUnreadable (ns name : String) (status : Int) (reason : String)
  /-- The credential Secret has no non-empty value under the key. -/
  | credentialMissing (ns name key : String)
  /-- The credential value is not strict base64. -/
  | credentialNotBase64 (ns name key : String)
  /-- The credential value decodes to nothing. -/
  | credentialEmpty (ns name key : String)
  /-- Reading the ServiceAccount failed with a status other than not-found. -/
  | accountUnreadable (ns name : String) (status : Int) (reason : String)
  /-- Writing the ServiceAccount back was refused. -/
  | accountWriteRefused (key : String) (status : Int) (reason : String)
  /-- The registry could not be reached at `url`. -/
  | registryUnreachable (op : RegistryOp) (url detail : String)
  /-- The registry's answer could not be decoded or followed. -/
  | registryUnusable (op : RegistryOp) (url detail : String)
  /-- The registry answered, but not as required. -/
  | registryRefused (op : RegistryOp) (problem : AnswerProblem) (status : Int) (body : String)
  /-- The reconcile's time budget is spent. -/
  | deadlineExceeded
  /-- The reconcile was cancelled. -/
  | cancelled
  /-- A failure given only by its kind and text. -/
  | other (kind : ErrorKind) (text : String)
deriving Repr

namespace OperatorError

/-- The kind of an error. -/
def kind : OperatorError → ErrorKind
  | .clusterInfoMissing .. => .configuration
  | .clusterInfoUnreadable .. => .kubernetesApi
  | .clusterInfoInvalid .. => .configuration
  | .credentialUnreadable .. | .credentialMissing .. | .credentialNotBase64 ..
  | .credentialEmpty .. => .credentialLookup
  | .accountUnreadable .. => .kubernetesApi
  | .accountWriteRefused .. => .persistence
  | .registryUnreachable .. => .transport
  | .registryUnusable .. | .registryRefused .. => .protocol
  | .deadlineExceeded => .reconcileTimeout
  | .cancelled => .reconcileCancelled
  | .other k _ => k

/-- The text of an error. -/
def message : OperatorError → String
  | .clusterInfoMissing ns name => s!"cluster info ConfigMap {ns}/{name} not found"
  | .clusterInfoUnreadable ns name reason => s!"failed to read ConfigMap {ns}/{name}: {reason}"
  | .clusterInfoInvalid ns name p => s!"ConfigMap {ns}/{name}: " ++ p.message
  | .credentialUnreadable ns name status reason =>
    s!"failed to read Secret {ns}/{name}: {status} {reason}"
  | .credentialMissing ns name key => s!"missing {key} data in Secret {ns}/{name}"
  | .credentialNotBase64 ns name key => s!"{key} in Secret {ns}/{name} is not valid base64"
  | .credentialEmpty ns name key => s!"{key} in Secret {ns}/{name} is empty"
  | .accountUnreadable ns name status reason =>
    s!"failed to read ServiceAccount {ns}/{name}: {status} {reason}"
  | .accountWriteRefused key status reason =>
    s!"failed to update ServiceAccount {key}: {status} {reason}"
  | .registryUnreachable op url detail => s!"{op.name}: failed to reach {url}: " ++ detail
  | .registryUnusable op url detail => s!"{op.name}: unusable response from {url}: " ++ detail
  | .registryRefused op p status _ => s!"{op.name}: {p.message} (HTTP {status})"
  | .deadlineExceeded => "reconcile deadline exceeded"
  | .cancelled => "reconcile cancelled"
  | .other _ text => text

/-- The status a refused registry answer carried. -/
def status? : OperatorError → Option Int
  | .registryRefused _ _ status _ => some status
  | _ => none

/-- The body of a refused registry answer; empty when no answer was read. -/
def body : OperatorError → String
  | .registryRefused _ _ _ body => body
  | _ => ""

end OperatorError

/-- How many characters of a failure an event shows. -/
def eventLimit : Int := 200

def cutText (s : String) (limit : Int) : String :=
  let cs := s.toList
  if 0 ≤ limit then String.ofList (cs.take limit.toNat)
  else String.ofList (cs.take (cs.length - limit.natAbs))

/-- A failure summarised as `Kind: message`, cut to `limit` characters (events use
`eventLimit`). -/
def shortError (kind message : String) (limit : Int) : String :=
  cutText (kind ++ ": " ++ message) limit

/-- An operator error summarised for an event. -/
def OperatorError.short (e : OperatorError) (limit : Int) : String :=
  shortError e.kind.name e.message limit

end SpireEnroll
