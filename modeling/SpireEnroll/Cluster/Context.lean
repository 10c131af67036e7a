import SpireEnroll.Error
import SpireEnroll.Yaml.Construct

/-!
# Cluster context

Every registry entry names the cluster it belongs to and the trust domain of its
identities. Both come from the cluster-info ConfigMap: the trust domain from an
annotation, the cluster name from the `clusterName` field of the kubeadm
ClusterConfiguration document stored in its data.

The checks run in order: the trust domain must be non-empty, the document
present and non-empty, the document well-formed YAML whose top is a mapping,
and its `clusterName` a non-empty string. A value of the document that YAML
resolves to a number, a bool, a date or null is not a string, so `clusterName:
123` has no cluster name while `clusterName: '123'` does.
-/

namespace SpireEnroll

/-- The cluster's name and trust domain. -/
structure ClusterContext where
  clusterName : String
  trustDomain : String
deriving DecidableEq, Repr, Inhabited

/-- Why the cluster context cannot be had. -/
inductive ContextFailure where
  | problem (p : ContextProblem)
  /-- Reading a value of the document failed outside YAML syntax (an out-of-range
  date, say), with the failure's class and text. -/
  | raised (kind message : String)
deriving Repr

namespace ClusterContext

/-- The cluster context from the trust-domain annotation and the cluster
configuration document. -/
def ofConfig (trustDomain config : Option String) : Except ContextFailure ClusterContext := do
  let td := trustDomain.getD ""
  if td.isEmpty then throw (.problem .trustDomainMissing)
  let text := config.getD ""
  if text.isEmpty then throw (.problem .configurationMissing)
  let doc ← match Yaml.load text with
    | .ok doc => pure doc
    | .error (.failure kind message) => throw (.raised kind message)
    | .error e => throw (.problem (.notYaml (e.text (Yaml.Scanner.bufferOf text))))
  match doc.root with
  | some (.map _) =>
    match doc.field? "clusterName" with
    | some (.str name) =>
      if name.isEmpty then throw (.problem .clusterNameMissing)
      pure ⟨name, td⟩
    | _ => throw (.problem .clusterNameMissing)
  | _ => throw (.problem .notMapping)

end ClusterContext
end SpireEnroll
