import SpireEnroll.Duration
import SpireEnroll.Text.Numeral
import SpireEnroll.Text.Literal

/-!
# Settings

Where the operator finds its objects, which annotations and finalizer it uses, how
it reaches the registry, and its time limits. Every field has a default; the
registry's address is `scheme://host`, with `:port` added only for a positive port.

Each setting may be given by an environment variable. An unset or empty variable
leaves the default, except `WATCH_NAMESPACE`, which is taken as it is. Integers and
numbers of seconds are read as numerals; a number of seconds must be positive and
make a duration. Variables are read in a fixed order and the first bad one is
reported: the port, the four durations, the worker count, the metrics port.
-/

namespace SpireEnroll

/-- The operator's settings. -/
structure Settings where
  registryHost : String := "omegaspire01.omegaworld.net"
  registryPort : Int := 8080
  registryScheme : String := "http"
  clusterInfoNamespace : String := "kube-system"
  clusterInfoName : String := "kubeadm-config"
  clusterInfoKey : String := "ClusterConfiguration"
  trustDomainAnnotation : String := "omega.k8s.io/spire-trustdomain"
  credentialNamespace : String := "kube-system"
  credentialName : String := "admin-kubeconfig"
  credentialKey : String := "kubeconfig"
  managedAnnotation : String := "omegahome.net/managed-spire"
  entryIdAnnotation : String := "omegahome.net/svid-entry-id"
  finalizer : String := "omegahome.net/spire-finalizer"
  retryDelay : Duration := Duration.ofWholeSeconds 15
  requestTimeout : Duration := Duration.ofWholeSeconds 10
  reconcileTimeout : Duration := Duration.ofWholeSeconds 60
  resyncInterval : Duration := Duration.ofWholeSeconds 300
  maxWorkers : Int := 10
  metricsPort : Int := 9090
  watchNamespace : String := ""
deriving Inhabited

namespace Settings

/-- The registry's base address. -/
def registryUrl (s : Settings) : String :=
  let base := s.registryScheme ++ "://" ++ s.registryHost
  if s.registryPort > 0 then base ++ ":" ++ toString s.registryPort else base

end Settings

/-- Why the environment makes no settings. -/
inductive SettingsError where
  | notInteger (var value : String)
  | notSeconds (var value : String)
  | notPositive (var value : String)
  | badDuration (e : DurationError)
deriving Repr

namespace SettingsError

/-- The class of the failure. -/
def kind : SettingsError → String
  | .badDuration e => e.kind
  | _ => "ConfigurationError"

/-- The text of the failure; the offending value is shown as a literal. -/
def message : SettingsError → String
  | .notInteger var value => var ++ " must be an integer, got " ++ Text.literal value
  | .notSeconds var value => var ++ " must be a number of seconds, got " ++ Text.literal value
  | .notPositive var value => var ++ " must be positive, got " ++ Text.literal value
  | .badDuration e => e.message

end SettingsError

namespace Settings

def envText (env : String → Option String) (var default : String) : String :=
  match env var with
  | some v => if v.isEmpty then default else v
  | none => default

/-- An integer variable. -/
def envInt (env : String → Option String) (var : String) (default : Int) :
    Except SettingsError Int :=
  match env var with
  | none => .ok default
  | some v =>
    if v.isEmpty then .ok default
    else match Numeral.readInt? v with
      | some n => .ok n
      | none => .error (.notInteger var v)

def envSeconds (env : String → Option String) (var : String) (default : Duration) :
    Except SettingsError Duration :=
  match env var with
  | none => .ok default
  | some v =>
    if v.isEmpty then .ok default
    else match Numeral.readFloat? v with
      | none => .error (.notSeconds var v)
      | some x =>
        if x ≤ 0.0 then .error (.notPositive var v)
        else match Duration.ofSeconds x with
          | .ok d => .ok d
          | .error e => .error (.badDuration e)

/-- The settings an environment gives. -/
def ofEnv (env : String → Option String) : Except SettingsError Settings := do
  let d : Settings := {}
  let host := envText env "SPIRE_API_HOST" d.registryHost
  let port ← envInt env "SPIRE_API_PORT" d.registryPort
  let scheme := envText env "SPIRE_API_SCHEME" d.registryScheme
  let retry ← envSeconds env "RETRY_DELAY_SECONDS" d.retryDelay
  let request ← envSeconds env "REQUEST_TIMEOUT_SECONDS" d.requestTimeout
  let reconcile ← envSeconds env "RECONCILE_TIMEOUT_SECONDS" d.reconcileTimeout
  let resync ← envSeconds env "RESYNC_INTERVAL_SECONDS" d.resyncInterval
  let workers ← envInt env "MAX_WORKERS" d.maxWorkers
  let metrics ← envInt env "METRICS_PORT" d.metricsPort
  pure {
    registryHost := host
    registryPort := port
    registryScheme := scheme
    clusterInfoNamespace := envText env "CLUSTER_INFO_NAMESPACE" d.clusterInfoNamespace
    clusterInfoName := envText env "CLUSTER_INFO_NAME" d.clusterInfoName
    clusterInfoKey := envText env "CLUSTER_INFO_KEY" d.clusterInfoKey
    trustDomainAnnotation := envText env "TRUST_DOMAIN_ANNOTATION" d.trustDomainAnnotation
    credentialNamespace := envText env "ADMIN_KUBECONFIG_NAMESPACE" d.credentialNamespace
    credentialName := envText env "ADMIN_KUBECONFIG_SECRET" d.credentialName
    credentialKey := envText env "ADMIN_KUBECONFIG_KEY" d.credentialKey
    managedAnnotation := envText env "MANAGED_ANNOTATION" d.managedAnnotation
    entryIdAnnotation := envText env "ENTRY_ID_ANNOTATION" d.entryIdAnnotation
    finalizer := envText env "SPIRE_FINALIZER" d.finalizer
    retryDelay := retry
    requestTimeout := request
    reconcileTimeout := reconcile
    resyncInterval := resync
    maxWorkers := workers
    metricsPort := metrics
    watchNamespace := (env "WATCH_NAMESPACE").getD d.watchNamespace }

end Settings
end SpireEnroll
