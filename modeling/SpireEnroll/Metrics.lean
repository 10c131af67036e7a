import SpireEnroll.Error

/-!
# Metrics

The operator exports counters of reconciles and registry calls, histograms of their
durations, a gauge of reconciles in progress, a counter of registrations sent
without a credential, and an information sample. At start-up every labelled series
is created at zero, so that all of them are visible at once.

A series is written `name{label=value,…}` with its labels in name order.
-/

namespace SpireEnroll
namespace Metrics

def prefixName : String := "spire_sa_operator"

def operations : List String := ["create", "update", "resume", "delete", "resync"]

def reconcileStatuses : List String := ["success", "error"]

def callStatuses : List String := ["success", "transport_error", "protocol_error"]

def reconcileBuckets : List String :=
  ["0.05", "0.1", "0.25", "0.5", "1.0", "2.5", "5.0", "10.0", "30.0", "60.0", "+Inf"]

def registryBuckets : List String :=
  ["0.05", "0.1", "0.25", "0.5", "1.0", "2.5", "5.0", "10.0", "+Inf"]

/-- A series name with labels, sorted by label name. -/
def series (name : String) (labels : List (String × String)) : String :=
  let sorted := labels.mergeSort fun a b => decide (a.1 ≤ b.1)
  prefixName ++ name ++ "\x7b" ++ ",".intercalate (sorted.map fun (k, v) => k ++ "=" ++ v) ++ "\x7d"

def histogramSeries (name : String) (buckets : List String) (op : String) : List String :=
  buckets.map (fun le => series (name ++ "_bucket") [("le", le), ("operation", op)]) ++
    [series (name ++ "_count") [("operation", op)], series (name ++ "_sum") [("operation", op)]]

def initialSeries : List String :=
  let reconcileTotals := operations.flatMap fun op =>
    reconcileStatuses.map fun st => series "_reconcile_total" [("operation", op), ("status", st)]
  let reconcileDurations := operations.flatMap
    (histogramSeries "_reconcile_duration_seconds" reconcileBuckets)
  let registryOps := [RegistryOp.create.name, RegistryOp.revoke.name]
  let registryCalls := registryOps.flatMap fun op =>
    callStatuses.map fun st => series "_registry_api_calls_total" [("operation", op), ("status", st)]
  let registryDurations := registryOps.flatMap
    (histogramSeries "_registry_api_duration_seconds" registryBuckets)
  let singles := [series "_reconcile_in_progress" [], series "_credential_fallback_total" [],
    series "_info" []]
  (reconcileTotals ++ reconcileDurations ++ registryCalls ++ registryDurations ++ singles).mergeSort
    fun a b => decide (a ≤ b)

def infoLabels (version registryUrl : String) : List (String × String) :=
  [("registry", registryUrl), ("version", version)]

end Metrics
end SpireEnroll
