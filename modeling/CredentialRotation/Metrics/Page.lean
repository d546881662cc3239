import CredentialRotation.Metrics.Sample

/-!
# Metrics — Page

How the metrics are presented: the comments that introduce each of them, and the buckets that times
are sorted into.
-/

namespace CredentialRotation.Metric

/-- The part that the names of all metrics begin with. -/
def family : String := "secret_rotator_"

/-- All metrics, in the order of their names. -/
def all : List Metric :=
  [reconciliationDuration, reconciliationErrors, reconciliations, requeues, rotationFailures,
    rotations, storeWriteDuration]

/-- What the metric tells. -/
def help : Metric → String
  | reconciliationDuration => "Duration of reconciliation in seconds"
  | reconciliationErrors => "Total number of reconciliation errors"
  | reconciliations => "Total number of reconciliations"
  | requeues => "Total number of requeues by reason"
  | rotationFailures => "Total number of failed rotation cycles by resulting status"
  | rotations => "Total number of secrets rotated and written to the store"
  | storeWriteDuration => "Duration of secret store writes in seconds"

/-- The upper ends of the buckets of a metric that counts times, in seconds, but for the last, which
has no end. -/
def bounds : Metric → Option (List String)
  | reconciliationDuration => some ["0.01", "0.05", "0.1", "0.5", "1", "2", "5", "10"]
  | storeWriteDuration => some ["0.05", "0.1", "0.25", "0.5", "1", "2.5", "5", "10"]
  | reconciliationErrors | reconciliations | requeues | rotationFailures | rotations => none

/-- Times are counted in a histogram, everything else in a counter. -/
def kind (m : Metric) : String := if m.bounds.isSome then "histogram" else "counter"

/-- The lines that introduce the metric. -/
def comments (m : Metric) : List String :=
  ["# HELP " ++ family ++ m.name ++ " " ++ m.help, "# TYPE " ++ family ++ m.name ++ " " ++ m.kind]

/-- The names of the buckets, each with its upper end. -/
def buckets (m : Metric) : List String :=
  match m.bounds with
  | none => []
  | some ends => (ends ++ ["+Inf"]).map fun bound => family ++ m.name ++ "_bucket " ++ bound

end CredentialRotation.Metric
