import CredentialRotation.Record.Basic

/-!
# Metrics — Sample

What is counted while the operator works, one `Sample` for each count.  A sample belongs to a
metric, and where the metric has a label to one series of it.
-/

namespace CredentialRotation

/-- The metrics, in the order of their names. -/
inductive Metric where
  | reconciliationDuration
  | reconciliationErrors
  | reconciliations
  | requeues
  | rotationFailures
  | rotations
  | storeWriteDuration
  deriving DecidableEq, Repr

/-- Why a resource is looked at again, or why it is not. -/
inductive RequeueReason where
  | suspended
  | notDue
  | awaitChange
  | retryBackoff
  | storeRetry
  | scheduled
  | errorBackoff
  deriving DecidableEq, Repr

/-- How the reason is written in a label. -/
def RequeueReason.name : RequeueReason → String
  | suspended => "suspended"
  | notDue => "not-due"
  | awaitChange => "await-change"
  | retryBackoff => "retry-backoff"
  | storeRetry => "store-retry"
  | scheduled => "scheduled"
  | errorBackoff => "error-backoff"

/-- One count. -/
inductive Sample where
  /-- A secret was rotated. -/
  | rotation
  /-- A cycle ended in this phase, which is an error. -/
  | rotationFailure (phase : Phase)
  /-- An event was taken up. -/
  | reconciliation
  /-- An event failed. -/
  | reconciliationError
  /-- The time that an event took. -/
  | reconciliationTime
  /-- A resource is looked at again, or not, for this reason. -/
  | requeue (reason : RequeueReason)
  /-- The time that a write took, in a store of this kind. -/
  | storeWriteTime (kind : String)
  deriving DecidableEq, Repr

namespace Metric

/-- The name of the metric, without the part that all of them have in common. -/
def name : Metric → String
  | reconciliationDuration => "reconciliation_duration_seconds"
  | reconciliationErrors => "reconciliation_errors_total"
  | reconciliations => "reconciliations_total"
  | requeues => "requeues_total"
  | rotationFailures => "rotation_failures_total"
  | rotations => "rotations_total"
  | storeWriteDuration => "store_write_duration_seconds"

end Metric

namespace Sample

/-- The metric that the sample belongs to. -/
def metric : Sample → Metric
  | rotation => .rotations
  | rotationFailure _ => .rotationFailures
  | reconciliation => .reconciliations
  | reconciliationError => .reconciliationErrors
  | reconciliationTime => .reconciliationDuration
  | requeue _ => .requeues
  | storeWriteTime _ => .storeWriteDuration

/-- The label of the series and its value. -/
def label : Sample → Option (String × String)
  | rotationFailure phase => some ("status", phase.name)
  | requeue reason => some ("reason", reason.name)
  | storeWriteTime kind => some ("store", kind)
  | rotation | reconciliation | reconciliationError | reconciliationTime => none

/-- The label as it stands after the name of the series. -/
def labelText (s : Sample) : String :=
  match s.label with
  | none => ""
  | some (name, value) => "\x7b" ++ name ++ "=\"" ++ value ++ "\"\x7d"

/-- The series that counts the sample.  Of a time, the number of observations is counted. -/
def series (s : Sample) : String :=
  match s with
  | reconciliationTime | storeWriteTime _ => s.metric.name ++ "_count" ++ s.labelText
  | _ => s.metric.name ++ s.labelText

end Sample

end CredentialRotation
