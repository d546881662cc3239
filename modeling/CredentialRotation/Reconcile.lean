import CredentialRotation.Cluster.Client
import CredentialRotation.Event
import CredentialRotation.Resource.Schedule

/-!
# Reconcile

An event on a resource of the cluster.  The record that a cycle leaves is written to the status of
the resource, together with the time of the next attempt.
-/

namespace CredentialRotation

/-- The status of one resource of the cluster, as a place for records. -/
structure StatusPatch (κ : Type) where
  api : κ
  scope : String
  name : String
  generation : Option Int
  schedule : Schedule
  /-- The request for a rotation that the resource holds. -/
  request : Option String
  /-- The condition `Ready` before. -/
  previous : Option Condition
  /-- When the record is written. -/
  stamp : Instant

namespace StatusPatch

/-- The change that writes a record to the status. -/
def change {κ : Type} (p : StatusPatch κ) (r : Record) : Json :=
  .obj [("status", (Status.ofRecord r p.generation p.schedule p.request p.previous p.stamp).toJson)]

/-- Write a record to the status. -/
def put {κ : Type} [ClusterApi κ] (p : StatusPatch κ) (r : Record) :
    Except Failure Unit × StatusPatch κ :=
  match Cluster.patchStatus p.scope p.name (p.change r) p.api with
  | (.ok _, api) => (.ok (), { p with api := api })
  | (.error cause, api) =>
    (.error (cause.within ("Failed to patch status of SecretRotation '" ++ p.name ++ "'")),
      { p with api := api })

instance {κ : Type} [ClusterApi κ] : RecordSink (StatusPatch κ) := ⟨put⟩

end StatusPatch

/-- The operator with another place for its records. -/
def Operator.withSink {σ π ρ : Type} (o : Operator σ π) (sink : ρ) : Operator σ ρ :=
  { entropy := o.entropy, store := o.store, sink := sink, samples := o.samples,
    backoffs := o.backoffs, storeRetry := o.storeRetry }

namespace Reconcile

variable {σ κ : Type}

/-- When the next attempt is due after a cycle for the resource; `none` if reading its interval gets
stuck.  After a failure to draw a password it is the delay that the next failure of the resource
gets. -/
def schedule? (resource : Resource) (key : String) (o : Operator σ κ) : Option Schedule :=
  match Interval.read resource.spec.rotationInterval with
  | .span interval => some ⟨some interval, o.storeRetry, o.backoffs.pending key⟩
  | .refused _ => some ⟨none, o.storeRetry, o.backoffs.pending key⟩
  | .stuck => none

/-- The status of the resource as a place for records written at `stamp`. -/
def statusPatch (resource : Resource) (schedule : Schedule) (stamp : Instant) (api : κ) :
    StatusPatch κ :=
  { api := api
    scope := resource.metadata.scope.getD ""
    name := resource.metadata.name.getD ""
    generation := resource.metadata.generation
    schedule := schedule
    request := resource.rotateRequest
    previous := resource.readyCondition
    stamp := stamp }

/-- Handle an event on a resource at `now`; a record is written at `stamp`. -/
def run [SecretStore σ] [ClusterApi κ] (resource : Resource) (now stamp : Instant)
    (o : Operator σ κ) : Except Event.Stop FollowUp × Operator σ κ :=
  match resource.key with
  | .error part => (.error (.missing part), o)
  | .ok key =>
    let o := o.count .reconciliation
    match schedule? resource key o with
    | none => (.error (.cycle .stuck), o)
    | some schedule =>
      let (result, after) :=
        Event.handle resource now (o.withSink (statusPatch resource schedule stamp o.sink))
      (result, (after.withSink after.sink.api).count .reconciliationTime)

end Reconcile

end CredentialRotation
