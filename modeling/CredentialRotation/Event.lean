import CredentialRotation.Operator
import CredentialRotation.Trigger

/-!
# Event

An event on one resource: `handle` runs a cycle if the event calls for one and says when to look at
the resource again, and `retry` says so where handling failed.  A resource that asks for another
cycle at once, and one whose handling failed, has to wait for the delay that its failures in a row
have earned; any other outcome of a cycle settles them.
-/

namespace CredentialRotation.Event

variable {σ π : Type}

/-- Why an event was not handled. -/
inductive Stop where
  /-- The resource has no name or no namespace. -/
  | missing (part : MissingPart)
  /-- The cycle that the event called for has no outcome. -/
  | cycle (reason : Cycle.Stop)
  deriving DecidableEq, Repr

/-- What is logged of an event that was not handled. -/
def Stop.message : Stop → String
  | missing part => part.message
  | cycle reason => reason.message

/-- Why a resource is looked at again after a cycle that wants to be run again later. -/
def laterReason (record : Record) : RequeueReason :=
  match record.phase with
  | some phase => if phase.isError then .storeRetry else .scheduled
  | none => .scheduled

/-- What follows the outcome of a cycle. -/
def follow (key : String) (outcome : Cycle.Outcome) (o : Operator σ π) : FollowUp × Operator σ π :=
  match outcome.next with
  | .onChange => (.onChange, (o.forget key).count (.requeue .awaitChange))
  | .after delay =>
    if delay = 0 then
      (.after (o.backoffs.pending key), (o.fail key).count (.requeue .retryBackoff))
    else (.after delay, (o.forget key).count (.requeue (laterReason outcome.record)))

/-- Run a cycle for the resource. -/
def runCycle [SecretStore σ] [RecordSink π] (resource : Resource) (key : String) (now : Instant)
    (forced : Bool) (o : Operator σ π) : Except Stop FollowUp × Operator σ π :=
  match Cycle.run resource.spec.policy resource.record now forced o.storeRetry o.toWorld with
  | (.error stop, w) => (.error (.cycle stop), { o with toWorld := w })
  | (.ok outcome, w) =>
    let (next, o) := follow key outcome { o with toWorld := w }
    (.ok next, o)

/-- Handle an event on the resource at `now`. -/
def handle [SecretStore σ] [RecordSink π] (resource : Resource) (now : Instant) (o : Operator σ π) :
    Except Stop FollowUp × Operator σ π :=
  match resource.key with
  | .error part => (.error (.missing part), o)
  | .ok key =>
    if resource.spec.suspend then (.ok .onChange, o.count (.requeue .suspended))
    else match Trigger.classify resource now with
      | .notDue wait => (.ok (.after wait), o.count (.requeue .notDue))
      | .idle => (.ok .onChange, o.count (.requeue .awaitChange))
      | .manual => runCycle resource key now true o
      | .specChanged | .due => runCycle resource key now false o

/-- The name under which a failed event is counted; a part that is missing is `unknown`. -/
def failureKey (resource : Resource) : String :=
  resource.metadata.scope.getD "unknown" ++ "/" ++ resource.metadata.name.getD "unknown"

/-- What follows an event that was not handled. -/
def retry (resource : Resource) (o : Operator σ π) : FollowUp × Operator σ π :=
  let key := failureKey resource
  (.after (o.backoffs.pending key),
    ((o.count .reconciliationError).fail key).count (.requeue .errorBackoff))

end CredentialRotation.Event
