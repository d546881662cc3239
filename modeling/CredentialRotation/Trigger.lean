import CredentialRotation.Resource.Basic

/-!
# Trigger

Why an event on a resource runs a cycle, or why it does not.  Writing a status is itself an event,
so that most events have nothing to do but wait for the time that the status names.
-/

namespace CredentialRotation

/-- What an event on a resource calls for. -/
inductive Trigger where
  /-- There is no status yet, or the spec is newer than the one that the status was written for. -/
  | specChanged
  /-- A rotation was asked for. -/
  | manual
  /-- The time of the next attempt has come. -/
  | due
  /-- The next attempt is so many nanoseconds away. -/
  | notDue (wait : Nat)
  /-- No attempt is to be made before the spec changes. -/
  | idle
  deriving DecidableEq, Repr

namespace Trigger

/-- What the time of the next attempt calls for at `now`. -/
def ofTime (next now : Instant) : Trigger :=
  if 0 < next.since now then notDue (next.since now).toNat else due

/-- What the status calls for if the spec has not changed since. -/
def ofStatus (s : Status) (now : Instant) : Trigger :=
  match s.nextRotationTime.bind Instant.ofText? with
  | some next => ofTime next now
  | none => if s.status = some Phase.configError.name then idle else due

/-- The request for a rotation that was last acted on. -/
def answered (r : Resource) : Option String := r.status.bind Status.lastRotateRequest

/-- A rotation was asked for and not yet acted on. -/
def isRequested (r : Resource) : Bool :=
  r.rotateRequest.isSome && answered r != r.rotateRequest

/-- The spec is the one that the status was written for. -/
def isObserved (r : Resource) (s : Status) : Bool :=
  s.observedGeneration.isSome && s.observedGeneration == r.metadata.generation

/-- What an event on the resource calls for at `now`. -/
def classify (r : Resource) (now : Instant) : Trigger :=
  if isRequested r then manual
  else match r.status with
    | none => specChanged
    | some s => if isObserved r s then ofStatus s now else specChanged

/-- The trigger runs a cycle. -/
def runs : Trigger → Bool
  | specChanged | manual | due => true
  | notDue _ | idle => false

end Trigger

end CredentialRotation
