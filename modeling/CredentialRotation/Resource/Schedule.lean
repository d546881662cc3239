import CredentialRotation.Resource.Basic

/-!
# Resource — Schedule

The status that a cycle leaves: its record in writing, when the next attempt is due, and the
condition `Ready`, which keeps the time of its last transition for as long as its status stays the
same.
-/

namespace CredentialRotation

/-- The delays after which the next attempt is due, in nanoseconds. -/
structure Schedule where
  /-- The interval of the policy, if it can be read. -/
  interval : Option Nat
  /-- The delay after a store failure. -/
  storeRetry : Nat
  /-- The delay after a failure to draw a password. -/
  generationRetry : Nat
  deriving DecidableEq, Repr

/-- When the next attempt is due after the cycle that left the record at `now`.  After a malformed
policy none is due, nor where the time cannot be written. -/
def Schedule.nextAttempt (s : Schedule) (r : Record) (now : Instant) : Option Instant :=
  match r.phase with
  | none | some .configError => none
  | some .ready => r.rotatedAt.bind fun last => s.interval.bind last.add?
  | some .storeError => now.add? s.storeRetry
  | some .generationError => now.add? s.generationRetry

namespace Condition

/-- The status and the reason of the condition `Ready` after a cycle. -/
def readyStatus : Option Phase → String × String
  | some .ready => ("True", "Rotated")
  | some phase => ("False", phase.name)
  | none => ("Unknown", "Pending")

/-- When the status `status` was taken on, if it was `previous` before and is so `now`. -/
def transitionTime (previous : Option Condition) (status : String) (now : Instant) :
    Option String :=
  match previous with
  | some previous =>
    if previous.status = status then previous.lastTransitionTime else some now.toText
  | none => some now.toText

/-- The condition `Ready` for a record, given the one before it. -/
def ready (r : Record) (previous : Option Condition) (now : Instant) : Condition :=
  ⟨"Ready", (readyStatus r.phase).1, transitionTime previous (readyStatus r.phase).1 now,
    some (readyStatus r.phase).2, r.message⟩

end Condition

/-- The status for a record. -/
def Status.ofRecord (r : Record) (generation : Option Int) (schedule : Schedule)
    (request : Option String) (previous : Option Condition) (now : Instant) : Status :=
  ⟨r.rotatedAt.map Instant.toText, r.phase.map Phase.name, r.message, generation,
    (schedule.nextAttempt r now).map Instant.toText, request, [Condition.ready r previous now]⟩

end CredentialRotation
