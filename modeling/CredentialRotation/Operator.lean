import CredentialRotation.Backoff.Table
import CredentialRotation.Cycle

/-!
# Operator

What an operator carries from one event to the next: the world of its cycles and the failures that
it still holds against resources.
-/

namespace CredentialRotation

/-- An operator with its store and its sink. -/
structure Operator (σ π : Type) extends World σ π where
  /-- The failures of the resources that have failed since they were last in order. -/
  backoffs : Backoffs
  /-- The delay after a store failure, in nanoseconds. -/
  storeRetry : Nat

namespace Operator

variable {σ π : Type}

/-- Count one more sample. -/
def count (o : Operator σ π) (s : Sample) : Operator σ π := { o with toWorld := o.toWorld.count s }

/-- The failures of a resource are forgotten. -/
def forget (o : Operator σ π) (key : String) : Operator σ π :=
  { o with backoffs := o.backoffs.forget key }

/-- A resource has failed once more. -/
def fail (o : Operator σ π) (key : String) : Operator σ π :=
  { o with backoffs := o.backoffs.fail key }

end Operator

end CredentialRotation
