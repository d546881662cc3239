import CredentialRotation.Time.Span
import CredentialRotation.Word

/-!
# Backoff — Fibonacci

Delays that grow as the Fibonacci numbers do: each is the sum of the two before it, from `first`
twice up to a cap.  The sum of two delays is held in 64 bits and stays at the largest value where it
does not fit.
-/

namespace CredentialRotation

/-- A run of delays, in seconds. -/
structure Backoff where
  /-- The delay before the next one, or zero. -/
  previous : Nat
  /-- The next delay. -/
  current : Nat
  /-- The longest delay. -/
  cap : Nat
  deriving DecidableEq, Repr

namespace Backoff

/-- The largest number of seconds that a delay can have. -/
def largest : Nat := Word.limit64 - 1

/-- The delays from `first` up to `cap`, with at least one second for each of the two. -/
def start (first cap : Nat) : Backoff := ⟨0, max first 1, max cap (max first 1)⟩

/-- The run after its next delay. -/
def next (b : Backoff) : Backoff :=
  ⟨b.current, min (min (b.previous + b.current) largest) b.cap, b.cap⟩

/-- The next delay, in nanoseconds. -/
def delay (b : Backoff) : Nat := Span.ofSeconds b.current

end Backoff

end CredentialRotation
