/-!
# FollowUp

What comes after a cycle or after an event: nothing until something changes, or a next time after a
delay.
-/

namespace CredentialRotation

/-- When the next time comes. -/
inductive FollowUp where
  /-- Only when something changes. -/
  | onChange
  /-- After so many nanoseconds; zero is at once. -/
  | after (delay : Nat)
  deriving DecidableEq, Repr

/-- The next time comes at once. -/
def FollowUp.isImmediate : FollowUp → Bool
  | onChange => false
  | after delay => delay = 0

end CredentialRotation
