/-!
# Policy

What an operator asks for one secret.
-/

namespace CredentialRotation

/-- How one secret is to be rotated. -/
structure Policy where
  /-- The interval, as it was written. -/
  interval : String
  /-- The number of characters of a password; 0 leaves the choice to `defaultLength`. -/
  passwordLength : Nat
  /-- Passwords have symbols as well as letters and digits. -/
  includeSymbols : Bool
  /-- Where the secret is kept in the store. -/
  storePath : String
  deriving DecidableEq, Repr

namespace Policy

/-- The number of characters where the policy leaves it open. -/
def defaultLength : Nat := 16

/-- The number of characters that a password gets. -/
def effectiveLength (p : Policy) : Nat :=
  if p.passwordLength = 0 then defaultLength else p.passwordLength

theorem effectiveLength_pos (p : Policy) : 0 < p.effectiveLength := by
  rw [effectiveLength]
  split
  · decide
  · omega

end Policy

end CredentialRotation
