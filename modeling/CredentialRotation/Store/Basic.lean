import CredentialRotation.Password.Drawing

/-!
# Store — Basic

Where secrets are written to.  A store may be out of reach, refuse a write or not be set up right;
whoever writes treats all of these alike and only passes on the wording.
-/

namespace CredentialRotation

/-- Why a secret was not written. -/
inductive StoreError where
  | transport (path reason : String)
  | rejected (path : String) (status : Nat) (body : String)
  | authentication (reason : String)
  | configuration (reason : String)
  | unavailable (reason : String)
  deriving DecidableEq, Repr

/-- The wording of a store error. -/
def StoreError.message : StoreError → String
  | transport path reason => "transport error writing '" ++ path ++ "': " ++ reason
  | rejected path status body =>
    "store rejected write to '" ++ path ++ "' with HTTP " ++ toString status ++ ": " ++ body
  | authentication reason => "secret store authentication failed: " ++ reason
  | configuration reason => "secret store misconfigured: " ++ reason
  | unavailable reason => "secret store unavailable: " ++ reason

/-- A place where secrets can be written to, and from which they cannot be read. -/
class SecretStore (σ : Type) where
  /-- What kind of store it is, for the metrics. -/
  kind : σ → String
  /-- Write a secret to a path, in one attempt. -/
  write : σ → String → Secret → Except StoreError Unit × σ

end CredentialRotation
