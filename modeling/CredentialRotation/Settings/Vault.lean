import CredentialRotation.Settings.Environment
import CredentialRotation.Text.Quoted
import CredentialRotation.Time.Span

/-!
# Settings — Vault

Where the vault is and how requests to it are authenticated.  A token that is given goes before a
role to log in with; where neither is given requests carry no token.
-/

namespace CredentialRotation

/-- How requests to the vault are authenticated. -/
inductive VaultAuth where
  /-- Not at all. -/
  | anonymous
  | token (value : String)
  /-- By logging in as `role` with the token of a service account. -/
  | serviceAccount (role mount tokenPath : String)
  deriving DecidableEq, Repr

namespace VaultAuth

/-- The name of the method. -/
def method : VaultAuth → String
  | anonymous => "none"
  | token _ => "token"
  | serviceAccount _ _ _ => "kubernetes"

/-- What a log shows of the method: never the token. -/
def shown : VaultAuth → String
  | anonymous => "None"
  | token _ => "Token(\"***\")"
  | serviceAccount role mount tokenPath =>
    "Kubernetes \x7b role: " ++ Text.Quoting.double.quote role ++ ", mount: " ++
      Text.Quoting.double.quote mount ++ ", token_path: " ++ Text.Quoting.both.quote tokenPath ++
      " \x7d"

/-- The method that an environment gives. -/
def ofEnvironment (env : Environment) : VaultAuth :=
  match env.solid? "VAULT_TOKEN", env.solid? "VAULT_AUTH_ROLE" with
  | some value, _ => token value
  | none, some role =>
    serviceAccount role (env.text "VAULT_AUTH_MOUNT" "kubernetes")
      (env.text "VAULT_SA_TOKEN_PATH" "/var/run/secrets/kubernetes.io/serviceaccount/token")
  | none, none => anonymous

end VaultAuth

/-- Where the vault is and how it is talked to. -/
structure VaultSettings where
  /-- The address, without a slash at its end. -/
  address : String
  auth : VaultAuth
  /-- The namespace that requests name. -/
  scope : Option String
  /-- The seconds that a request may take. -/
  requestTimeout : Nat
  /-- The name that is written beside each password. -/
  rotatedBy : String
  deriving DecidableEq, Repr

namespace VaultSettings

/-- The settings where nothing is given. -/
def standard : VaultSettings :=
  ⟨"http://vault.vault-system:8200", .anonymous, none, 10, "secret-rotator-operator"⟩

/-- A text without the slashes at its end. -/
def dropSlashes (text : String) : String :=
  String.ofList (text.toList.reverse.dropWhile (· = '/')).reverse

/-- The settings that an environment gives. -/
def ofEnvironment (env : Environment) : VaultSettings :=
  { address := dropSlashes ((env.solid? "VAULT_ADDR").getD standard.address)
    auth := .ofEnvironment env
    scope := env.solid? "VAULT_NAMESPACE"
    requestTimeout := max (env.word "VAULT_REQUEST_TIMEOUT_SECS" standard.requestTimeout) 1
    rotatedBy := env.text "VAULT_ROTATED_BY" standard.rotatedBy }

/-- The time that a request may take, in nanoseconds. -/
def requestTimeoutSpan (s : VaultSettings) : Nat := Span.ofSeconds s.requestTimeout

end VaultSettings

end CredentialRotation
