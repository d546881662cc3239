import CredentialRotation.Json.Record
import CredentialRotation.Json.Reader
import CredentialRotation.Settings.Vault
import CredentialRotation.Store.Basic
import CredentialRotation.Text.Blank
import CredentialRotation.Text.Utf8
import CredentialRotation.Vault.Host

/-!
# Vault — Store

Writing secrets to the vault.  With a service account a token is got by logging in, and is used
until nine tenths of its lease are over or the vault does not accept it any more.
-/

namespace CredentialRotation

/-- A token got by logging in. -/
structure VaultToken where
  value : String
  /-- The time from which the token is used no longer, if there is one. -/
  refreshAt : Option Nat
  deriving DecidableEq, Repr

/-- The vault, as a store. -/
structure VaultStore (η : Type) where
  settings : VaultSettings
  /-- The token of the last login, if it is still to be used. -/
  cached : Option VaultToken
  host : η

/-- The token may be used at `now`. -/
def VaultToken.isFresh (t : VaultToken) (now : Nat) : Bool :=
  match t.refreshAt with
  | some time => now < time
  | none => true

namespace Vault

/-! ### Replies that are quoted -/

/-- The longest text of a reply that is quoted, in bytes. -/
def quotedBytes : Nat := 512

/-- The text of a reply as it is quoted: on one line, and cut where it is too long. -/
def quoteBody (body : String) : String :=
  let line := Text.flatten body.toList
  if Text.byteSize line ≤ quotedBytes then String.ofList line
  else String.ofList (Text.truncate quotedBytes line ++ ['.', '.', '.'])

/-- The reply says that the request was carried out. -/
def Reply.isSuccess (r : Reply) : Bool := 200 ≤ r.status && r.status < 300

/-! ### Requests -/

/-- A path without the slashes at its front. -/
def dropFrontSlashes (path : String) : String := String.ofList (path.toList.dropWhile (· = '/'))

/-- A path without the slashes at its two ends. -/
def trimSlashes (path : String) : String := VaultSettings.dropSlashes (dropFrontSlashes path)

/-- The address of a path of the vault, as a text. -/
def addressOf (settings : VaultSettings) (path : String) : String :=
  settings.address ++ "/v1/" ++ dropFrontSlashes path

/-- The text can be sent in a header. -/
def isHeaderText (text : String) : Bool :=
  text.toList.all fun c => c = '\t' || (32 ≤ c.toNat && c.toNat ≠ 127)

/-- Why a request has no reply. -/
inductive NoReply where
  /-- The request cannot be put together. -/
  | unsendable
  /-- No request can be sent to the address. -/
  | unrequestable (url : Url)
  /-- The server at the address does not answer. -/
  | unanswered (url : Url)
  deriving DecidableEq, Repr

/-- What the wording adds about the address. -/
def urlNote (withUrl : Bool) (url : Url) : String :=
  if withUrl then " for url (" ++ url.toText ++ ")" else ""

/-- The wording, with or without the address. -/
def NoReply.message (withUrl : Bool) : NoReply → String
  | unsendable => "builder error"
  | unrequestable url => "builder error" ++ urlNote withUrl url
  | unanswered url => "error sending request" ++ urlNote withUrl url

variable {η : Type} [VaultHost η]

/-- Post a document to a path of the vault. -/
def post (settings : VaultSettings) (path : String) (token : Option String) (body : Json)
    (host : η) :
    Except NoReply Reply × η :=
  match Url.ofText? (addressOf settings path) with
  | none => (.error .unsendable, host)
  | some url =>
    if !(settings.scope.toList ++ token.toList).all isHeaderText then (.error .unsendable, host)
    else if !url.isRequestable then (.error (.unrequestable url), host)
    else
      match VaultHost.send host ⟨url, token, settings.scope, body⟩ with
      | (some reply, host) => (.ok reply, host)
      | (none, host) => (.error (.unanswered url), host)

/-! ### Logging in -/

/-- The token and the lease in seconds that a login gives. -/
def readLogin? (body : String) : Option (String × Nat) := do
  let doc ← (Json.ofText body).bind (Json.record? 1)
  doc.required 0 ["auth"] fun auth => do
    let auth ← auth.record? 2
    let token ← auth.required 0 ["client_token"] Json.text?
    let lease ← auth.withDefault 1 "lease_duration" 0 (Json.natBelow? Word.limit64)
    some (token, lease)

/-- The nanoseconds for which a token is used: nine tenths of its lease in whole seconds, worked out
in 64 bits.  A lease of zero has no end. -/
def useSpan? (lease : Nat) : Option Nat :=
  if lease = 0 then none else some (Span.ofSeconds (min (lease * 9) (Word.limit64 - 1) / 10))

/-- The path at which a service account logs in. -/
def loginPath (mount : String) : String := "auth/" ++ trimSlashes mount ++ "/login"

/-- The document that logs a service account in. -/
def loginBody (role jwt : String) : Json := .obj [("role", .str role), ("jwt", .str jwt)]

/-- Log in. -/
def login (settings : VaultSettings) (role mount tokenPath : String) (host : η) :
    Except StoreError VaultToken × η :=
  match VaultHost.file host tokenPath with
  | (.error reason, host) =>
    (.error (.configuration
      ("failed to read service account token " ++ tokenPath ++ ": " ++ reason)), host)
  | (.ok jwt, host) =>
    match post settings (loginPath mount) none (loginBody role (Text.trim jwt)) host with
    | (.error e, host) =>
      (.error (.authentication ("login request failed: " ++ e.message true)), host)
    | (.ok reply, host) =>
      if reply.isSuccess then
        match readLogin? reply.body with
        | none =>
          (.error (.authentication "malformed login response: error decoding response body"), host)
        | some (token, lease) =>
          let (now, host) := VaultHost.clock host
          (.ok ⟨token, (useSpan? lease).map (now + ·)⟩, host)
      else
        (.error (.authentication ("login with role '" ++ role ++ "' rejected with HTTP " ++
          toString reply.status ++ ": " ++ quoteBody reply.body)), host)

end Vault

namespace VaultStore

variable {η : Type} [VaultHost η]

/-- The token of the last login, if it may still be used. -/
def freshToken (s : VaultStore η) : Option VaultToken × VaultStore η :=
  match s.cached with
  | none => (none, s)
  | some token =>
    let (now, host) := VaultHost.clock s.host
    (if token.isFresh now then some token else none, { s with host := host })

/-- The token for the next request, for which a login may be needed. -/
def token (s : VaultStore η) : Except StoreError (Option String) × VaultStore η :=
  match s.settings.auth with
  | .anonymous => (.ok none, s)
  | .token value => (.ok (some value), s)
  | .serviceAccount role mount tokenPath =>
    match s.freshToken with
    | (some token, s) => (.ok (some token.value), s)
    | (none, s) =>
      match Vault.login s.settings role mount tokenPath s.host with
      | (.error e, host) => (.error e, { s with host := host })
      | (.ok token, host) => (.ok (some token.value), { s with cached := some token, host := host })

/-- The document that carries a secret. -/
def secretBody (s : VaultStore η) (secret : Secret) : Json :=
  .obj [("data", .obj [("password", .str secret.value), ("rotated_by", .str s.settings.rotatedBy)])]

/-- What a reply to a write says.  A token that is not accepted is forgotten. -/
def settle (s : VaultStore η) (path : String) (reply : Vault.Reply) :
    Except StoreError Unit × VaultStore η :=
  if reply.isSuccess then (.ok (), s)
  else if reply.status = 401 ∨ reply.status = 403 then
    (.error (.authentication ("HTTP " ++ toString reply.status ++ " writing '" ++ path ++ "': " ++
      Vault.quoteBody reply.body)), { s with cached := none })
  else (.error (.rejected path reply.status (Vault.quoteBody reply.body)), s)

/-- Write a secret. -/
def write (s : VaultStore η) (path : String) (secret : Secret) :
    Except StoreError Unit × VaultStore η :=
  if Vault.trimSlashes path = "" then (.error (.configuration "empty store path"), s)
  else match s.token with
    | (.error e, s) => (.error e, s)
    | (.ok token, s) =>
      match Vault.post s.settings path token (s.secretBody secret) s.host with
      | (.error e, host) => (.error (.transport path (e.message false)), { s with host := host })
      | (.ok reply, host) => settle { s with host := host } path reply

instance : SecretStore (VaultStore η) := ⟨fun _ => "vault", write⟩

end VaultStore

end CredentialRotation
