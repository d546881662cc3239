import CredentialRotation.Json.Basic
import CredentialRotation.Url.Basic

/-!
# Vault — Host

What a client of the vault finds around it: the network, a clock that never goes back, and the file
with the token of a service account.  `ScriptedHost` answers from a script.
-/

namespace CredentialRotation

namespace Vault

/-- A request, which always posts a document. -/
structure Request where
  url : Url
  /-- The token that authenticates the request. -/
  token : Option String
  /-- The namespace that the request names. -/
  scope : Option String
  body : Json

/-- The type of the documents posted. -/
def contentType : String := "application/json"

/-- A reply. -/
structure Reply where
  status : Nat
  body : String
  deriving DecidableEq, Repr

end Vault

/-- The surroundings of a client of the vault. -/
class VaultHost (η : Type) where
  /-- The nanoseconds on the clock. -/
  clock : η → Nat × η
  /-- The text of a file, or why it cannot be read. -/
  file : η → String → Except String String × η
  /-- Send a request; there may be no reply. -/
  send : η → Vault.Request → Option Vault.Reply × η

/-- Surroundings that follow a script. -/
structure ScriptedHost where
  /-- The clock, which moves by a microsecond for each look at it. -/
  time : Nat
  /-- The text of the file with the token, if there is one. -/
  tokenFile : Option String
  /-- The server can be reached. -/
  reachable : Bool
  /-- The replies to come; none where the connection is closed.  After these every reply is 204. -/
  replies : List (Option Vault.Reply)
  /-- The requests that reached the server, the latest last. -/
  requests : List Vault.Request

namespace ScriptedHost

/-- Send a request. -/
def send (h : ScriptedHost) (request : Vault.Request) : Option Vault.Reply × ScriptedHost :=
  if h.reachable then
    (h.replies.headD (some ⟨204, ""⟩),
      { h with replies := h.replies.tail, requests := h.requests ++ [request] })
  else (none, h)

/-- Why a file that is not there cannot be read. -/
def noFile : String := "No such file or directory (os error 2)"

instance : VaultHost ScriptedHost where
  clock h := (h.time, { h with time := h.time + 1000 })
  file h _ := match h.tokenFile with
    | some text => (.ok text, h)
    | none => (.error noFile, h)
  send := send

end ScriptedHost

end CredentialRotation
