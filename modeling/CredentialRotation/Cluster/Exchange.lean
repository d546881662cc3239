import CredentialRotation.Json.Merge
import CredentialRotation.Json.Reader

/-!
# Cluster — Exchange

Requests to the cluster and the replies to them.  `ClusterApi` is what answers; there is one that
follows a script (`ScriptedApi`) and one that keeps a single document and applies merge patches to
it (`DocumentApi`).
-/

namespace CredentialRotation

namespace Cluster

/-- What a request asks for. -/
inductive Action where
  | read
  /-- Change a resource by a merge patch. -/
  | patch (change : Json)

/-- A request. -/
structure Request where
  path : String
  action : Action

/-- How a change is written. -/
def patchType : String := "application/merge-patch+json"

/-- The method of a request. -/
def Action.method : Action → String
  | read => "GET"
  | patch _ => "PATCH"

/-- A reply: its status code, and its body if that is a JSON text. -/
structure Reply where
  status : Nat
  body : Option Json

/-- A reply with a text as its body. -/
def Reply.ofText (status : Nat) (text : String) : Reply := ⟨status, Json.ofText text⟩

/-- The reply to a request that failed. -/
def Reply.failed (status : Nat) : Reply :=
  ⟨status, some (.obj [("kind", .str "Status"), ("apiVersion", .str "v1"), ("metadata", .obj []),
    ("status", .str "Failure"), ("code", .int status)])⟩

end Cluster

/-- What answers requests to the cluster. -/
class ClusterApi (κ : Type) where
  send : κ → Cluster.Request → Cluster.Reply × κ

/-- Replies in the order of a script, and after them failures. -/
structure ScriptedApi where
  replies : List Cluster.Reply
  /-- The requests so far, the latest last. -/
  requests : List Cluster.Request

namespace ScriptedApi

/-- Answer a request. -/
def send (a : ScriptedApi) (request : Cluster.Request) : Cluster.Reply × ScriptedApi :=
  (a.replies.headD (.failed 500), ⟨a.replies.tail, a.requests ++ [request]⟩)

instance : ClusterApi ScriptedApi := ⟨send⟩

end ScriptedApi

/-- One document, to which merge patches are applied. -/
structure DocumentApi where
  document : Json
  /-- The status codes of the replies to come.  Only with 200 is a request carried out; after these
  every reply is such a one. -/
  statuses : List Nat
  /-- The requests so far, the latest last. -/
  requests : List Cluster.Request

namespace DocumentApi

/-- What is left of the document by a request that is carried out. -/
def carryOut (document : Json) : Cluster.Action → Json
  | .read => document
  | .patch change => document.merge change

/-- Answer a request. -/
def send (a : DocumentApi) (request : Cluster.Request) : Cluster.Reply × DocumentApi :=
  let status := a.statuses.headD 200
  let document := if status = 200 then carryOut a.document request.action else a.document
  (if status = 200 then ⟨200, some document⟩ else .failed status,
    ⟨document, a.statuses.tail, a.requests ++ [request]⟩)

instance : ClusterApi DocumentApi := ⟨send⟩

theorem document_send_of_refused {a : DocumentApi} (h : a.statuses.headD 200 ≠ 200)
    (request : Cluster.Request) : (a.send request).2.document = a.document := by
  simp only [send]
  exact if_neg h

end DocumentApi

end CredentialRotation
