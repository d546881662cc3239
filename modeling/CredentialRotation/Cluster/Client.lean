import CredentialRotation.Cluster.Exchange
import CredentialRotation.Failure
import CredentialRotation.Resource.Document
import CredentialRotation.Target

/-!
# Cluster — Client

Reading, listing and changing resources of the cluster.  A request without a name or with a target
that is not well formed is not sent.  Of a reply, status codes from 400 to 599 are failures; any
other has to hold what was asked for.
-/

namespace CredentialRotation.Cluster

variable {κ : Type} [ClusterApi κ]

/-- The path of the resources of one namespace, or of all. -/
def collection : Option String → String
  | some scope => "/apis/rotation.security.io/v1alpha1/namespaces/" ++ scope ++ "/secretrotations"
  | none => "/apis/rotation.security.io/v1alpha1/secretrotations"

/-- A failed request that was not sent or not answered as it should be. -/
def failure (text : String) : Failure := .root text

/-- Send a request and read the body of the reply. -/
def request {α : Type} (read : Json → Option α) (target : String) (action : Action) (api : κ) :
    Except Failure α × κ :=
  match Target.path? target with
  | none => (.error (failure "the request target is not well formed"), api)
  | some path =>
    let (reply, api) := ClusterApi.send api ⟨path, action⟩
    if 400 ≤ reply.status ∧ reply.status < 600 then
      (.error (failure ("the request failed with HTTP " ++ toString reply.status)), api)
    else match reply.body.bind read with
      | some value => (.ok value, api)
      | none => (.error (failure "the reply is not what was asked for"), api)

/-- Send a request about the resource of a name. -/
def requestNamed {α : Type} (read : Json → Option α) (scope name part : String) (action : Action)
    (api : κ) : Except Failure α × κ :=
  if name = "" then (.error (failure "a resource has to be named"), api)
  else request read (collection (some scope) ++ "/" ++ name ++ part ++ "?") action api

/-- Read a resource. -/
def get (scope name : String) (api : κ) : Except Failure Resource × κ :=
  requestNamed Resource.ofJson? scope name "" .read api

/-- Change a resource by a merge patch. -/
def patch (scope name : String) (change : Json) (api : κ) : Except Failure Resource × κ :=
  requestNamed Resource.ofJson? scope name "" (.patch change) api

/-- Change the status of a resource by a merge patch. -/
def patchStatus (scope name : String) (change : Json) (api : κ) : Except Failure Resource × κ :=
  requestNamed Resource.ofJson? scope name "/status" (.patch change) api

/-- The metadata of a list is an object whose texts are texts. -/
def isListMetadata (doc : Json) : Bool :=
  match doc with
  | .obj _ =>
    (doc.optional 0 "resourceVersion" Json.text?).isSome
      && (doc.optional 0 "continue" Json.text?).isSome
      && (doc.optional 0 "selfLink" Json.text?).isSome
      && (doc.optional 0 "remainingItemCount" Json.int64?).isSome
  | _ => false

/-- The resources of a list. -/
def items? : Json → Option (List Resource)
  | .obj fields => do
    let doc := Json.obj fields
    guard ((doc.withDefault 0 "metadata" true fun value => some (isListMetadata value)) = some true)
    let items ← doc.required 0 ["items"] (Json.nullable (Json.list? Resource.ofJson?))
    some (items.getD [])
  | _ => none

/-- The resources of one namespace, or of all. -/
def list (scope : Option String) (api : κ) : Except Failure (List Resource) × κ :=
  request items? (collection scope ++ "?") .read api

end CredentialRotation.Cluster
