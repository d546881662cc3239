import CredentialRotation.Text.Search

/-!
# Log — Watch

What a watch that failed is taken for, by the text of its error, and what is logged about it.
-/

namespace CredentialRotation

/-- What is behind the failure of a watch. -/
inductive WatchFailure where
  /-- The operator has no access, or no longer. -/
  | unauthorized
  /-- The version to watch from is too old. -/
  | expired
  /-- There is no such object, or no such kind of object. -/
  | notFound
  | other
  deriving DecidableEq, Repr

/-- How much an event matters. -/
inductive Severity where
  | warning
  | error
  deriving DecidableEq, Repr

namespace WatchFailure

/-- Where more than one text is found, the object that is missing goes before the missing access,
and that before the old version. -/
def classify (text : String) : WatchFailure :=
  if Text.holdsAny ["ObjectNotFound", "404", "not found"] text then notFound
  else if Text.holdsAny ["401", "Unauthorized"] text then unauthorized
  else if Text.holdsAny ["410", "too old resource version"] text then expired
  else other

/-- What is logged of a watch that failed. -/
def log (text : String) : Severity × String :=
  match classify text with
  | unauthorized =>
    (.error,
      "Watch authentication failed (401); check the ClusterRole and ServiceAccount bindings " ++
      "for secretrotations: " ++ text)
  | expired => (.warning, "Watch resource version expired (410), watcher will re-list")
  | notFound =>
    (.warning, "SecretRotation or its CRD not found (404); is the CRD installed? " ++ text)
  | other => (.error, "Controller stream error: " ++ text)

end WatchFailure

end CredentialRotation
