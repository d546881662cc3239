import CredentialRotation.Target

/-!
# Probe

The requests that the operator answers about itself: its metrics, whether it is alive, and whether
it is ready for work.  What is no request at all has no answer.
-/

namespace CredentialRotation

/-- What is presented on a page. -/
inductive Page where
  | nothing
  | metrics
  deriving DecidableEq, Repr

/-- An answer to a request. -/
structure ProbeAnswer where
  /-- The status code. -/
  status : Nat
  contentType : Option String
  page : Page
  deriving DecidableEq, Repr

namespace Probe

/-- The form in which metrics are presented. -/
def metricsType : String := "text/plain; version=0.0.4; charset=utf-8"

/-- The character may stand in the name of a method. -/
def isMethodChar (c : Char) : Bool := c.isAlphanum || "!#$%&'*+-.^_\x60|~".toList.contains c

/-- The name of a method. -/
def isMethod (method : String) : Bool := method ≠ "" && method.toList.all isMethodChar

/-- The answer to a request that reads the resource at a path, if there is one. -/
def read? (path : String) (ready : Bool) : Option ProbeAnswer :=
  if path = "/metrics" then some ⟨200, some metricsType, .metrics⟩
  else if path = "/healthz" then some ⟨200, none, .nothing⟩
  else if path = "/readyz" then some ⟨if ready then 200 else 503, none, .nothing⟩
  else none

/-- The answer to a request for a path.  To `HEAD` it has no page. -/
def answerAt (method path : String) (ready : Bool) : ProbeAnswer :=
  match read? path ready with
  | none => ⟨404, none, .nothing⟩
  | some reply =>
    if method = "GET" then reply
    else if method = "HEAD" then { reply with page := .nothing }
    else ⟨405, none, .nothing⟩

/-- The answer to a request, if it is one. -/
def answer? (method target : String) (ready : Bool) : Option ProbeAnswer :=
  if isMethod method then (Target.path? target).map (answerAt method · ready) else none

end Probe

end CredentialRotation
