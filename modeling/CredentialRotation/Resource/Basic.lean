import CredentialRotation.Policy
import CredentialRotation.Record.Basic
import CredentialRotation.Time.Stamp

/-!
# Resource — Basic

The cluster resource that declares one secret: what the operator asks for (`Spec`), what the last
cycle has left (`Status`), and the part of the metadata that decides when a cycle runs.
-/

namespace CredentialRotation

/-- The metadata that matters here. -/
structure Metadata where
  name : Option String
  /-- The namespace. -/
  scope : Option String
  /-- The number of the current version of the spec. -/
  generation : Option Int
  annotations : List (String × String)
  deriving DecidableEq, Repr

/-- What is asked for. -/
structure Spec where
  rotationInterval : String
  passwordLength : Nat
  includeSymbols : Bool
  storePath : String
  /-- No cycle runs as long as this is set. -/
  suspend : Bool
  deriving DecidableEq, Repr

/-- A condition of a resource. -/
structure Condition where
  type : String
  /-- `True`, `False` or `Unknown`. -/
  status : String
  lastTransitionTime : Option String
  reason : Option String
  message : Option String
  deriving DecidableEq, Repr

/-- What the last cycle has left.  Times are kept as they are written. -/
structure Status where
  lastRotatedTime : Option String
  /-- The name of the phase. -/
  status : Option String
  message : Option String
  /-- The version of the spec that the cycle saw. -/
  observedGeneration : Option Int
  /-- When the next attempt is due. -/
  nextRotationTime : Option String
  /-- The request for a rotation that was last acted on. -/
  lastRotateRequest : Option String
  conditions : List Condition
  deriving DecidableEq, Repr

/-- A resource. -/
structure Resource where
  metadata : Metadata
  spec : Spec
  status : Option Status
  deriving DecidableEq, Repr

/-- The policy that a spec describes. -/
def Spec.policy (s : Spec) : Policy :=
  ⟨s.rotationInterval, s.passwordLength, s.includeSymbols, s.storePath⟩

namespace Status

/-- What is remembered of the last cycle.  A time that cannot be read counts as never. -/
def record (s : Status) : Record :=
  ⟨s.lastRotatedTime.bind Instant.ofText?, s.status.bind Phase.ofName?, s.message⟩

/-- The first condition of the type `Ready`. -/
def readyCondition (s : Status) : Option Condition :=
  s.conditions.find? fun c => c.type = "Ready"

end Status

/-- The part of the metadata that a resource lacks. -/
inductive MissingPart where
  | name
  | scope
  deriving DecidableEq, Repr

/-- The wording for a part that is missing. -/
def MissingPart.message : MissingPart → String
  | name => "SecretRotation is missing metadata.name"
  | scope => "SecretRotation is missing metadata.namespace"

namespace Resource

/-- The annotation by which a rotation out of turn is asked for. -/
def requestAnnotation : String := "rotation.security.io/rotate-requested-at"

/-- The request for a rotation out of turn. -/
def rotateRequest (r : Resource) : Option String := r.metadata.annotations.lookup requestAnnotation

/-- The name under which failures of the resource are counted: namespace, slash, name. -/
def key (r : Resource) : Except MissingPart String :=
  match r.metadata.name, r.metadata.scope with
  | none, _ => .error .name
  | some _, none => .error .scope
  | some name, some scope => .ok (scope ++ "/" ++ name)

/-- What is remembered of the last cycle. -/
def record (r : Resource) : Record := (r.status.map Status.record).getD .blank

/-- The condition `Ready` that the last cycle has left. -/
def readyCondition (r : Resource) : Option Condition := r.status.bind Status.readyCondition

end Resource

end CredentialRotation
