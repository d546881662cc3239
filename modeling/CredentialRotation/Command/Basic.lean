import CredentialRotation.Cluster.Client
import CredentialRotation.Command.Description
import CredentialRotation.Command.Listing
import CredentialRotation.Password.Drawing
import CredentialRotation.Policy

/-!
# Command — Basic

The commands by which people look at secrets and steer their rotation.  Each of them prints lines,
and may fail after some of them.  `rotate` asks for a rotation out of turn by an annotation with the
time; `suspend` and `resume` change a resource only if it is not so already.
-/

namespace CredentialRotation.Command

variable {κ : Type}

/-- Why a command did not come to its end. -/
inductive Stop where
  /-- Reading an interval got stuck. -/
  | stuck
  | failed (reason : Failure)
  deriving DecidableEq, Repr

/-- What a command gives: the lines printed, and how it ended. -/
structure Output where
  lines : List String
  ending : Except Stop Unit

/-- A command that came to its end. -/
def finished (lines : List String) : Output := ⟨lines, .ok ()⟩

/-- A command that failed. -/
def failed (lines : List String) (cause : Failure) (text : String) : Output :=
  ⟨lines, .error (.failed (cause.within text))⟩

/-- The namespace where none is given. -/
def defaultScope : String := "default"

/-- How a resource is called in messages. -/
def title (scope name : String) : String := scope ++ "/" ++ name

/-- The message where a resource cannot be read. -/
def getMessage (scope name : String) : String :=
  "Failed to get SecretRotation '" ++ title scope name ++ "'"

/-- The message where a resource cannot be changed. -/
def patchMessage (scope name : String) : String :=
  "Failed to patch SecretRotation '" ++ title scope name ++ "'"

/-- The first line of a list. -/
def listHeading : Option String → String
  | some scope => "Listing SecretRotation resources in namespace '" ++ scope ++ "'..."
  | none => "Listing SecretRotation resources in all namespaces..."

/-- List the resources of one namespace, or of all. -/
def list [ClusterApi κ] (scope : Option String) (api : κ) : Output × κ :=
  match Cluster.list scope api with
  | (.error cause, api) =>
    (failed [listHeading scope] cause "Failed to list SecretRotation resources", api)
  | (.ok resources, api) => (finished (listHeading scope :: listing resources), api)

/-- Present one resource. -/
def status [ClusterApi κ] (scope name : String) (api : κ) : Output × κ :=
  match Cluster.get scope name api with
  | (.error cause, api) => (failed [] cause (getMessage scope name), api)
  | (.ok resource, api) =>
    match description? (title scope name) resource with
    | some lines => (finished lines, api)
    | none => (⟨[], .error .stuck⟩, api)

/-- The message where a rotation is asked for of a resource that is suspended. -/
def suspendedMessage (scope name : String) : String :=
  "SecretRotation '" ++ title scope name ++ "' is suspended; run \x60rotctl resume " ++
    name ++ " -n " ++ scope ++ "\x60 first"

/-- How a request for a rotation is written: by its time. -/
def requestText (now : Instant) : String := String.ofList (Stamp.chars now .offset)

/-- The change that asks for a rotation. -/
def requestChange (request : String) : Json :=
  .obj [("metadata", .obj [("annotations", .obj [(Resource.requestAnnotation, .str request)])])]

/-- Ask for a rotation. -/
def rotate [ClusterApi κ] (scope name : String) (now : Instant) (api : κ) : Output × κ :=
  match Cluster.get scope name api with
  | (.error cause, api) => (failed [] cause (getMessage scope name), api)
  | (.ok resource, api) =>
    if resource.spec.suspend then
      (⟨[], .error (.failed (.root (suspendedMessage scope name)))⟩, api)
    else match Cluster.patch scope name (requestChange (requestText now)) api with
      | (.error cause, api) => (failed [] cause (patchMessage scope name), api)
      | (.ok _, api) =>
        (finished ["Rotation requested for SecretRotation '" ++ title scope name ++ "' at " ++
          requestText now], api)

/-- The change that suspends or resumes a resource. -/
def suspendChange (suspend : Bool) : Json := .obj [("spec", .obj [("suspend", .bool suspend)])]

/-- Suspend or resume a resource; the answer is whether it was changed. -/
def setSuspend [ClusterApi κ] (scope name : String) (suspend : Bool) (api : κ) :
    Except Failure Bool × κ :=
  match Cluster.get scope name api with
  | (.error cause, api) => (.error (cause.within (getMessage scope name)), api)
  | (.ok resource, api) =>
    if resource.spec.suspend = suspend then (.ok false, api)
    else match Cluster.patch scope name (suspendChange suspend) api with
      | (.error cause, api) => (.error (cause.within (patchMessage scope name)), api)
      | (.ok _, api) => (.ok true, api)

/-- The lines printed before a resource is suspended or resumed. -/
def suspendHeading (scope name : String) (suspend : Bool) : String :=
  (if suspend then "Suspending" else "Resuming") ++ " rotation for SecretRotation '" ++
    title scope name ++ "'..."

/-- The lines printed after it. -/
def suspendLines (scope name : String) (suspend changed : Bool) : List String :=
  match suspend, changed with
  | true, true =>
    ["Rotation suspended", "", "To resume, run:",
      "   rotctl resume " ++ name ++ " --namespace " ++ scope]
  | true, false => ["Resource is already suspended"]
  | false, true => ["Rotation resumed; the operator will reconcile shortly"]
  | false, false => ["Resource is already active (not suspended)"]

/-- Suspend or resume a resource. -/
def suspend [ClusterApi κ] (scope name : String) (suspend : Bool) (api : κ) : Output × κ :=
  let heading := suspendHeading scope name suspend
  match setSuspend scope name suspend api with
  | (.error cause, api) => (⟨[heading], .error (.failed cause)⟩, api)
  | (.ok changed, api) => (finished (heading :: suspendLines scope name suspend changed), api)

/-- Draw a password and print it. -/
def generate (length : Nat) (symbols : Bool) (source : Entropy) : Output × Entropy :=
  let length := if length = 0 then Policy.defaultLength else length
  match Password.draw (.standard symbols) length source with
  | (.error reason, source) =>
    (failed [] (.root reason.message) "Failed to generate password", source)
  | (.ok secret, source) => (finished [secret.value], source)

end CredentialRotation.Command
