import CredentialRotation.Definition.Schema

/-!
# Definition — Resource

The definition by which the cluster learns of the resource that declares a secret: its names, the
columns in which it is shown, and what its spec and its status may hold.
-/

namespace CredentialRotation.Definition

/-- A value that may be absent or `null`. -/
def nullable (description : Option String) : Remarks := ⟨description, true, none⟩

/-- A value that has to be there. -/
def needed (description : String) : Remarks := ⟨some description, false, none⟩

/-- A value that stands for `absent` where it is not there. -/
def preset (description absent : String) : Remarks :=
  ⟨some description, false, some (.literal absent)⟩

/-- What the spec is about. -/
def specAbout : String :=
  "SecretRotation Custom Resource Definition\n\n" ++
    "Declares one password that the operator regenerates every\n" ++
    "\x60rotationInterval\x60 and writes to Vault at \x60storePath\x60.\n\n" ++
    "# Example\n\n" ++
    "\x60\x60\x60yaml\n" ++
    "apiVersion: rotation.security.io/v1alpha1\n" ++
    "kind: SecretRotation\n" ++
    "metadata:\n" ++
    "  name: orders-db\n" ++
    "  namespace: payments\n" ++
    "spec:\n" ++
    "  rotationInterval: 24h\n" ++
    "  passwordLength: 32\n" ++
    "  includeSymbols: true\n" ++
    "  storePath: secret/data/payments/orders-db\n" ++
    "\x60\x60\x60"

/-- What the spec may hold. -/
def spec : Schema :=
  .record (needed specAbout)
    [("includeSymbols",
        .flag (preset "Add punctuation symbols to the alphanumeric alphabet" "false")),
      ("passwordLength",
        .integer (preset "Length of generated passwords; 0 or unset means 16" "0") "uint32"
          (some "0.0")),
      ("rotationInterval",
        .text (needed "How often to rotate, e.g. \"30m\", \"24h\", \"7d\", \"1h30m\"")),
      ("storePath",
        .text (needed "Vault path the password is written to (KV v2: include \x60data/\x60)")),
      ("suspend", .flag (preset "Skip rotation until cleared" "false"))]
    ["rotationInterval", "storePath"]

/-- What a condition may hold. -/
def condition : Schema :=
  .record (needed "Condition represents a condition of a resource")
    [("lastTransitionTime", .text (nullable none)), ("message", .text (nullable none)),
      ("reason", .text (nullable none)), ("status", .text (needed "True, False, Unknown")),
      ("type", .text (needed "Type of condition"))]
    ["status", "type"]

/-- What the status may hold. -/
def status : Schema :=
  .record (nullable (some "Status of the SecretRotation resource"))
    [("conditions", .list ⟨none, false, some (.list [])⟩ condition),
      ("lastRotateRequest",
        .text (nullable (some "Value of the rotate-request annotation last acted on"))),
      ("lastRotatedTime",
        .text (nullable (some "Time of the last successful store write (RFC3339)"))),
      ("message", .text (nullable (some "Human-readable description of the last outcome"))),
      ("nextRotationTime",
        .text (nullable (some
          ("When the next rotation attempt is due (RFC3339): the interval after a\n" ++
            "success, the retry delay after a store or generation failure")))),
      ("observedGeneration", .integer (nullable none) "int64" none),
      ("status",
        .text (nullable (some
          "Outcome of the last cycle: Ready, GenerationError, StoreError, ConfigError")))]
    []

/-- What a resource may hold. -/
def resource : Yaml :=
  .record
    [("description",
        .text "Auto-generated derived type for SecretRotationSpec via \x60CustomResource\x60"),
      ("properties", .record (Schema.fieldsYaml [("spec", spec), ("status", status)])),
      ("required", .list [.text "spec"]), ("title", .text "SecretRotation"),
      ("type", .text "object")]

/-- A column in which a resource is shown. -/
def column (name path : String) : Yaml :=
  .record [("jsonPath", .text path), ("name", .text name), ("type", .text "string")]

/-- The columns in which a resource is shown. -/
def columns : List Yaml :=
  [column "Interval" ".spec.rotationInterval", column "Status" ".status.status",
    column "Last Rotated" ".status.lastRotatedTime",
    column "Ready" ".status.conditions[?(@.type==\"Ready\")].status"]

/-- The one version of the definition. -/
def version : Yaml :=
  .record
    [("additionalPrinterColumns", .list columns), ("name", .text "v1alpha1"),
      ("schema", .record [("openAPIV3Schema", resource)]), ("served", .literal "true"),
      ("storage", .literal "true"), ("subresources", .record [("status", .record [])])]

/-- The names of the resource. -/
def names : Yaml :=
  .record
    [("categories", .list []), ("kind", .text "SecretRotation"),
      ("plural", .text "secretrotations"), ("shortNames", .list [.text "rot"]),
      ("singular", .text "secretrotation")]

/-- The definition. -/
def document : Yaml :=
  .record
    [("apiVersion", .text "apiextensions.k8s.io/v1"), ("kind", .text "CustomResourceDefinition"),
      ("metadata", .record [("name", .text "secretrotations.rotation.security.io")]),
      ("spec", .record
        [("group", .text "rotation.security.io"), ("names", names), ("scope", .text "Namespaced"),
          ("versions", .list [version])])]

end CredentialRotation.Definition
