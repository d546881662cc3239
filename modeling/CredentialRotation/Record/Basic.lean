import CredentialRotation.Time.Instant

/-!
# Record — Basic

What is remembered of a secret between two cycles: when it was last rotated, and how the last cycle
ended.
-/

namespace CredentialRotation

/-- How a cycle ended. -/
inductive Phase where
  /-- The secret was rotated. -/
  | ready
  /-- No password could be drawn. -/
  | generationError
  /-- The store did not take the password. -/
  | storeError
  /-- The policy is malformed. -/
  | configError
  deriving DecidableEq, Repr

namespace Phase

/-- The name of the phase. -/
def name : Phase → String
  | ready => "Ready"
  | generationError => "GenerationError"
  | storeError => "StoreError"
  | configError => "ConfigError"

/-- The phase of that name. -/
def ofName? (name : String) : Option Phase :=
  [ready, generationError, storeError, configError].find? fun phase => phase.name = name

/-- What is said of a name that no phase has. -/
def unknown (name : String) : String := "unknown rotation status '" ++ name ++ "'"

theorem ofName?_name (phase : Phase) : ofName? phase.name = some phase := by
  cases phase <;> decide

theorem name_of_ofName? {name : String} {phase : Phase} (h : ofName? name = some phase) :
    phase.name = name := by
  simpa using List.find?_some h

/-- The cycle failed. -/
def isError : Phase → Bool
  | ready => false
  | generationError | storeError | configError => true

end Phase

/-- What is remembered between two cycles. -/
structure Record where
  /-- When the secret was last written to the store. -/
  rotatedAt : Option Instant
  /-- How the last cycle ended. -/
  phase : Option Phase
  /-- A description of that; it never holds a secret. -/
  message : Option String
  deriving DecidableEq, Repr

namespace Record

/-- Nothing is remembered. -/
def blank : Record := ⟨none, none, none⟩

/-- The record after a cycle that did not rotate the secret. -/
def failed (r : Record) (phase : Phase) (message : String) : Record :=
  { r with phase := some phase, message := some message }

@[simp] theorem rotatedAt_failed (r : Record) (phase : Phase) (message : String) :
    (r.failed phase message).rotatedAt = r.rotatedAt := rfl

/-- The record after a cycle that rotated the secret at `now`. -/
def rotated (now : Instant) (message : String) : Record := ⟨some now, some .ready, some message⟩

end Record

end CredentialRotation
