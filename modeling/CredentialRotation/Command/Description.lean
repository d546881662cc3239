import CredentialRotation.Interval.Reading
import CredentialRotation.Resource.Basic

/-!
# Command — Description

One resource in full: what is asked for, and what the last cycle has left.
-/

namespace CredentialRotation.Command

/-- A truth value. -/
def flag (value : Bool) : String := if value then "true" else "false"

/-- A line for a value that may be absent. -/
def line? (label : String) (value : Option String) : List String :=
  match value with
  | some value => [label ++ value]
  | none => []

/-- The line about the interval; `none` if reading it gets stuck. -/
def intervalLine? (interval : String) : Option String :=
  match Interval.read interval with
  | .span d =>
    some ("  Rotation Interval: " ++ interval ++ " (" ++ toString (Span.seconds d) ++ "s)")
  | .refused reason =>
    some ("  Rotation Interval: " ++ interval ++ " (invalid: " ++ reason.message ++ ")")
  | .stuck => none

/-- The lines about the rest of what is asked for. -/
def specLines (s : Spec) : List String :=
  ["  Password Length: " ++ toString s.policy.effectiveLength,
    "  Include Symbols: " ++ flag s.includeSymbols, "  Store Path: " ++ s.storePath,
    "  Suspend: " ++ flag s.suspend]

/-- The lines about a condition. -/
def conditionLines (c : Condition) : List String :=
  ["  " ++ c.type ++ ": " ++ c.status] ++ line? "    Reason: " c.reason ++
    line? "    Last Transition: " c.lastTransitionTime

/-- The lines about a status. -/
def statusLines (s : Status) : List String :=
  ["", "Status:", "  Status: " ++ s.status.getD "Pending"] ++ line? "  Message: " s.message ++
    ["  Last Rotated: " ++ s.lastRotatedTime.getD "never"] ++
    line? "  Next Attempt: " s.nextRotationTime ++
    line? "  Last Rotate Request: " s.lastRotateRequest ++
    line? "  Observed Generation: " (s.observedGeneration.map toString) ++
    if s.conditions = [] then [] else ["", "Conditions:"] ++ s.conditions.flatMap conditionLines

/-- The lines where there is no status. -/
def noStatusLines : List String :=
  ["", "Status: No status available (resource may not have been reconciled yet)"]

/-- The lines that present a resource under a title; `none` if reading its interval gets stuck. -/
def description? (title : String) (r : Resource) : Option (List String) :=
  (intervalLine? r.spec.rotationInterval).map fun line =>
    ["Status for SecretRotation '" ++ title ++ "'", "", "Spec:", line] ++ specLines r.spec ++
      (r.status.map statusLines).getD noStatusLines

end CredentialRotation.Command
