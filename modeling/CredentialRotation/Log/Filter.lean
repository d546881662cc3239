import CredentialRotation.Text.Blank
import CredentialRotation.Text.Lowercase

/-!
# Log — Filter

Which events are logged.  The name of a level is about the operator alone; any other text is a
filter of its own.
-/

namespace CredentialRotation.Log

/-- What the filters of the operator are about. -/
def target : String := "secret_rotator"

/-- The levels. -/
def levels : List String := ["error", "warn", "info", "debug", "trace"]

/-- The filter for a level, or for what is given in place of one. -/
def filter (level : String) : String :=
  let level := String.ofList (Text.lowercase (Text.trim level).toList)
  if level = "" then target ++ "=info"
  else if levels.contains level then target ++ "=" ++ level
  else level

end CredentialRotation.Log
