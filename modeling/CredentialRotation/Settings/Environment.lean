import CredentialRotation.Text.Blank
import CredentialRotation.Text.Digit
import CredentialRotation.Word

/-!
# Settings — Environment

Settings come from environment variables.  A number that cannot be read counts as not given, and so
does, where it matters, a text that is blank.
-/

namespace CredentialRotation

/-- The value of each environment variable that is set. -/
abbrev Environment := String → Option String

namespace Environment

/-- A number below `limit`, or `absent` where none is given. -/
def number (env : Environment) (name : String) (limit absent : Nat) : Nat :=
  ((env name).bind fun value => Text.unsignedBelow? limit (Text.trim value).toList).getD absent

/-- A number of 64 bits, or `absent` where none is given. -/
def word (env : Environment) (name : String) (absent : Nat) : Nat :=
  env.number name Word.limit64 absent

/-- A text as it is given, or `absent`. -/
def text (env : Environment) (name absent : String) : String := (env name).getD absent

/-- A text without the blanks around it, unless nothing is left of it. -/
def solid? (env : Environment) (name : String) : Option String :=
  ((env name).map Text.trim).filter fun value => value ≠ ""

end Environment

end CredentialRotation
