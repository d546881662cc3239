/-!
# Failure

A failure with what it was caused by: the outermost description first, the cause at the root last.
-/

namespace CredentialRotation

/-- A description of a failure and the descriptions of its causes. -/
structure Failure where
  outermost : String
  causes : List String
  deriving DecidableEq, Repr

namespace Failure

/-- A failure without a further cause. -/
def root (text : String) : Failure := ⟨text, []⟩

/-- The failure described from further outside. -/
def within (f : Failure) (text : String) : Failure := ⟨text, f.outermost :: f.causes⟩

/-- All the descriptions on one line. -/
def chain (f : Failure) : String := ": ".intercalate (f.outermost :: f.causes)

end Failure

end CredentialRotation
