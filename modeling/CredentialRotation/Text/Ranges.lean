/-!
# Text — Ranges

A class of characters is a list of inclusive ranges of code points, the form in which the Unicode
character database publishes its properties.
-/

namespace CredentialRotation.Text

/-- A class of characters, as inclusive ranges of code points. -/
abbrev Ranges := List (Nat × Nat)

/-- The code point of `c` lies in one of the ranges. -/
def Ranges.covers (ranges : Ranges) (c : Char) : Bool :=
  ranges.any fun range => decide (range.1 ≤ c.toNat) && decide (c.toNat ≤ range.2)

theorem Ranges.covers_iff (ranges : Ranges) (c : Char) :
    ranges.covers c = true ↔ ∃ range ∈ ranges, range.1 ≤ c.toNat ∧ c.toNat ≤ range.2 := by
  simp [Ranges.covers]

end CredentialRotation.Text
