/-!
# Password — Alphabet

The characters that a password is drawn from.  They are ASCII, one byte each, so that a password has
as many bytes as characters.  A character may occur more than once and is then drawn more often.
-/

namespace CredentialRotation

/-- The characters that a password is drawn from. -/
structure Alphabet where
  chars : List Char
  deriving DecidableEq, Repr

namespace Alphabet

/-- The ASCII characters of the groups, in order. -/
def ofGroups (groups : List String) : Alphabet :=
  ⟨(groups.flatMap String.toList).filter fun c => c.toNat < 128⟩

/-- The capital letters. -/
def capitals : String := "ABCDEFGHIJKLMNOPQRSTUVWXYZ"

/-- The small letters. -/
def smalls : String := "abcdefghijklmnopqrstuvwxyz"

/-- The decimal digits. -/
def digits : String := "0123456789"

/-- The symbols that a policy may ask for. -/
def symbols : String := "~!@#$%^&*()_+`-=\x7b\x7d|[]\\:\"<>?,./"

/-- Letters and digits, and the symbols too if they are asked for. -/
def standard (withSymbols : Bool) : Alphabet :=
  ofGroups ([capitals, smalls, digits] ++ if withSymbols then [symbols] else [])

/-- The number of characters. -/
def size (a : Alphabet) : Nat := a.chars.length

/-- The alphabet has no character. -/
def isEmpty (a : Alphabet) : Bool := a.chars.isEmpty

/-- The character is in the alphabet. -/
def contains (a : Alphabet) (c : Char) : Bool := a.chars.contains c

theorem toNat_lt_of_mem_ofGroups {groups : List String} {c : Char}
    (h : c ∈ (ofGroups groups).chars) :
    c.toNat < 128 := by
  simpa using (List.mem_filter.1 h).2

end Alphabet

end CredentialRotation
