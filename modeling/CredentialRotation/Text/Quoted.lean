import CredentialRotation.Text.Printable

/-!
# Text — Quoted

Text between double quotes for a log line: the quote, the backslash and the usual controls are
escaped by a letter, everything that does not show by itself by its code point in braces.
-/

namespace CredentialRotation.Text

/-- Which of the two quotation marks are escaped. -/
inductive Quoting where
  /-- Only the double quote, which delimits the text. -/
  | double
  /-- Both quotes, as file names are shown. -/
  | both
  deriving DecidableEq

/-- The code point of `c` in lower-case hexadecimal digits. -/
def hexCode (c : Char) : List Char := Nat.toDigits 16 c.toNat

/-- One character as it stands between the quotes. -/
def Quoting.escape (quoting : Quoting) (c : Char) : List Char :=
  if c = '\x00' then ['\\', '0']
  else if c = '\t' then ['\\', 't']
  else if c = '\r' then ['\\', 'r']
  else if c = '\n' then ['\\', 'n']
  else if c = '\\' ∨ c = '"' ∨ (c = '\x27' ∧ quoting = .both) then ['\\', c]
  else if showsAlone c then [c]
  else ['\\', 'u', '\x7b'] ++ hexCode c ++ ['\x7d']

/-- The text between double quotes. -/
def Quoting.quote (quoting : Quoting) (s : String) : String :=
  String.ofList ('"' :: s.toList.flatMap quoting.escape ++ ['"'])

end CredentialRotation.Text
