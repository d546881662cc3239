import CredentialRotation.Json.Basic

/-!
# Json — Printer

A JSON value as text on one line without blanks.
-/

namespace CredentialRotation.Json

/-- The four hexadecimal digits of a code point below 2 ^ 16. -/
def hexQuad (code : Nat) : List Char :=
  [code / 4096 % 16, code / 256 % 16, code / 16 % 16, code % 16].map Nat.digitChar

/-- One character as it stands in a string. -/
def escape (c : Char) : List Char :=
  if c = '"' ∨ c = '\\' then ['\\', c]
  else if c.toNat < 0x20 then ['\\', 'u'] ++ hexQuad c.toNat
  else [c]

/-- A string between its quotes. -/
def printText (text : String) : List Char := '"' :: text.toList.flatMap escape ++ ['"']

mutual

/-- The characters of a value. -/
def print : Json → List Char
  | .null => "null".toList
  | .bool true => "true".toList
  | .bool false => "false".toList
  | .int n => (toString n).toList
  | .real literal => literal.toList
  | .str text => printText text
  | .arr items => '[' :: printItems items ++ [']']
  | .obj fields => '\x7b' :: printFields fields ++ ['\x7d']

/-- The items of a list with commas between them. -/
def printItems : List Json → List Char
  | [] => []
  | [item] => print item
  | item :: rest => print item ++ ',' :: printItems rest

/-- The fields of an object with commas between them. -/
def printFields : List (String × Json) → List Char
  | [] => []
  | [(name, value)] => printText name ++ ':' :: print value
  | (name, value) :: rest => printText name ++ ':' :: print value ++ ',' :: printFields rest

end

/-- The value as text. -/
def toText (value : Json) : String := String.ofList value.print

end CredentialRotation.Json
