import CredentialRotation.Text.Digit

/-!
# Url — Percent

Percent signs.  A character that may not stand in a part of an address is written by the bytes of
its UTF-8 form, each as two hexadecimal digits after a percent sign.
-/

namespace CredentialRotation.Url

open CredentialRotation.Text

/-- A byte after a percent sign. -/
def percentByte (b : UInt8) : List Char :=
  let digit (n : Nat) : Char := (Nat.digitChar n).toUpper
  ['%', digit (b.toNat / 16), digit (b.toNat % 16)]

/-- A text in which the characters that are escaped, and all that are not ASCII or do not print, are
written by their bytes. -/
def percentEncode (escaped : Char → Bool) (cs : List Char) : List Char :=
  cs.flatMap fun c =>
    if escaped c || 126 < c.toNat || c.toNat < 32 then (String.utf8EncodeChar c).flatMap percentByte
    else [c]

/-- The byte that two hexadecimal digits write. -/
def hexByte? (high low : Char) : Option UInt8 :=
  match hexValue? high, hexValue? low with
  | some high, some low => some (UInt8.ofNat (16 * high + low))
  | _, _ => none

/-- The bytes that a text writes.  A percent sign with no byte after it stands for itself. -/
def percentDecode : List Char → List UInt8
  | '%' :: high :: low :: rest =>
    match hexByte? high low with
    | some b => b :: percentDecode rest
    | none => String.utf8EncodeChar '%' ++ percentDecode (high :: low :: rest)
  | c :: rest => String.utf8EncodeChar c ++ percentDecode rest
  | [] => []

/-- The text that another writes with percent signs. -/
def percentDecode? (cs : List Char) : Option (List Char) :=
  (String.fromUTF8? ⟨(percentDecode cs).toArray⟩).map String.toList

end CredentialRotation.Url
