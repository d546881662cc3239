import CredentialRotation.Text.Digit
import CredentialRotation.Text.Split

/-!
# Url — Ipv4

Addresses of four bytes.  They are written as up to four numbers between dots; all but the last are
one byte each, and the last fills the bytes that are left.

**Main statement.**  An address fits its bytes (`lt_of_ofNumbers?`).
-/

namespace CredentialRotation

/-- An address of four bytes. -/
structure Ipv4 where
  value : Nat
  deriving DecidableEq, Repr

namespace Ipv4

open CredentialRotation.Text

/-- A number as it stands in an address: hexadecimal after `0x`, octal after another zero, else
decimal. -/
def number? : List Char → Option Nat
  | [] => none
  | '0' :: c :: rest =>
    if c = 'x' ∨ c = 'X' then numberInFrom? 16 0 rest else numberInFrom? 8 0 (c :: rest)
  | cs => numberInFrom? 10 0 cs

/-- The parts of a name between its dots.  A dot may end it. -/
def parts (cs : List Char) : List (List Char) :=
  let all := splitAll (· = '.') cs
  if all.getLast? = some [] then all.dropLast else all

/-- The name ends in a number, and so can be nothing but an address. -/
def isNumeric (cs : List Char) : Bool :=
  match (parts cs).getLast? with
  | none => false
  | some last =>
    (!last.isEmpty && last.all fun c => (digitValue? c).isSome) || (number? last).isSome

/-- The value of these numbers, when `bytes` bytes are to be filled. -/
def ofNumbers? : Nat → List Nat → Option Nat
  | 0, _ => none
  | _ + 1, [] => none
  | bytes + 1, [last] => if last < Nat.pow 256 (bytes + 1) then some last else none
  | bytes + 1, first :: second :: rest =>
    if first < 256 then
      (ofNumbers? bytes (second :: rest)).map (first * Nat.pow 256 bytes + ·)
    else none

theorem lt_of_ofNumbers? {bytes value : Nat} {numbers : List Nat}
    (h : ofNumbers? bytes numbers = some value) : value < Nat.pow 256 bytes := by
  induction numbers generalizing bytes value with
  | nil => cases bytes <;> cases h
  | cons first rest ih =>
      cases bytes with
      | zero => cases h
      | succ bytes =>
          cases rest with
          | nil =>
              simp only [ofNumbers?] at h
              split at h
              · next hl => cases h; exact hl
              · cases h
          | cons second rest =>
              simp only [ofNumbers?] at h
              split at h
              · next hf =>
                obtain ⟨low, hlow, rfl⟩ := Option.map_eq_some_iff.1 h
                have hlow := ih hlow
                have hpow : Nat.pow 256 (bytes + 1) = Nat.pow 256 bytes * 256 := rfl
                have := Nat.mul_le_mul_right (Nat.pow 256 bytes) (Nat.le_of_lt_succ hf)
                omega
              · cases h

/-- The address that a text writes. -/
def ofText? (cs : List Char) : Option Ipv4 := do
  let numbers ← (parts cs).mapM number?
  let value ← ofNumbers? 4 numbers
  some ⟨value⟩

/-- The address as four numbers between dots. -/
def toText (a : Ipv4) : String :=
  let byte (place : Nat) : String := toString (a.value / place % 256)
  byte 16777216 ++ "." ++ byte 65536 ++ "." ++ byte 256 ++ "." ++ byte 1

end Ipv4

end CredentialRotation
