import CredentialRotation.Text.Ranges

/-!
# Text — Digit

Notions of a digit.  `isDecimalDigit` is the Unicode category `Nd`, which holds the digits of every
script; `digitValue?` knows the ten ASCII digits and is what numbers are read with; `hexValue?`
knows the sixteen of hexadecimal numbers.

**Main statements.**  An ASCII digit is a decimal digit (`isDecimalDigit_of_digitValue?`).
-/

namespace CredentialRotation.Text

/-- The general category `Nd`. -/
def decimalDigitRanges : Ranges :=
  [
    (0x0030, 0x0039), (0x0660, 0x0669), (0x06F0, 0x06F9), (0x07C0, 0x07C9), (0x0966, 0x096F),
    (0x09E6, 0x09EF), (0x0A66, 0x0A6F), (0x0AE6, 0x0AEF), (0x0B66, 0x0B6F), (0x0BE6, 0x0BEF),
    (0x0C66, 0x0C6F), (0x0CE6, 0x0CEF), (0x0D66, 0x0D6F), (0x0DE6, 0x0DEF), (0x0E50, 0x0E59),
    (0x0ED0, 0x0ED9), (0x0F20, 0x0F29), (0x1040, 0x1049), (0x1090, 0x1099), (0x17E0, 0x17E9),
    (0x1810, 0x1819), (0x1946, 0x194F), (0x19D0, 0x19D9), (0x1A80, 0x1A89), (0x1A90, 0x1A99),
    (0x1B50, 0x1B59), (0x1BB0, 0x1BB9), (0x1C40, 0x1C49), (0x1C50, 0x1C59), (0xA620, 0xA629),
    (0xA8D0, 0xA8D9), (0xA900, 0xA909), (0xA9D0, 0xA9D9), (0xA9F0, 0xA9F9), (0xAA50, 0xAA59),
    (0xABF0, 0xABF9), (0xFF10, 0xFF19), (0x104A0, 0x104A9), (0x10D30, 0x10D39), (0x10D40, 0x10D49),
    (0x11066, 0x1106F), (0x110F0, 0x110F9), (0x11136, 0x1113F), (0x111D0, 0x111D9),
    (0x112F0, 0x112F9), (0x11450, 0x11459), (0x114D0, 0x114D9), (0x11650, 0x11659),
    (0x116C0, 0x116C9), (0x116D0, 0x116E3), (0x11730, 0x11739), (0x118E0, 0x118E9),
    (0x11950, 0x11959), (0x11BF0, 0x11BF9), (0x11C50, 0x11C59), (0x11D50, 0x11D59),
    (0x11DA0, 0x11DA9), (0x11F50, 0x11F59), (0x16130, 0x16139), (0x16A60, 0x16A69),
    (0x16AC0, 0x16AC9), (0x16B50, 0x16B59), (0x16D70, 0x16D79), (0x1CCF0, 0x1CCF9),
    (0x1D7CE, 0x1D7FF), (0x1E140, 0x1E149), (0x1E2F0, 0x1E2F9), (0x1E4F0, 0x1E4F9),
    (0x1E5F1, 0x1E5FA), (0x1E950, 0x1E959), (0x1FBF0, 0x1FBF9)]

/-- A decimal digit of any script. -/
def isDecimalDigit (c : Char) : Bool := decimalDigitRanges.covers c

/-- The value of an ASCII digit. -/
def digitValue? (c : Char) : Option Nat :=
  if 48 ≤ c.toNat ∧ c.toNat ≤ 57 then some (c.toNat - 48) else none

/-- The value of a hexadecimal digit. -/
def hexValue? (c : Char) : Option Nat :=
  if 48 ≤ c.toNat ∧ c.toNat ≤ 57 then some (c.toNat - 48)
  else if 65 ≤ c.toNat ∧ c.toNat ≤ 70 then some (c.toNat - 55)
  else if 97 ≤ c.toNat ∧ c.toNat ≤ 102 then some (c.toNat - 87)
  else none

/-- The ASCII digit of a value below ten. -/
def digitChar (n : Nat) : Char := Char.ofNat (48 + n)

theorem digitValue?_digitChar {n : Nat} (h : n < 10) : digitValue? (digitChar n) = some n := by
  have : n = 0 ∨ n = 1 ∨ n = 2 ∨ n = 3 ∨ n = 4 ∨ n = 5 ∨ n = 6 ∨ n = 7 ∨ n = 8 ∨ n = 9 := by omega
  rcases this with rfl | rfl | rfl | rfl | rfl | rfl | rfl | rfl | rfl | rfl <;> decide

theorem isDecimalDigit_of_digitValue? {c : Char} {n : Nat} (h : digitValue? c = some n) :
    isDecimalDigit c = true := by
  rw [digitValue?] at h
  split at h
  · next hc => exact (Ranges.covers_iff _ _).2 ⟨(0x30, 0x39), by simp [decimalDigitRanges], hc⟩
  · cases h

/-! ### Numbers -/

/-- The digits read on from the value `start`, most significant first; `none` at any other
character. -/
def numberFrom? (start : Nat) : List Char → Option Nat
  | [] => some start
  | c :: cs => (digitValue? c).bind fun d => numberFrom? (10 * start + d) cs

/-- The number that one or more ASCII digits write. -/
def number? : List Char → Option Nat
  | [] => none
  | c :: cs => numberFrom? 0 (c :: cs)

/-- The number that hexadecimal digits below `base` write, read on from the value `start`. -/
def numberInFrom? (base start : Nat) : List Char → Option Nat
  | [] => some start
  | c :: cs =>
    match hexValue? c with
    | some d => if d < base then numberInFrom? base (base * start + d) cs else none
    | none => none

/-- A number below `limit`, which a plus sign may precede. -/
def unsignedBelow? (limit : Nat) (cs : List Char) : Option Nat :=
  let digits := match cs with
    | '+' :: rest => rest
    | _ => cs
  (number? digits).filter (· < limit)

/-- The last `width` decimal digits of `n`, with leading zeros. -/
def fixedDigits : Nat → Nat → List Char
  | 0, _ => []
  | width + 1, n => fixedDigits width (n / 10) ++ [digitChar (n % 10)]

@[simp] theorem length_fixedDigits (width n : Nat) : (fixedDigits width n).length = width := by
  induction width generalizing n with
  | zero => rfl
  | succ width ih => simp [fixedDigits, ih]

theorem numberFrom?_append (start : Nat) (cs ds : List Char) :
    numberFrom? start (cs ++ ds) = (numberFrom? start cs).bind (numberFrom? · ds) := by
  induction cs generalizing start with
  | nil => rfl
  | cons c cs ih =>
      simp only [List.cons_append, numberFrom?]
      cases digitValue? c with
      | none => rfl
      | some d => exact ih _

/-- Written digits read back. -/
theorem numberFrom?_fixedDigits (start width n : Nat) :
    numberFrom? start (fixedDigits width n) =
      some (start * Nat.pow 10 width + n % Nat.pow 10 width) := by
  induction width generalizing n with
  | zero => simp [fixedDigits, numberFrom?, Nat.mod_one]
  | succ width ih =>
      rw [fixedDigits, numberFrom?_append, ih]
      simp only [Option.bind_some, numberFrom?, digitValue?_digitChar (Nat.mod_lt n (by omega))]
      have hp : Nat.pow 10 (width + 1) = Nat.pow 10 width * 10 := rfl
      have split : n % (Nat.pow 10 width * 10) = 10 * (n / 10 % Nat.pow 10 width) + n % 10 := by
        rw [Nat.mul_comm _ 10, Nat.mod_mul]
        omega
      rw [hp, split]
      congr 1
      generalize n / 10 % Nat.pow 10 width = q
      have : start * (Nat.pow 10 width * 10) = 10 * (start * Nat.pow 10 width) := by
        rw [← Nat.mul_assoc, Nat.mul_comm]
      omega

end CredentialRotation.Text
