/-!
# Word

Numbers that are held in a fixed number of bits lie below a power of two.  The powers that matter
here are given by their digits.
-/

namespace CredentialRotation.Word

/-- The first number that 16 bits do not hold. -/
abbrev limit16 : Nat := 65536

/-- The first number that 32 bits do not hold. -/
abbrev limit32 : Nat := 4294967296

/-- The first number that 64 bits do not hold where one of them is the sign. -/
abbrev limit63 : Nat := 9223372036854775808

/-- The first number that 64 bits do not hold. -/
abbrev limit64 : Nat := 18446744073709551616

/-- The first number that 128 bits do not hold. -/
abbrev limit128 : Nat := 340282366920938463463374607431768211456

theorem limits_eq_pow :
    limit16 = Nat.pow 2 16 ∧ limit32 = Nat.pow 2 32 ∧ limit63 = Nat.pow 2 63 ∧
      limit64 = Nat.pow 2 64 ∧ limit128 = Nat.pow 2 128 :=
  ⟨rfl, rfl, rfl, rfl, rfl⟩

theorem limit32_pos : 0 < limit32 := by decide

/-- The number fits in 64 bits, one of which is the sign. -/
def HoldsSigned (n : Int) : Prop := -limit63 ≤ n ∧ n < limit63

instance (n : Int) : Decidable (HoldsSigned n) := by
  unfold HoldsSigned
  infer_instance

end CredentialRotation.Word
