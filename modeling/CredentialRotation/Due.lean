import CredentialRotation.Time.Instant

/-!
# Due

Whether a secret has to be rotated now, or how long that can wait.

**Main statement.**  An interval is over exactly if no less than its length has passed
(`decide_eq_rotateNow_iff`).
-/

namespace CredentialRotation

/-- What to do with a secret now. -/
inductive Due where
  | rotateNow
  /-- Nothing is to be done for so many nanoseconds. -/
  | waitFor (span : Nat)
  deriving DecidableEq, Repr

namespace Due

/-- A secret that was never rotated is due; any other is due when `interval` has passed since.  A
rotation that lies in the future counts as one of this moment. -/
def decide (interval : Nat) (last : Option Instant) (now : Instant) : Due :=
  match last with
  | none => rotateNow
  | some last =>
    let elapsed := now.elapsed last
    if interval ≤ elapsed then rotateNow else waitFor (interval - elapsed)

@[simp] theorem decide_none (interval : Nat) (now : Instant) :
    decide interval none now = rotateNow := rfl

theorem decide_eq_rotateNow_iff {interval : Nat} {last now : Instant} :
    decide interval (some last) now = rotateNow ↔ interval ≤ now.elapsed last := by
  simp only [decide]
  split
  · next h => exact ⟨fun _ => h, fun _ => rfl⟩
  · next h => exact ⟨fun he => (nomatch he), fun hle => absurd hle h⟩

theorem decide_eq_waitFor_iff {interval wait : Nat} {last now : Instant} :
    decide interval (some last) now = waitFor wait ↔
      now.elapsed last < interval ∧ wait = interval - now.elapsed last := by
  simp only [decide]
  split
  · next h => exact ⟨fun he => (nomatch he), fun ⟨hlt, _⟩ => absurd hlt (Nat.not_lt_of_le h)⟩
  · next h =>
    rw [waitFor.injEq]
    exact ⟨fun he => ⟨Nat.lt_of_not_le h, he.symm⟩, fun ⟨_, he⟩ => he.symm⟩

end Due

end CredentialRotation
