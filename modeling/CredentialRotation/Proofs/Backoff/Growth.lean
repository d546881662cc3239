import CredentialRotation.Proofs.Backoff.Bearing
import Mathlib.Data.Nat.Fib.Basic

/-!
# Proofs — Backoff — Growth

How the delays of a run grow.  Each is the sum of the two before it, but the run holds those as they
were cut, at the cap and at what 64 bits hold.  Cutting a sum after its summands were cut is the
same as cutting it once (`min_add_min`).  So the run holds the Fibonacci numbers, times the first
delay, each cut at the cap on its own (`skip_start`), however early the cap was reached.

* `delays_fibonacci`: the closed form of every delay, and what follows from it.
-/

namespace CredentialRotation.Backoff

variable {first cap : Nat}

/-- The first delay of a run, in seconds. -/
def shortest (first : Nat) : Nat := max first 1

/-- The delay that a run does not pass, in seconds. -/
def longest (first cap : Nat) : Nat := max cap (shortest first)

/-- The `n`-th delay where nothing is cut but at the cap, in seconds. -/
def capped (first cap n : Nat) : Nat := min (longest first cap) (shortest first * Nat.fib n)

theorem shortest_le_longest (first cap : Nat) : shortest first ≤ longest first cap :=
  Nat.le_max_right _ _

/-- Bounds that 64 bits hold lead to delays that they hold. -/
theorem longest_le_largest (hfirst : first < Word.limit64) (hcap : cap < Word.limit64) :
    longest first cap ≤ largest := by
  simp only [longest, shortest, largest, Word.limit64] at *
  omega

/-! ### Cutting -/

/-- A sum of what was cut before is cut to the same. -/
theorem min_add_min (bound a b : Nat) :
    min bound (min bound a + min bound b) = min bound (a + b) := by
  omega

theorem capped_zero (first cap : Nat) : capped first cap 0 = 0 := by
  rw [capped, Nat.fib_zero, Nat.mul_zero, Nat.min_zero]

theorem capped_one (first cap : Nat) : capped first cap 1 = shortest first := by
  rw [capped, Nat.fib_one, Nat.mul_one]
  exact Nat.min_eq_right (shortest_le_longest first cap)

theorem capped_add_two (first cap n : Nat) :
    min (longest first cap) (capped first cap n + capped first cap (n + 1)) =
      capped first cap (n + 2) := by
  simp only [capped]
  rw [min_add_min, Nat.fib_add_two, Nat.mul_add]

theorem capped_mono (first cap : Nat) : Monotone (capped first cap) := fun _ _ h =>
  min_le_min_left _ (Nat.mul_le_mul_left _ (Nat.fib_mono h))

/-! ### The run -/

/-- One delay later: what 64 bits hold is no bound of its own below the cap. -/
theorem next_capped (hlargest : longest first cap ≤ largest) (n : Nat) :
    next ⟨capped first cap n, capped first cap (n + 1), longest first cap⟩ =
      ⟨capped first cap (n + 1), capped first cap (n + 2), longest first cap⟩ := by
  have hcurrent :
      min (min (capped first cap n + capped first cap (n + 1)) largest) (longest first cap) =
        capped first cap (n + 2) := by
    rw [Nat.min_assoc, Nat.min_eq_right hlargest, Nat.min_comm, capped_add_two]
  rw [next, hcurrent]

/-- **After `n` delays the run holds the `n`-th and the one after it.** -/
theorem skip_start (hlargest : longest first cap ≤ largest) (n : Nat) :
    (start first cap).skip n =
      ⟨capped first cap n, capped first cap (n + 1), longest first cap⟩ := by
  induction n with
  | zero =>
      rw [capped_zero, capped_one]
      rfl
  | succ n ih => rw [skip, ih, next_capped hlargest]

/-- **The delays of a run are the Fibonacci numbers, times the first delay, up to the cap.**  The
first delay `m` is `first` but at least one second, and the cap `M` is `cap` but at least that.  The
`n`-th delay is exactly `min M (m * F n)`, when it is looked at as when it is taken: no sum wraps,
and none that was cut shows later.  So the delays start at `m`, never decrease, and stay between `m`
and `M`, which 64 bits hold. -/
theorem delays_fibonacci (hfirst : first < Word.limit64) (hcap : cap < Word.limit64) {m M : Nat}
    (hm : m = max first 1) (hM : M = max cap m) :
    (∀ n, 1 ≤ n →
      ((start first cap).skip (n - 1)).current = min M (m * Nat.fib n) ∧
        (start first cap).nth n = Span.ofSeconds (min M (m * Nat.fib n))) ∧
      (start first cap).current = m ∧
      (∀ n k, n ≤ k → ((start first cap).skip n).current ≤ ((start first cap).skip k).current) ∧
      (∀ n, m ≤ ((start first cap).skip n).current ∧ ((start first cap).skip n).current ≤ M) ∧
      M < Word.limit64 := by
  obtain rfl : m = shortest first := hm
  obtain rfl : M = longest first cap := hM
  have hlargest := longest_le_largest hfirst hcap
  have hcurrent (n : Nat) : ((start first cap).skip n).current = capped first cap (n + 1) := by
    rw [skip_start hlargest]
  refine ⟨fun n hn => ?_, rfl, fun n k h => ?_, fun n => ⟨?_, ?_⟩, ?_⟩
  · have hnth : ((start first cap).skip (n - 1)).current = capped first cap n := by
      rw [hcurrent, Nat.sub_add_cancel hn]
    exact ⟨hnth, congrArg Span.ofSeconds hnth⟩
  · rw [hcurrent, hcurrent]
    exact capped_mono first cap (Nat.add_le_add_right h 1)
  · rw [hcurrent, ← capped_one first cap]
    exact capped_mono first cap (Nat.le_add_left 1 n)
  · rw [hcurrent]
    exact Nat.min_le_left _ _
  · exact Nat.lt_of_le_of_lt hlargest (by decide)

/-- Where the third delay is the first that 64 bits do not hold, it is the cap instead. -/
theorem delays_from_half_of_limit64 :
    let run := start 9223372036854775808 18446744073709551615
    (run.skip 1).current = 9223372036854775808 ∧ (run.skip 2).current = 18446744073709551615 ∧
      run.nth 4 = 18446744073709551615000000000 := by
  intro run
  have hfirst : 9223372036854775808 < Word.limit64 := by decide
  have hcap : 18446744073709551615 < Word.limit64 := by decide
  obtain ⟨hclosed, -⟩ := delays_fibonacci hfirst hcap rfl rfl
  exact ⟨(hclosed 2 (by decide)).1, (hclosed 3 (by decide)).1, (hclosed 4 (by decide)).2⟩

end CredentialRotation.Backoff
