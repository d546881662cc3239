import CredentialRotation.Due
import CredentialRotation.Proofs.Time.Order

/-!
# Proofs — Waiting

Decisions about one secret at different times.  Where the last rotation does not lie in the future,
each of them compares the clock with the same instant, the one at which the interval is over
(`Due.decide_of_le`).  So the wait that is answered shrinks as the clock goes on, and ends at that
instant whenever it was asked for (`waiting_never_drifts`).  Where the last rotation lies in the
future, there is no such instant: the wait is the whole interval, from whenever it is asked for.

Leap seconds are left out, since the distance of two instants is not that of their ticks there.
-/

namespace CredentialRotation

namespace Instant

variable {t u : Instant}

/-- The instant so many nanoseconds after `t`.  Other than for `add?`, time has no end here. -/
def after (t : Instant) (span : Nat) : Instant := ofTicks (t.ticks + span)

@[simp] theorem ticks_after (t : Instant) (span : Nat) : (t.after span).ticks = t.ticks + span :=
  ticks_ofTicks _

theorem not_isLeap_after (t : Instant) (span : Nat) : ¬ (t.after span).IsLeap :=
  not_isLeap_ofTicks _

theorem le_after (h : ¬ t.IsLeap) (span : Nat) : t ≤ t.after span := by
  rw [le_iff_ticks_le h (not_isLeap_after t span), ticks_after]
  omega

theorem after_le_after_iff {span other : Nat} : t.after span ≤ t.after other ↔ span ≤ other := by
  rw [le_iff_ticks_le (not_isLeap_after _ _) (not_isLeap_after _ _), ticks_after, ticks_after]
  omega

theorem after_eq_after_iff {span other : Nat} :
    t.after span = u.after other ↔ t.ticks + span = u.ticks + other := by
  rw [← ticks_after, ← ticks_after]
  exact ⟨congrArg ticks, eq_of_ticks_eq (not_isLeap_after _ _) (not_isLeap_after _ _)⟩

end Instant

namespace Due

open Instant

variable {interval : Nat} {last now : Instant}

/-- **The clock is compared with the end of the interval**, and what is left until then is waited
for. -/
theorem decide_of_le (hlast : ¬ last.IsLeap) (hnow : ¬ now.IsLeap) (h : last ≤ now) :
    decide interval (some last) now =
      if last.after interval ≤ now then rotateNow
      else waitFor ((last.after interval).ticks - now.ticks).toNat := by
  rw [le_iff_ticks_le hlast hnow] at h
  have helapsed : (now.elapsed last : Int) = now.ticks - last.ticks := by
    rw [elapsed, since_eq_sub hnow hlast]
    exact Int.toNat_of_nonneg (Int.sub_nonneg_of_le h)
  simp only [decide, le_iff_ticks_le (not_isLeap_after last interval) hnow, ticks_after]
  by_cases hover : interval ≤ now.elapsed last
  · rw [if_pos hover, if_pos (by omega)]
  · rw [if_neg hover, if_neg (by omega), waitFor.injEq]
    omega

theorem decide_eq_rotateNow_iff_after_le (hlast : ¬ last.IsLeap) (hnow : ¬ now.IsLeap)
    (h : last ≤ now) :
    decide interval (some last) now = rotateNow ↔ last.after interval ≤ now := by
  rw [decide_of_le hlast hnow h]
  split
  · next hle => exact ⟨fun _ => hle, fun _ => rfl⟩
  · next hlt => exact ⟨fun he => (nomatch he), fun hle => absurd hle hlt⟩

/-- Before the end of the interval there is a wait, and it ends there. -/
theorem exists_wait (hlast : ¬ last.IsLeap) (hnow : ¬ now.IsLeap) (h : last ≤ now)
    (hlt : now < last.after interval) :
    ∃ wait, decide interval (some last) now = waitFor wait ∧ 0 < wait ∧
      now.after wait = last.after interval := by
  have hpos := (lt_iff_ticks_lt hnow (not_isLeap_after last interval)).1 hlt
  refine ⟨((last.after interval).ticks - now.ticks).toNat, ?_, by omega, ?_⟩
  · rw [decide_of_le hlast hnow h, if_neg (not_le.2 hlt)]
  · simp only [after_eq_after_iff, ticks_after] at hpos ⊢
    omega

/-- From a wait that ends with the interval, so much less is left as has passed. -/
theorem decide_after (hlast : ¬ last.IsLeap) (hnow : ¬ now.IsLeap) (h : last ≤ now) {wait : Nat}
    (hwait : now.after wait = last.after interval) (x : Nat) :
    decide interval (some last) (now.after x) =
      if x < wait then waitFor (wait - x) else rotateNow := by
  rw [decide_of_le hlast (not_isLeap_after now x) (le_trans h (le_after hnow x)), ← hwait]
  by_cases hx : x < wait
  · rw [if_neg (mt after_le_after_iff.1 (Nat.not_le.2 hx)), if_pos hx, waitFor.injEq, ticks_after,
      ticks_after]
    omega
  · rw [if_pos (after_le_after_iff.2 (Nat.not_lt.1 hx)), if_neg hx]

/-- A rotation that lies in the future counts as one of this moment. -/
theorem decide_of_lt (hlast : ¬ last.IsLeap) (hnow : ¬ now.IsLeap) (h : now < last)
    (hpos : 0 < interval) : decide interval (some last) now = waitFor interval := by
  have helapsed : now.elapsed last = 0 :=
    Int.toNat_of_nonpos ((since_nonpos_iff hnow hlast).2 (le_of_lt h))
  rw [decide_eq_waitFor_iff, helapsed]
  exact ⟨hpos, rfl⟩

/-- **Waiting never drifts.**  A rotation that does not lie in the future is repeated from the end
of the interval on, once due always due.  Before, the wait that is answered ends exactly there:
whenever the question is put again, so much less is left as has passed, and nothing from the end on.
Where the last rotation lies in the future, the whole interval is waited for; and no wait is longer
than the interval. -/
theorem waiting_never_drifts (interval : Nat) {last now : Instant} (hlast : ¬ last.IsLeap)
    (hnow : ¬ now.IsLeap) :
    (last ≤ now →
      (decide interval (some last) now = rotateNow ↔ last.after interval ≤ now) ∧
      (decide interval (some last) now = rotateNow →
        ∀ x, decide interval (some last) (now.after x) = rotateNow) ∧
      (now < last.after interval → ∃ wait,
        decide interval (some last) now = waitFor wait ∧ 0 < wait ∧
          now.after wait = last.after interval ∧
          ∀ x, decide interval (some last) (now.after x) =
            if x < wait then waitFor (wait - x) else rotateNow)) ∧
    (now < last → 0 < interval → decide interval (some last) now = waitFor interval) ∧
    ∀ wait, decide interval (some last) now = waitFor wait → wait ≤ interval := by
  refine ⟨fun h => ?_, decide_of_lt hlast hnow, fun wait hwait => ?_⟩
  · have hdue : decide interval (some last) now = rotateNow ↔ last.after interval ≤ now :=
      decide_eq_rotateNow_iff_after_le hlast hnow h
    refine ⟨hdue, fun hover x => ?_, fun hlt => ?_⟩
    · have hlater := le_after hnow x
      rw [decide_eq_rotateNow_iff_after_le hlast (not_isLeap_after now x) (le_trans h hlater)]
      exact le_trans (hdue.1 hover) hlater
    · obtain ⟨wait, hwait, hpos, hend⟩ := exists_wait hlast hnow h hlt
      exact ⟨wait, hwait, hpos, hend, decide_after hlast hnow h hend⟩
  · obtain ⟨-, rfl⟩ := decide_eq_waitFor_iff.1 hwait
    exact Nat.sub_le _ _

/-- Rotated at eight, with half an hour and a nanosecond to wait at half past eight: a second later
it is a second less, and after the whole wait it is time. -/
theorem waiting_at_half_past_eight :
    let last := Instant.ofTicks 1717228800000000000
    let now := Instant.ofTicks 1717230600000000000
    decide 3600000000001 (some last) now = waitFor 1800000000001 ∧
      decide 3600000000001 (some last) (now.after 1000000000) = waitFor 1799000000001 ∧
      decide 3600000000001 (some last) (now.after 1800000000001) = rotateNow := by
  intro last now
  have hlast : ¬ last.IsLeap := by decide
  have hnow : ¬ now.IsLeap := by decide
  obtain ⟨hback, -⟩ := waiting_never_drifts 3600000000001 hlast hnow
  obtain ⟨-, -, hwaits⟩ := hback (by decide)
  obtain ⟨wait, hwait, -, hend, hlater⟩ := hwaits (by decide)
  obtain rfl : wait = 1800000000001 := by
    rw [after_eq_after_iff] at hend
    simp only [last, now, ticks_ofTicks] at hend
    omega
  exact ⟨hwait, hlater 1000000000, hlater 1800000000001⟩

end Due

end CredentialRotation
