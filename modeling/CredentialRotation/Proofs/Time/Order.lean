import CredentialRotation.Proofs.Time.Stamp
import Mathlib.Order.Defs.LinearOrder

/-!
# Proofs — Time — Order

The order of instants: by their seconds, and within a second by the nanoseconds, so that a leap
second comes after the second it follows and before the next one.  It is linear.

Outside leap seconds the order is that of the ticks, the distance of two instants has the sign of
their order (`since_nonpos_iff`), and the time elapsed since a fixed start grows with the clock
(`elapsed_mono`).  A later instant lies in no earlier year (`year_mono`), so that what is added to
an instant of the years 0 to 9999 leaves them only at their end (`isReadable_of_le`).
-/

namespace CredentialRotation

namespace Date

/-- A date lies between the first day of its year and that of the next. -/
theorem toDay_bounds {d : Date} (h : d.IsValid) :
    toDay ⟨d.year, 1, 1⟩ ≤ d.toDay ∧ d.toDay < toDay ⟨d.year + 1, 1, 1⟩ := by
  obtain ⟨year, month, day⟩ := d
  obtain ⟨h₁, h₂, h₃, h₄⟩ := h
  have hday : day ≤ 31 := by
    simp only [daysInMonth] at h₄
    split at h₄
    · split at h₄ <;> omega
    · split at h₄ <;> omega
  simp only at h₁ h₂ h₃
  simp only [toDay, marchYear, marchMonth, marchDay]
  by_cases hm : month ≤ 2
  · simp only [if_pos hm, if_pos (show (1 : Nat) ≤ 2 by decide)]
    omega
  · simp only [if_neg hm, if_pos (show (1 : Nat) ≤ 2 by decide)]
    omega

/-- The first days of the years follow one another. -/
theorem toDay_firstDay_mono {y z : Int} (h : y ≤ z) : toDay ⟨y, 1, 1⟩ ≤ toDay ⟨z, 1, 1⟩ := by
  simp only [toDay, marchYear, marchMonth, marchDay, if_pos (show (1 : Nat) ≤ 2 by decide)]
  omega

theorem year_ofDay_mono {day later : Int} (h : day ≤ later) :
    (ofDay day).year ≤ (ofDay later).year := by
  refine Int.not_lt.1 fun hlt => ?_
  have hday := (toDay_bounds (isValid_ofDay day)).1
  have hlater := (toDay_bounds (isValid_ofDay later)).2
  have hfirst := toDay_firstDay_mono (show (ofDay later).year + 1 ≤ (ofDay day).year by omega)
  rw [toDay_ofDay] at hday hlater
  omega

end Date

namespace Instant

/-! ### The order -/

instance : LE Instant :=
  ⟨fun t u => t.second < u.second ∨ t.second = u.second ∧ t.nano ≤ u.nano⟩

instance : LT Instant :=
  ⟨fun t u => t.second < u.second ∨ t.second = u.second ∧ t.nano < u.nano⟩

theorem le_def {t u : Instant} :
    t ≤ u ↔ t.second < u.second ∨ t.second = u.second ∧ t.nano ≤ u.nano := Iff.rfl

theorem lt_def {t u : Instant} :
    t < u ↔ t.second < u.second ∨ t.second = u.second ∧ t.nano < u.nano := Iff.rfl

instance (t u : Instant) : Decidable (t ≤ u) := decidable_of_iff _ le_def.symm

instance (t u : Instant) : Decidable (t < u) := decidable_of_iff _ lt_def.symm

instance : LinearOrder Instant where
  le_refl t := .inr ⟨rfl, Nat.le_refl _⟩
  le_trans t u v h₁ h₂ := by
    rw [le_def] at *
    omega
  lt_iff_le_not_ge t u := by
    rw [lt_def, le_def, le_def]
    omega
  le_antisymm t u h₁ h₂ := by
    rw [le_def] at *
    exact Instant.ext (by omega) (by omega)
  le_total t u := by
    rw [le_def, le_def]
    omega
  toDecidableLE := inferInstance
  toDecidableEq := inferInstance
  toDecidableLT := inferInstance

theorem second_le {t u : Instant} (h : t ≤ u) : t.second ≤ u.second := by
  rw [le_def] at h
  omega

theorem year_mono {t u : Instant} (h : t ≤ u) : t.year ≤ u.year :=
  Date.year_ofDay_mono (Int.ediv_le_ediv (by decide) (second_le h))

/-- From the years 0 to 9999 the way into the future leads out at their end only. -/
theorem isReadable_of_le {t u : Instant} (ht : 0 ≤ t.year) (h : t ≤ u) (hu : u.year ≤ 9999) :
    u.IsReadable :=
  ⟨Int.le_trans ht (year_mono h), hu⟩

/-! ### Ticks and distance outside leap seconds -/

theorem le_iff_ticks_le {t u : Instant} (ht : ¬ t.IsLeap) (hu : ¬ u.IsLeap) :
    t ≤ u ↔ t.ticks ≤ u.ticks := by
  simp only [IsLeap, Span.perSecond] at ht hu
  simp only [le_def, ticks, Span.perSecond]
  omega

theorem lt_iff_ticks_lt {t u : Instant} (ht : ¬ t.IsLeap) (hu : ¬ u.IsLeap) :
    t < u ↔ t.ticks < u.ticks := by
  rw [← not_le, le_iff_ticks_le hu ht, Int.not_le]

theorem since_nonpos_iff {t u : Instant} (ht : ¬ t.IsLeap) (hu : ¬ u.IsLeap) :
    t.since u ≤ 0 ↔ t ≤ u := by
  rw [since_eq_sub ht hu, le_iff_ticks_le ht hu]
  omega

/-- Where time has passed since an instant, that instant lies back, whether it is in a leap second
or not.  A leap second at midnight is an exception for the clock: the first moments of the next day
count as past in it. -/
theorem le_of_since_pos {t start : Instant} (ht : ¬ t.IsLeap) (h : 0 < t.since start) :
    start ≤ t := by
  refine not_lt.1 fun hlt => ?_
  have hstart := start.nano_lt
  have hminute := start.leap_at
  rw [lt_def] at hlt
  rw [since, leapBetween, if_neg fun hb : _ ∧ t.IsLeap => ht hb.2] at h
  by_cases hleap : start.secondOfDay < t.secondOfDay ∧ start.IsLeap
  -- the leap second that `start` lies in makes up for one second, and days are longer than that
  · have hend := hminute hleap.2
    rw [if_pos hleap] at h
    simp only [IsLeap, ticks, secondOfDay, dayLength, Span.perSecond] at *
    omega
  · rw [if_neg hleap] at h
    simp only [IsLeap, ticks, Span.perSecond] at *
    omega

/-- As the clock goes on, more time has elapsed. -/
theorem elapsed_mono {start now later : Instant} (hs : ¬ start.IsLeap) (hn : ¬ now.IsLeap)
    (hl : ¬ later.IsLeap) (h : now ≤ later) : now.elapsed start ≤ later.elapsed start := by
  rw [le_iff_ticks_le hn hl] at h
  rw [elapsed, elapsed, since_eq_sub hn hs, since_eq_sub hl hs]
  omega

/-! ### Moving on -/

/-- An instant is not moved back. -/
theorem le_of_add? {t u : Instant} {span : Nat} (h : t.add? span = some u) : t ≤ u := by
  rw [le_def]
  unfold add? at h
  split at h
  · obtain rfl := Option.some.inj h
    exact .inr ⟨rfl, Nat.le_add_right _ _⟩
  · next hstay =>
    dsimp only at h
    split at h
    · obtain rfl := Option.some.inj h
      have hlt := t.nano_lt
      simp only [IsLeap, ofTicks, Span.perSecond] at *
      omega
    · cases h

/-- An instant up to the year 9999 lies well before the last second. -/
theorem second_le_lastSecond {t : Instant} (h : t.year ≤ 9999) : t.second ≤ lastSecond := by
  have hday := (Date.toDay_bounds (Date.isValid_ofDay t.day)).2
  have hmono := Date.toDay_firstDay_mono (show (Date.ofDay t.day).year + 1 ≤ 10000 from
    Int.add_le_add_right h 1)
  have hlast : Date.toDay ⟨10000, 1, 1⟩ = 2932897 := by decide
  rw [Date.toDay_ofDay] at hday
  simp only [day, dayLength, lastSecond] at *
  omega

/-- Nothing lies between an instant and itself. -/
theorem add?_zero {t : Instant} (h : t.year ≤ 9999) : t.add? 0 = some t := by
  by_cases hl : t.IsLeap
  · rw [add?, dif_pos ⟨hl, t.nano_lt⟩]
    rfl
  · refine (add?_eq_some_iff hl).2 ⟨?_, second_le_lastSecond h⟩
    rw [Int.natCast_zero, Int.add_zero, ofTicks_ticks hl]

end Instant

end CredentialRotation
