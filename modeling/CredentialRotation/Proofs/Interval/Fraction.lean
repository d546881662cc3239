import CredentialRotation.Proofs.Interval.Grammar
import CredentialRotation.Proofs.Interval.Sum
import Mathlib.Tactic.FieldSimp
import Mathlib.Tactic.Linarith
import Mathlib.Tactic.Positivity

/-!
# Proofs — Interval — Fraction

What the cut of long fractions costs.  Only the first thirty digits of a fraction count, and what
the others are worth is less than one in the thirtieth place (`Segment.value_eq`,
`Segment.tail_lt`).  In seconds and below, a whole number of nanoseconds is written in nine digits
at most, so nothing is lost.  Minutes, hours and days have a factor of three: a whole number of
nanoseconds may then lie between the digits that count and all the digits that are written, and the
segment is a nanosecond short (`Segment.LosesNano`).

`sum_add_losses`: an interval is the sum of its segments, each rounded down, less the nanoseconds
lost.
-/

namespace CredentialRotation.Interval

open CredentialRotation.Text

namespace Segment

@[simp] theorem unit_counted (s : Segment) : s.counted.unit = s.unit := rfl

/-! ### The digits that do not count -/

/-- What the digits that do not count are worth, in units. -/
def tail (s : Segment) : ℚ :=
  Nat.ofDigitChars 10 (s.fraction.drop fractionBytes) 0 / 10 ^ s.fraction.length

theorem value_eq (s : Segment) : s.value = s.counted.value + s.tail := by
  have hfraction : s.fraction.take fractionBytes ++ s.fraction.drop fractionBytes = s.fraction :=
    List.take_append_drop _ _
  have hdigits : Nat.ofDigitChars 10 (s.whole ++ s.fraction) 0 =
      10 ^ (s.fraction.drop fractionBytes).length *
          Nat.ofDigitChars 10 (s.whole ++ s.fraction.take fractionBytes) 0 +
        Nat.ofDigitChars 10 (s.fraction.drop fractionBytes) 0 := by
    conv_lhs => rw [← hfraction, ← List.append_assoc, Nat.ofDigitChars_append,
      Nat.ofDigitChars_eq_ofDigitChars_zero]
  have hlength : (s.fraction.take fractionBytes).length + (s.fraction.drop fractionBytes).length =
      s.fraction.length := by
    rw [← List.length_append, hfraction]
  rw [value, value, tail, hdigits, counted, ← hlength, pow_add]
  push_cast
  field_simp

theorem tail_nonneg (s : Segment) : 0 ≤ s.tail := by
  unfold tail
  positivity

/-- **What does not count is less than one in the thirtieth place.** -/
theorem tail_lt {s : Segment} (h : s.IsPlain) : s.tail < 1 / 10 ^ fractionBytes := by
  have hdigits : ∀ c ∈ s.fraction.drop fractionBytes, c.isDigit = true :=
    fun c hc => h.fraction_digits c (List.mem_of_mem_drop hc)
  have hlt : Nat.ofDigitChars 10 (s.fraction.drop fractionBytes) 0 * 10 ^ fractionBytes <
      10 ^ s.fraction.length := by
    rcases Nat.le_total s.fraction.length fractionBytes with hle | hle
    · rw [List.drop_of_length_le hle, Nat.ofDigitChars_nil, Nat.zero_mul]
      exact Nat.pow_pos (by decide)
    · calc Nat.ofDigitChars 10 (s.fraction.drop fractionBytes) 0 * 10 ^ fractionBytes
          < 10 ^ (s.fraction.drop fractionBytes).length * 10 ^ fractionBytes :=
            Nat.mul_lt_mul_of_pos_right (ofDigitChars_lt_pow hdigits) (Nat.pow_pos (by decide))
        _ = 10 ^ s.fraction.length := by
            rw [← Nat.pow_add, List.length_drop, Nat.sub_add_cancel hle]
  rw [tail, div_lt_div_iff₀ (by positivity) (by positivity), one_mul]
  exact_mod_cast hlt

theorem value_nonneg (s : Segment) : 0 ≤ s.value := by
  unfold value
  positivity

theorem counted_value_le (s : Segment) : s.counted.value ≤ s.value := by
  rw [value_eq s]
  exact le_add_of_nonneg_right s.tail_nonneg

/-! ### The nanosecond that is lost -/

/-- A whole number of nanoseconds lies above the digits that count, and not above those that are
written. -/
def LosesNano (s : Segment) : Prop :=
  ∃ k : ℕ, s.counted.value * s.unit.nanos < k ∧ k ≤ s.value * s.unit.nanos

theorem floorNanos_counted_le (s : Segment) : s.counted.floorNanos ≤ s.floorNanos :=
  Nat.floor_mono (mul_le_mul_of_nonneg_right s.counted_value_le (Nat.cast_nonneg _))

theorem losesNano_iff {s : Segment} : s.LosesNano ↔ s.counted.floorNanos < s.floorNanos := by
  have hvalue : 0 ≤ s.value * s.unit.nanos := mul_nonneg s.value_nonneg (Nat.cast_nonneg _)
  have hcounted : 0 ≤ s.counted.value * s.unit.nanos :=
    mul_nonneg s.counted.value_nonneg (Nat.cast_nonneg _)
  constructor
  · rintro ⟨k, hlt, hle⟩
    exact Nat.lt_of_lt_of_le ((Nat.floor_lt hcounted).2 hlt) ((Nat.le_floor_iff hvalue).2 hle)
  · intro h
    exact ⟨s.floorNanos, (Nat.floor_lt hcounted).1 h, Nat.floor_le hvalue⟩

instance : DecidablePred LosesNano := fun _ => decidable_of_iff _ losesNano_iff.symm

/-- No more than one nanosecond is lost. -/
theorem floorNanos_le {s : Segment} (h : s.IsPlain) : s.floorNanos ≤ s.counted.floorNanos + 1 := by
  have hunit : (s.unit.nanos : ℚ) ≤ 10 ^ fractionBytes := by
    exact_mod_cast (by cases s.unit <;> decide : s.unit.nanos ≤ 10 ^ fractionBytes)
  have htail : s.tail * s.unit.nanos ≤ 1 := by
    calc s.tail * s.unit.nanos
        ≤ 1 / 10 ^ fractionBytes * 10 ^ fractionBytes :=
          mul_le_mul (tail_lt h).le hunit (Nat.cast_nonneg _) (by positivity)
      _ = 1 := by field_simp
  have hcounted : 0 ≤ s.counted.value * s.unit.nanos :=
    mul_nonneg s.counted.value_nonneg (Nat.cast_nonneg _)
  rw [floorNanos, floorNanos, unit_counted, ← Nat.floor_add_one hcounted, value_eq s, add_mul]
  exact Nat.floor_mono (add_le_add_right htail _)

/-- **A segment is what the digits that count are worth, and the nanosecond that is lost.** -/
theorem floorNanos_eq_counted {s : Segment} (h : s.IsPlain) :
    s.floorNanos = s.counted.floorNanos + if s.LosesNano then 1 else 0 := by
  have hle := s.floorNanos_counted_le
  have hge := floorNanos_le h
  by_cases hloses : s.LosesNano
  · rw [if_pos hloses]
    have hlt := losesNano_iff.1 hloses
    omega
  · rw [if_neg hloses]
    have hnot := mt losesNano_iff.2 hloses
    omega

/-- The digits that count are a number of units in the thirtieth place. -/
theorem counted_value_eq {s : Segment} (h : fractionBytes < s.fraction.length) :
    ∃ n : ℕ, s.counted.value = n / 10 ^ fractionBytes :=
  ⟨_, by rw [value, counted, List.length_take_of_le (Nat.le_of_lt h)]⟩

/-- **Nothing is lost in a unit that has its nanoseconds in thirty places.** -/
theorem not_losesNano_of_dvd {s : Segment} (h : s.IsPlain)
    (hunit : s.unit.nanos ∣ 10 ^ fractionBytes) :
    ¬ s.LosesNano := by
  rintro ⟨k, hlt, hle⟩
  rcases Nat.lt_or_ge fractionBytes s.fraction.length with hlong | hshort
  · obtain ⟨places, hplaces⟩ := hunit
    obtain ⟨n, hn⟩ := counted_value_eq hlong
    have hpos : (0 : ℚ) < s.unit.nanos := Nat.cast_pos.2 s.unit.nanos_pos
    have hscale : (10 : ℚ) ^ fractionBytes = s.unit.nanos * places := by exact_mod_cast hplaces
    -- as multiples of one in the thirtieth place, `k` nanoseconds lie strictly between `n` and
    -- `n + 1`
    have hbelow : n < k * places := by
      rw [hn, hscale, div_mul_eq_mul_div, div_lt_iff₀ (hscale ▸ by positivity)] at hlt
      have hscaled : (s.unit.nanos : ℚ) * n < s.unit.nanos * (k * places) := by linarith
      exact_mod_cast lt_of_mul_lt_mul_left hscaled hpos.le
    have habove : k * places < n + 1 := by
      have hvalue : s.value < (n + 1) / 10 ^ fractionBytes := by
        rw [value_eq s, hn, add_div]
        exact add_lt_add_right (tail_lt h) _
      have hk : (k : ℚ) < (n + 1) / 10 ^ fractionBytes * s.unit.nanos :=
        lt_of_le_of_lt hle (mul_lt_mul_of_pos_right hvalue hpos)
      rw [hscale, div_mul_eq_mul_div, lt_div_iff₀ (hscale ▸ by positivity)] at hk
      have hscaled : (s.unit.nanos : ℚ) * (k * places) < s.unit.nanos * (n + 1) := by linarith
      exact_mod_cast lt_of_mul_lt_mul_left hscaled hpos.le
    omega
  · rw [counted_of_length_le hshort] at hlt
    exact absurd hle (not_le.2 hlt)

/-- **A nanosecond is lost only in minutes, hours and days**, and only behind the thirtieth
digit. -/
theorem LosesNano.unit_and_length {s : Segment} (h : s.LosesNano) (hplain : s.IsPlain) :
    (s.unit = .minute ∨ s.unit = .hour ∨ s.unit = .day) ∧ fractionBytes < s.fraction.length := by
  have hdvd := mt (not_losesNano_of_dvd hplain) (not_not.2 h)
  refine ⟨?_, Nat.lt_of_not_le fun hle => ?_⟩
  · cases hunit : s.unit with
    | minute => exact .inl rfl
    | hour => exact .inr (.inl rfl)
    | day => exact .inr (.inr rfl)
    | _ => exact absurd (by rw [hunit]; decide) hdvd
  · obtain ⟨k, hlt, hk⟩ := h
    rw [counted_of_length_le hle] at hlt
    exact absurd hk (not_le.2 hlt)

end Segment

/-! ### The sum -/

theorem sum_floorNanos_eq {segments : List Segment} (h : ∀ s ∈ segments, s.IsPlain) :
    (segments.map Segment.floorNanos).sum =
      countedSum segments + segments.countP (·.LosesNano) := by
  induction segments with
  | nil => rfl
  | cons s segments ih =>
      obtain ⟨hs, hrest⟩ := List.forall_mem_cons.1 h
      rw [List.map_cons, List.sum_cons, countedSum_cons, ih hrest, Segment.floorNanos_eq_counted hs,
        List.countP_cons]
      simp only [decide_eq_true_eq]
      omega

/-- **An interval is the sum of its segments, each rounded down, less a nanosecond for each segment
that loses one**, whatever the length of its fractions.  A segment does so exactly if a whole number
of nanoseconds lies between the thirty digits that count and all the digits that are written, which
takes a unit of minutes, hours or days and more than thirty digits.  So the sum is exact as long as
no segment loses a nanosecond. -/
theorem sum_add_losses {text : String} {segments : List Segment} {nanos : Nat}
    (htext : lowercase (trim text).toList = (segments.map Segment.chars).flatten)
    (hplain : ∀ s ∈ segments, s.IsPlain)
    (hread : read text = .span nanos ∨
      nanos = 0 ∧ ∃ given, read text = .refused (.notPositive given)) :
    nanos + segments.countP (·.LosesNano) = (segments.map Segment.floorNanos).sum ∧
      ∀ s ∈ segments, s.LosesNano →
        (s.unit = .minute ∨ s.unit = .hour ∨ s.unit = .day) ∧
        fractionBytes < s.fraction.length := by
  have hsum : (read text).sum? = some nanos := by
    rcases hread with hr | ⟨rfl, given, hr⟩
    · rw [hr, Reading.sum?]
    · rw [hr, Reading.sum?]
  obtain ⟨found, hw, htotal⟩ := exists_isWritten_of_sum? hsum
  -- the segments that are found are those that the text is written from
  have hsplit : Segment.split (lowercase (trim text).toList) = (segments, []) := by
    rw [htext, Segment.split_flatten_nil fun s hs => (hplain s hs).wellFormed]
  obtain rfl : found = segments := congrArg Prod.fst ((split_eq_of_isWritten hw).symm.trans hsplit)
  obtain ⟨-, heq, -⟩ := (total_eq_nanos_iff (by decide)).1 htotal
  refine ⟨?_, fun s hs hloses => hloses.unit_and_length (hplain s hs)⟩
  rw [sum_floorNanos_eq hplain, ← heq, Nat.zero_add]

/-- A minute and a nanosecond, the latter rounded up in the thirty-first digit. -/
def minuteAndNano : Segment := ⟨['1'], "0000000000166666666666666666667".toList, .minute⟩

/-- The thirty-first digit makes up the nanosecond, and is not counted. -/
theorem minuteAndNano_losesNano :
    read "1.0000000000166666666666666666667m" = .span 60000000000 ∧
      60000000000 + [minuteAndNano].countP (·.LosesNano) = 60000000001 := by
  have htext : lowercase (trim "1.0000000000166666666666666666667m").toList =
      ([minuteAndNano].map Segment.chars).flatten := by decide +kernel
  have hplain : ∀ s ∈ [minuteAndNano], s.IsPlain :=
    List.forall_mem_singleton.2 ⟨by decide, List.all_eq_true.1 rfl, List.all_eq_true.1 rfl⟩
  have hcounted : ∀ s ∈ [minuteAndNano], s.IsCounted :=
    List.forall_mem_singleton.2
      ⟨⟨by decide, List.all_eq_true.1 rfl, List.all_eq_true.1 rfl⟩, by decide⟩
  have htotal : total 0 [minuteAndNano] = .nanos 60000000000 := by
    rw [total_of_isCounted hcounted, countedSum_cons, Segment.floorNanos_eq]
    decide
  have hread : read "1.0000000000166666666666666666667m" = .span 60000000000 := by
    rw [read_of_segments htext (by simp) fun s hs => (hplain s hs).wellFormed, htotal]
    exact verdict_eq_span_iff.2 ⟨by decide, by decide, rfl⟩
  have hsum : ([minuteAndNano].map Segment.floorNanos).sum = 60000000001 := by
    rw [List.map_cons, Segment.floorNanos_eq]
    decide
  exact ⟨hread, (sum_add_losses htext hplain (.inl hread)).1.trans hsum⟩

end CredentialRotation.Interval
