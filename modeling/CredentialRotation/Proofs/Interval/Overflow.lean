import CredentialRotation.Proofs.Interval.Fraction

/-!
# Proofs — Interval — Overflow

Which intervals are refused as too large.  There are two reasons, and only one of them is the length
of the interval (`IsTooLong`): the reader also refuses a segment that it does not count
(`IsMiscounted`), because a digit is of another script or because thirty digits of a fraction, as a
number of units, are more than can be held, however short the interval is.

`read_eq_overflow_iff` says that these are the two reasons, and that a text in ASCII digits that is
too long begins with segments whose exact sum is beyond the seconds of 64 bits (`ExceedsSpan`).
-/

namespace CredentialRotation.Interval

open CredentialRotation.Text

variable {cs : List Char}

/-- The text begins with segments in ASCII digits whose sum, each rounded down, is beyond the
seconds of 64 bits. -/
def ExceedsSpan (cs : List Char) : Prop :=
  ∃ (run : List Segment) (rest : List Char),
    cs = (run.map Segment.chars).flatten ++ rest ∧ (∀ s ∈ run, s.IsPlain) ∧
    spanLimit ≤ (run.map Segment.floorNanos).sum

/-- The text begins with counted segments whose sum cannot be held, or it is written from counted
segments whose sum is beyond the seconds of 64 bits. -/
def IsTooLong (cs : List Char) : Prop :=
  ∃ run rest, BeginsWith cs run rest ∧ (∀ s ∈ run, s.IsCounted) ∧
    (capacity ≤ countedSum run ∨ rest = [] ∧ spanLimit ≤ countedSum run)

/-- A digit that counts is of another script, or those of the fraction make a number that cannot be
held. -/
def Segment.IsMiscounted (s : Segment) : Prop :=
  (∃ c ∈ s.whole ++ s.fraction.take fractionBytes, c.isDigit = false) ∨
    capacity ≤ Nat.ofDigitChars 10 (s.fraction.take fractionBytes) 0 * s.unit.nanos

/-- The text has a segment that is miscounted, behind counted segments whose sum can be held. -/
def IsMiscounted (cs : List Char) : Prop :=
  ∃ before s rest, BeginsWith cs (before ++ [s]) rest ∧ (∀ x ∈ before, x.IsCounted) ∧
    countedSum before < capacity ∧ ¬ s.CutsDigit ∧ s.IsMiscounted

/-! ### A text that is too long -/

/-- Digits that do not count make the sum no smaller. -/
theorem countedSum_le (run : List Segment) : countedSum run ≤ (run.map Segment.floorNanos).sum := by
  induction run with
  | nil => exact Nat.le_refl 0
  | cons s run ih =>
      rw [countedSum_cons, List.map_cons, List.sum_cons]
      exact Nat.add_le_add s.floorNanos_counted_le ih

theorem Segment.WellFormed.isPlain {s : Segment} (h : s.WellFormed)
    (hdigits : ∀ c ∈ s.chars, isDecimalDigit c = true → c.isDigit = true) : s.IsPlain where
  whole_ne_nil := h.whole_ne_nil
  whole_digits := fun c hc => hdigits c (by
    rw [chars, numeral]
    split <;> simp [hc]) (h.whole_digits c hc)
  fraction_digits := fun c hc => hdigits c (by
    have hne : s.fraction ≠ [] := List.ne_nil_of_mem hc
    rw [chars, numeral, if_neg hne]
    simp [hc]) (h.fraction_digits c hc)

theorem IsTooLong.exceedsSpan (h : IsTooLong cs)
    (hdigits : ∀ c ∈ cs, isDecimalDigit c = true → c.isDigit = true) : ExceedsSpan cs := by
  obtain ⟨run, rest, hb, -, hlong⟩ := h
  refine ⟨run, rest, hb.text_eq,
    fun s hs => (hb.wellFormed s hs).isPlain fun c hc => hdigits c ?_, ?_⟩
  · rw [hb.text_eq]
    exact List.mem_append_left _ (List.mem_flatten_of_mem (List.mem_map_of_mem hs) hc)
  · have hcapacity : spanLimit ≤ capacity := by decide
    have hle := countedSum_le run
    rcases hlong with hlong | ⟨-, hlong⟩ <;> omega

/-! ### The reasons of an overflow -/

theorem Segment.WellFormed.isMiscounted_iff {s : Segment} (h : s.WellFormed) :
    s.IsMiscounted ↔ ¬ s.IsCounted := by
  constructor
  · rintro (⟨c, hc, hdigit⟩ | hle) hcounted
    · have hall : c.isDigit = true := (List.mem_append.1 hc).elim (hcounted.plain.whole_digits c)
        (hcounted.plain.fraction_digits c)
      exact absurd hall (by rw [hdigit]; decide)
    · exact absurd hcounted.fits (Nat.not_lt.2 hle)
  · intro hnot
    by_cases hplain : s.counted.IsPlain
    · exact .inr (Nat.not_lt.1 fun hfits => hnot ⟨hplain, hfits⟩)
    · refine .inl ?_
      by_contra hall
      have hdigit : ∀ c ∈ s.whole ++ s.fraction.take fractionBytes, c.isDigit = true :=
        fun c hc => eq_true_of_ne_false fun hd => hall ⟨c, hc, hd⟩
      exact hplain ⟨h.whole_ne_nil, fun c hc => hdigit c (List.mem_append_left _ hc),
        fun c hc => hdigit c (List.mem_append_right _ hc)⟩

-- less than a second, but thirty nines are too many nanoseconds to be held
example : Segment.IsMiscounted ⟨['0'], List.replicate 30 '9', .second⟩ := .inr (by decide)

theorem total_of_capacity_le {run after : List Segment} (h : ∀ s ∈ run, s.IsCounted)
    (hlong : capacity ≤ countedSum run) : total 0 (run ++ after) = .overflow := by
  rw [total_append, total_of_isCounted h, Amount.held_of_le hlong]

/-- The run at the head of a text overflows where its counted segments cannot be held, or at a
segment that is not counted. -/
theorem total_split_eq_overflow_iff :
    total 0 (Segment.split cs).1 = .overflow ↔
      (∃ run rest, BeginsWith cs run rest ∧ (∀ s ∈ run, s.IsCounted) ∧ capacity ≤ countedSum run) ∨
        IsMiscounted cs := by
  constructor
  · intro h
    obtain ⟨before, s, after, hsplit, hc, hheld, hcut, hover⟩ := total_eq_overflow_iff.1 h
    obtain ⟨rest, hb⟩ := exists_beginsWith_iff.2 ⟨after, hsplit⟩
    by_cases hs : s.IsCounted
    · refine .inl ⟨before ++ [s], rest, hb, ?_, hover hs⟩
      intro x hx
      rcases List.mem_append.1 hx with hx | hx
      · exact hc x hx
      · exact List.mem_singleton.1 hx ▸ hs
    · have hw : s.WellFormed := hb.wellFormed s (by simp)
      exact .inr ⟨before, s, rest, hb, hc, hheld, hcut, hw.isMiscounted_iff.2 hs⟩
  · rintro (⟨run, rest, hb, hc, hlong⟩ | ⟨before, s, rest, hb, hc, hheld, hcut, hs⟩)
    · have hne : run ≠ [] := by
        rintro rfl
        exact absurd hlong (by decide)
      obtain ⟨before, s, rfl⟩ := (List.eq_nil_or_concat' run).resolve_left hne
      obtain ⟨after, hsplit⟩ := hb.exists_split
      rw [hsplit, List.append_cons]
      exact total_of_capacity_le hc hlong
    · obtain ⟨after, hsplit⟩ := hb.exists_split
      have hw : s.WellFormed := hb.wellFormed s (by simp)
      rw [hsplit]
      exact total_eq_overflow_iff.2
        ⟨before, s, after, rfl, hc, hheld, hcut, fun h => absurd h (hw.isMiscounted_iff.1 hs)⟩

theorem read_of_total_eq_overflow {text : String}
    (h : total 0 (Segment.split (lowercase (trim text).toList)).1 = .overflow) :
    read text = .refused (.overflow (trim text)) := by
  have hsolid : trim text ≠ "" := by
    intro hempty
    rw [split_of_trim_eq_empty hempty] at h
    cases h
  unfold read
  dsimp only
  rw [if_neg hsolid, h]

theorem read_of_isTooLong {text : String} (h : IsTooLong (lowercase (trim text).toList)) :
    read text = .refused (.overflow (trim text)) := by
  obtain ⟨run, rest, hb, hc, hlong⟩ := h
  by_cases hle : capacity ≤ countedSum run
  · exact read_of_total_eq_overflow (total_split_eq_overflow_iff.2 (.inl ⟨run, rest, hb, hc, hle⟩))
  · obtain ⟨rfl, hspan⟩ := hlong.resolve_left hle
    have hw : IsWritten (lowercase (trim text).toList) run := hb.isWritten <| by
      rintro rfl
      exact absurd hspan (by decide)
    have htotal : total 0 run = .nanos (countedSum run) :=
      (total_of_isCounted hc).trans (Amount.held_of_lt (Nat.not_le.1 hle))
    rw [read_of_segments hw.text_eq hw.ne_nil hw.wellFormed, htotal]
    rcases verdict_cases (trim text) (countedSum run) with ⟨-, hv⟩ | ⟨hlt, -⟩
    · exact hv
    · exact absurd hspan (Nat.not_le.2 hlt)

/-- **An interval is refused as too large exactly if it is too long or has a segment that is not
counted.**  In ASCII digits an interval that is too long begins with segments whose exact sum is
beyond the seconds of 64 bits; one that is miscounted may be as short as one likes. -/
theorem read_eq_overflow_iff (text : String) :
    (read text = .refused (.overflow (trim text)) ↔
      IsTooLong (lowercase (trim text).toList) ∨ IsMiscounted (lowercase (trim text).toList)) ∧
    (IsTooLong (lowercase (trim text).toList) →
      (∀ c ∈ lowercase (trim text).toList, isDecimalDigit c = true → c.isDigit = true) →
        ExceedsSpan (lowercase (trim text).toList)) := by
  refine ⟨?_, fun hlong => hlong.exceedsSpan⟩
  constructor
  · intro h
    rcases read_cases text with ⟨-, hr⟩ | ⟨htotal, -⟩ | ⟨-, hr⟩ | ⟨-, -, hr⟩ |
      ⟨segments, sum, hw, htotal, hr⟩
    · cases h.symm.trans hr
    · rcases total_split_eq_overflow_iff.1 htotal with ⟨run, rest, hb, hc, hle⟩ | hmis
      · exact .inl ⟨run, rest, hb, hc, .inl hle⟩
      · exact .inr hmis
    · cases h.symm.trans hr
    · cases h.symm.trans hr
    · obtain ⟨hc, heq, -⟩ := (total_eq_nanos_iff (by decide)).1 htotal
      rcases verdict_cases (trim text) sum with ⟨hle, -⟩ | ⟨-, hv⟩
      · exact .inl ⟨segments, [], hw.beginsWith, hc, .inr ⟨rfl, by omega⟩⟩
      · rw [← hr, h] at hv
        cases hv
  · rintro (hlong | hmis)
    · exact read_of_isTooLong hlong
    · exact read_of_total_eq_overflow (total_split_eq_overflow_iff.2 (.inr hmis))

/-- The first number of seconds that 64 bits do not hold. -/
theorem read_limit_seconds :
    read "18446744073709551616s" = .refused (.overflow "18446744073709551616s") ∧
      ExceedsSpan (lowercase (trim "18446744073709551616s").toList) := by
  have htext : lowercase (trim "18446744073709551616s").toList =
      ([(⟨"18446744073709551616".toList, [], .second⟩ : Segment)].map Segment.chars).flatten := by
    decide +kernel
  have hplain : Segment.IsPlain ⟨"18446744073709551616".toList, [], .second⟩ :=
    ⟨by decide, List.all_eq_true.1 rfl, List.all_eq_true.1 rfl⟩
  have hlong : IsTooLong (lowercase (trim "18446744073709551616s").toList) := by
    refine ⟨[⟨"18446744073709551616".toList, [], .second⟩], [], ⟨?_, ?_, ?_⟩, ?_, .inr ⟨rfl, ?_⟩⟩
    · rw [htext, List.append_nil]
    · exact List.forall_mem_singleton.2 hplain.wellFormed
    · exact fun _ _ _ => by simp
    · exact List.forall_mem_singleton.2 ⟨hplain, by decide⟩
    · rw [countedSum_cons, Segment.floorNanos_eq]
      decide
  have hdigits : ∀ c ∈ lowercase (trim "18446744073709551616s").toList,
      isDecimalDigit c = true → c.isDigit = true := by
    rw [htext]
    intro c hc hdigit
    have hall :
        ∀ c ∈ ([⟨"18446744073709551616".toList, [], .second⟩].map Segment.chars).flatten,
          (!isDecimalDigit c || c.isDigit) = true := List.all_eq_true.1 rfl
    simpa [hdigit] using hall c hc
  have hoverflow := read_eq_overflow_iff "18446744073709551616s"
  exact ⟨hoverflow.1.2 (.inl hlong), hoverflow.2 hlong hdigits⟩

end CredentialRotation.Interval
