import CredentialRotation.Proofs.Interval.Grammar
import CredentialRotation.Proofs.Interval.Sum

/-!
# Proofs — Interval — Concatenation

Intervals that are written one behind the other add up.  Every segment ends with its unit and the
next one begins with a digit, so that the segments of two texts are those of both, in order
(`IsWritten.append`).  The two are also lower-cased one by one: only a capital sigma depends on what
stands around it, and nothing that is an interval has one (`IsWritten.sigma_notMem`).

**Main statement** (`read_append`).  Two intervals without blanks around them, in either order, are
read as their sum, or refused as too large where 64 bits do not hold its seconds.
-/

namespace CredentialRotation.Interval

open CredentialRotation.Text

variable {cs cs' : List Char} {segments segments' : List Segment} {a b text : String} {x y : Nat}

/-! ### The segments of two texts -/

theorem IsWritten.append (h : IsWritten cs segments) (h' : IsWritten cs' segments') :
    IsWritten (cs ++ cs') (segments ++ segments') where
  text_eq := by rw [h.text_eq, h'.text_eq, List.map_append, List.flatten_append]
  ne_nil := List.append_ne_nil_of_left_ne_nil h.ne_nil _
  wellFormed := fun s hs => (List.mem_append.1 hs).elim (h.wellFormed s) (h'.wellFormed s)

/-- A well-formed segment has digits, a point and a unit, and no other characters. -/
theorem Segment.WellFormed.cases_of_mem {s : Segment} (h : s.WellFormed) {c : Char}
    (hc : c ∈ s.chars) :
    isDecimalDigit c = true ∨ c = '.' ∨ c ∈ s.unit.symbol := by
  rcases List.mem_append.1 hc with hnumeral | hunit
  · rw [Segment.numeral] at hnumeral
    split at hnumeral
    · exact .inl (h.whole_digits c hnumeral)
    · rcases List.mem_append.1 hnumeral with hwhole | htail
      · exact .inl (h.whole_digits c hwhole)
      · rcases List.mem_cons.1 htail with hpoint | hfraction
        · exact .inr (.inl hpoint)
        · exact .inl (h.fraction_digits c hfraction)
  · exact .inr (.inr hunit)

/-- A small sigma stands in no interval. -/
theorem IsWritten.notMem_of_sigma (h : IsWritten cs segments) {c : Char} (hc : c = 'ς' ∨ c = 'σ') :
    c ∉ cs := by
  intro hmem
  rw [h.text_eq, List.mem_flatten] at hmem
  obtain ⟨_, hchars, hmem⟩ := hmem
  obtain ⟨s, hs, rfl⟩ := List.mem_map.1 hchars
  have hcases := (h.wellFormed s hs).cases_of_mem hmem
  rcases hc with rfl | rfl <;> cases hunit : s.unit <;> rw [hunit] at hcases <;>
    revert hcases <;> decide

/-- Before it is lower-cased an interval has no capital one. -/
theorem IsWritten.sigma_notMem (h : IsWritten (lowercase cs) segments) : 'Σ' ∉ cs := fun hmem =>
  (exists_mem_lowerFrom hmem []).elim (h.notMem_of_sigma (.inl rfl)) (h.notMem_of_sigma (.inr rfl))

/-! ### Reading two texts -/

/-- What is read as a span is written from segments that count and add up to it. -/
theorem exists_segments_of_read_eq_span (h : read text = .span x) :
    ∃ segments, IsWritten (lowercase (trim text).toList) segments ∧ (∀ s ∈ segments, s.IsCounted) ∧
      countedSum segments = x ∧ x < spanLimit := by
  have hsum? : (read text).sum? = some x := by
    rw [h]
    rfl
  obtain ⟨segments, hw, htotal⟩ := exists_isWritten_of_sum? hsum?
  obtain ⟨hc, hsum, -⟩ := (total_eq_nanos_iff (by decide)).1 htotal
  rw [Nat.zero_add] at hsum
  have hread := read_of_segments hw.text_eq hw.ne_nil hw.wellFormed
  rw [htotal, h] at hread
  rcases verdict_cases (trim text) x with ⟨-, hv⟩ | ⟨hlt, -⟩
  · cases hread.trans hv
  · exact ⟨segments, hw, hc, hsum, hlt⟩

/-- Segments that count are read as their sum, which is held if it is not twice as long as a span
can be. -/
theorem read_of_isCounted (hw : IsWritten (lowercase (trim text).toList) segments)
    (hc : ∀ s ∈ segments, s.IsCounted) (hpos : 0 < countedSum segments)
    (hlt : countedSum segments < 2 * spanLimit) :
    read text = if countedSum segments < spanLimit then .span (countedSum segments)
      else .refused (.overflow (trim text)) := by
  have hcapacity : 2 * spanLimit ≤ capacity := by decide
  have htotal : total 0 segments = .nanos (countedSum segments) :=
    (total_of_isCounted hc).trans (Amount.held_of_lt (Nat.lt_of_lt_of_le hlt hcapacity))
  rw [read_of_segments hw.text_eq hw.ne_nil hw.wellFormed, htotal]
  dsimp only
  rw [verdict_eq, if_neg (Nat.ne_of_gt hpos)]
  by_cases hspan : countedSum segments < spanLimit
  · rw [if_neg (Nat.not_le.2 hspan), if_pos hspan]
  · rw [if_pos (Nat.not_lt.1 hspan), if_neg hspan]

/-- The second interval behind the first. -/
theorem read_append_eq (ha : trim a = a) (hb : trim b = b) (hx : read a = .span x)
    (hy : read b = .span y) :
    read (a ++ b) = if x + y < spanLimit then .span (x + y) else .refused (.overflow (a ++ b)) := by
  obtain ⟨segments, hw, hc, hsum, hlt⟩ := exists_segments_of_read_eq_span hx
  obtain ⟨segments', hw', hc', hsum', hlt'⟩ := exists_segments_of_read_eq_span hy
  rw [ha] at hw
  rw [hb] at hw'
  have hne : ∀ {s : String} {n : Nat}, read s = .span n → s ≠ "" := by
    rintro _ _ h rfl
    cases h
  have htrim : trim (a ++ b) = a ++ b := trim_append (hne hx) (hne hy) ha hb
  have hboth : IsWritten (lowercase (trim (a ++ b)).toList) (segments ++ segments') := by
    rw [htrim, String.toList_append, lowercase_append hw.sigma_notMem hw'.sigma_notMem]
    exact hw.append hw'
  have hcounted : ∀ s ∈ segments ++ segments', s.IsCounted :=
    fun s hs => (List.mem_append.1 hs).elim (hc s) (hc' s)
  have htotal : countedSum (segments ++ segments') = x + y := by
    rw [countedSum_append, hsum, hsum']
  have hpos := pos_of_read_eq_span hx
  have hread := read_of_isCounted hboth hcounted (by omega) (by omega)
  rwa [htotal, htrim] at hread

/-- **Intervals add up.**  Whatever segments two intervals have, their texts, one behind the other,
are read as the sum of the two if 64 bits hold its seconds, and are refused as too large if not.
The order does not matter. -/
theorem read_append (ha : trim a = a) (hb : trim b = b) (hx : read a = .span x)
    (hy : read b = .span y) :
    (read (a ++ b) = if x + y < spanLimit then .span (x + y) else .refused (.overflow (a ++ b))) ∧
      read (b ++ a) =
        if x + y < spanLimit then .span (x + y) else .refused (.overflow (b ++ a)) := by
  refine ⟨read_append_eq ha hb hx hy, ?_⟩
  rw [Nat.add_comm x y]
  exact read_append_eq hb ha hy hx

/-- Behind the longest time in whole seconds there is room for half a second, and not for a whole
one. -/
theorem read_append_half_second :
    read ("18446744073709551615s" ++ "0.5S") = .span 18446744073709551615500000000 ∧
      read ("0.5S" ++ "18446744073709551615s") = .span 18446744073709551615500000000 ∧
      read ("1S" ++ "18446744073709551615s") = .refused (.overflow "1S18446744073709551615s") := by
  have hlong : read "18446744073709551615s" = .span 18446744073709551615000000000 := by
    decide +kernel
  have hhalf : read "0.5S" = .span 500000000 := by
    have hcounted : Segment.IsCounted ⟨['0'], ['5'], .second⟩ :=
      ⟨⟨by decide, List.all_eq_true.1 rfl, List.all_eq_true.1 rfl⟩, by decide⟩
    have hwritten : IsWritten (lowercase (trim "0.5S").toList) [⟨['0'], ['5'], .second⟩] :=
      ⟨by decide +kernel, List.cons_ne_nil _ _,
        List.forall_mem_singleton.2 hcounted.plain.wellFormed⟩
    have hsum : countedSum [⟨['0'], ['5'], .second⟩] = 500000000 := by
      rw [countedSum_cons, Segment.floorNanos_eq]
      decide
    rw [read_of_isCounted hwritten (List.forall_mem_singleton.2 hcounted) (by rw [hsum]; decide)
      (by rw [hsum]; decide), hsum]
    decide
  have hsecond : read "1S" = .span 1000000000 := by decide +kernel
  have htrim : trim "18446744073709551615s" = "18446744073709551615s" := by decide +kernel
  obtain ⟨hbefore, hbehind⟩ := read_append htrim (by decide +kernel) hlong hhalf
  have hover := (read_append htrim (by decide +kernel) hlong hsecond).2
  exact ⟨hbefore, hbehind, hover⟩

end CredentialRotation.Interval
