import CredentialRotation.Interval.Reading

/-!
# Proofs — Interval — Stuck

Where reading an interval gets stuck.  Digits of any script make a segment, but a fraction is cut at
a number of bytes, so that the cut can fall inside a digit of more than one byte.  That is the one
way of getting stuck (`read_eq_stuck_iff`), and it takes such a digit: an interval whose decimal
digits all fit in a byte is read or refused (`read_ne_stuck`).
-/

namespace CredentialRotation.Interval

open CredentialRotation.Text

/-- The whole units of the segment can be held, and the cut of its fraction falls inside a digit. -/
structure Segment.CutsDigit (s : Segment) : Prop where
  held : ∃ n, number? s.whole = some n ∧ n * s.unit.nanos < capacity
  straddles : Straddles fractionBytes s.fraction

theorem TimeUnit.nanos_pos (unit : TimeUnit) : 0 < unit.nanos := by
  cases unit <;> exact Nat.succ_pos _

theorem countedDigits?_eq_none_iff {fraction : List Char} :
    countedDigits? fraction = none ↔ Straddles fractionBytes fraction := by
  rw [countedDigits?, cutAt?_eq_none_iff]
  constructor
  · rintro (h | h)
    · exact absurd h (Nat.not_lt.2 (Nat.min_le_left _ _))
    · have hlt := h.lt_byteSize
      rwa [Nat.min_eq_right (by omega)] at h
  · intro h
    rw [Nat.min_eq_right (Nat.le_of_lt h.lt_byteSize)]
    exact .inr h

theorem addFraction_ne_stuck (whole unit : Nat) (digits : List Char) :
    addFraction whole unit digits ≠ .stuck := by
  unfold addFraction Amount.held
  repeat' split
  all_goals exact Amount.noConfusion

theorem Segment.amount_eq_stuck_iff {s : Segment} : s.amount = .stuck ↔ s.CutsDigit := by
  have hunit := s.unit.nanos_pos
  constructor
  · intro h
    unfold amount at h
    split at h
    · cases h
    · next n hn =>
      split at h
      · next hheld =>
        split at h
        · cases h
        · split at h
          · next hcut => exact ⟨⟨n, hn, hheld.2⟩, countedDigits?_eq_none_iff.1 hcut⟩
          · exact absurd h (addFraction_ne_stuck _ _ _)
      · cases h
  · rintro ⟨⟨n, hn, hheld⟩, hcut⟩
    have hne : s.fraction ≠ [] := fun he => not_straddles_nil _ (he ▸ hcut)
    have hlt : n < capacity := Nat.lt_of_le_of_lt (Nat.le_mul_of_pos_right n hunit) hheld
    simp only [amount, hn, hlt, hheld, and_self, if_true, if_neg hne,
      countedDigits?_eq_none_iff.2 hcut]

-- byte thirty of the fraction is the first half of its last digit
example : Segment.CutsDigit ⟨['1'], '1' :: List.replicate 15 '\u0660', .second⟩ :=
  ⟨⟨1, by decide, by decide⟩, '1' :: List.replicate 14 '\u0660', '\u0660', [],
    rfl, by decide, by decide⟩

/-! ### Where adding up stops -/

theorem total_append (sum : Nat) (before after : List Segment) :
    total sum (before ++ after) =
      match total sum before with
      | .nanos reached => total reached after
      | .overflow => .overflow
      | .stuck => .stuck := by
  induction before generalizing sum with
  | nil => rfl
  | cons s before ih =>
      rw [List.cons_append, total, total]
      cases s.amount with
      | nanos n =>
          dsimp only
          by_cases h : sum + n < capacity
          · rw [if_pos h, if_pos h, ih]
          · rw [if_neg h, if_neg h]
      | overflow => rfl
      | stuck => rfl

/-- Adding up without a sum stops at one segment, behind segments that have a sum. -/
theorem exists_stop {sum : Nat} {segments : List Segment} (h : ∀ n, total sum segments ≠ .nanos n) :
    ∃ before s after reached, segments = before ++ s :: after ∧ total sum before = .nanos reached ∧
      total reached [s] = total sum segments := by
  -- along the segments; the sum reached so far is what a later segment is added to
  induction segments generalizing sum with
  | nil => exact absurd rfl (h sum)
  | cons first rest ih =>
      have hhere : total sum [first] = total sum (first :: rest) →
          ∃ before s after reached, first :: rest = before ++ s :: after ∧
            total sum before = .nanos reached ∧ total reached [s] = total sum (first :: rest) :=
        fun he => ⟨[], first, rest, sum, rfl, rfl, he⟩
      cases ha : first.amount with
      | nanos n =>
          by_cases hlt : sum + n < capacity
          · have hnext : total sum (first :: rest) = total (sum + n) rest := by
              rw [total, ha]
              exact if_pos hlt
            obtain ⟨before, s, after, reached, rfl, hr, hs⟩ := ih (hnext ▸ h)
            refine ⟨first :: before, s, after, reached, rfl, ?_, hs.trans hnext.symm⟩
            exact total_cons_eq_nanos_iff.2 ⟨n, ha, hlt, hr⟩
          · refine hhere ?_
            rw [total, total, ha]
            dsimp only
            rw [if_neg hlt, if_neg hlt]
      | overflow => exact hhere (by rw [total, total, ha])
      | stuck => exact hhere (by rw [total, total, ha])

/-- Adding up ends as it ends at the segment where it stops. -/
theorem total_eq_iff_exists_stop {sum : Nat} {segments : List Segment} {a : Amount}
    (ha : ∀ n, a ≠ .nanos n) :
    total sum segments = a ↔ ∃ before s after reached, segments = before ++ s :: after ∧
      total sum before = .nanos reached ∧ total reached [s] = a := by
  constructor
  · rintro rfl
    exact exists_stop ha
  · rintro ⟨before, s, after, reached, rfl, hr, rfl⟩
    rw [total_append, hr]
    refine (total_append reached [s] after).trans ?_
    cases hs : total reached [s] with
    | nanos n => exact absurd hs (ha n)
    | overflow => rfl
    | stuck => rfl

/-- Adding up gets stuck at the first segment that does, if the sum can be held up to there. -/
theorem total_eq_stuck_iff {sum : Nat} {segments : List Segment} :
    total sum segments = .stuck ↔
      ∃ before s after, segments = before ++ s :: after ∧
        (∃ reached, total sum before = .nanos reached) ∧ s.CutsDigit := by
  have hone : ∀ {reached : Nat} {s : Segment}, total reached [s] = .stuck ↔ s.CutsDigit := by
    intro reached s
    rw [total_cons_eq_stuck_iff, Segment.amount_eq_stuck_iff]
    simp [total]
  rw [total_eq_iff_exists_stop fun _ => Amount.noConfusion]
  constructor
  · rintro ⟨before, s, after, reached, he, hr, hs⟩
    exact ⟨before, s, after, he, ⟨reached, hr⟩, hone.1 hs⟩
  · rintro ⟨before, s, after, he, ⟨reached, hr⟩, hs⟩
    exact ⟨before, s, after, reached, he, hr, hone.2 hs⟩

/-- A text begins with well-formed segments, the last of which cuts a digit and the ones before it
add up to a number that can be held. -/
structure IsCutAt (cs : List Char) (before : List Segment) (s : Segment)
    (rest : List Char) : Prop where
  text_eq : cs = ((before ++ [s]).map Segment.chars).flatten ++ rest
  wellFormed : ∀ x ∈ before ++ [s], x.WellFormed
  /-- The unit is written out: minutes are not the beginning of milliseconds. -/
  complete : s.unit = .minute → rest.head? ≠ some 's'
  held : ∃ sum, total 0 before = .nanos sum
  cuts : s.CutsDigit

/-- The text of an interval, in lower case and without the blanks around it, has a segment that cuts
a digit, behind segments that can be added up. -/
def CutsDigit (text : String) : Prop :=
  ∃ before s rest, IsCutAt (lowercase (trim text).toList) before s rest

theorem total_split_eq_stuck_iff {cs : List Char} :
    total 0 (Segment.split cs).1 = .stuck ↔ ∃ before s rest, IsCutAt cs before s rest := by
  constructor
  · intro h
    obtain ⟨before, s, after, hsplit, hheld, hcuts⟩ := total_eq_stuck_iff.1 h
    obtain ⟨rest, he, hw, hc⟩ := Segment.begins_of_split_eq hsplit
    exact ⟨before, s, rest, he, hw, hc, hheld, hcuts⟩
  · rintro ⟨before, s, rest, rfl, hw, hc, hheld, hcuts⟩
    rw [Segment.split_flatten_append hw hc]
    exact total_eq_stuck_iff.2 ⟨before, s, _, rfl, hheld, hcuts⟩

/-- **Reading gets stuck exactly where a cut falls inside a digit.** -/
theorem read_eq_stuck_iff {text : String} : read text = .stuck ↔ CutsDigit text := by
  rw [CutsDigit, ← total_split_eq_stuck_iff, read]
  dsimp only
  by_cases he : trim text = ""
  · rw [if_pos he, split_of_trim_eq_empty he]
    exact ⟨fun h => (nomatch h), fun h => (nomatch h)⟩
  · rw [if_neg he]
    cases ht : total 0 (Segment.split (lowercase (trim text).toList)).1 with
    | stuck => simp
    | overflow => simp
    | nanos sum =>
        simp only [reduceCtorEq, iff_false]
        unfold verdict
        repeat' split
        all_goals exact Reading.noConfusion

/-- **Digits of one byte are never cut.** -/
theorem read_ne_stuck {text : String}
    (h : ∀ c ∈ lowercase (trim text).toList, isDecimalDigit c = true → c.utf8Size = 1) :
    read text ≠ .stuck := by
  intro hstuck
  obtain ⟨before, s, rest, hcut⟩ := read_eq_stuck_iff.1 hstuck
  -- a cut inside a digit takes a digit of two bytes at least
  obtain ⟨digits, c, others, hf, hlt, hgt⟩ := hcut.cuts.straddles
  have hmem : c ∈ s.fraction := by
    rw [hf]
    exact List.mem_append_right _ List.mem_cons_self
  have hne : s.fraction ≠ [] := List.ne_nil_of_mem hmem
  have htext : c ∈ lowercase (trim text).toList := by
    rw [hcut.text_eq]
    simp [Segment.chars, Segment.numeral, hne, hmem]
  have hsize := h c htext ((hcut.wellFormed s (by simp)).fraction_digits c hmem)
  omega

end CredentialRotation.Interval
