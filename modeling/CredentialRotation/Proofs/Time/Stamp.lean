import CredentialRotation.Time.Stamp

/-!
# Proofs — Time — Stamp

What is written of an instant reads back as that instant.  Each part of a time stamp is followed by
a mark that is no digit, so that a part reads back whatever stands after it; the parts are put
together in the order in which they are read.

**Main statement** (`ofText?_toText`).  The time stamp of an instant reads as the instant itself,
leap seconds and nanoseconds included, if its year has four digits.  Any other year is written with
a sign, and such a time stamp does not read at all.
-/

namespace CredentialRotation

namespace Instant

/-- The year in which the instant lies. -/
def year (t : Instant) : Int := (Date.ofDay t.day).year

/-- The year has four digits, and so no sign is written before it. -/
def IsReadable (t : Instant) : Prop := 0 ≤ t.year ∧ t.year ≤ 9999

instance (t : Instant) : Decidable t.IsReadable := by
  unfold IsReadable
  infer_instance

end Instant

namespace Stamp

open Text

/-! ### Digits and marks -/

theorem isSome_digitValue?_of_mem_fixedDigits {width n : Nat} {c : Char}
    (h : c ∈ fixedDigits width n) : (digitValue? c).isSome = true := by
  induction width generalizing n with
  | zero => cases h
  | succ width ih =>
      rw [fixedDigits, List.mem_append, List.mem_singleton] at h
      rcases h with h | rfl
      · exact ih h
      · rw [digitValue?_digitChar (Nat.mod_lt n (by decide))]
        rfl

theorem readFixed?_append (width n : Nat) (rest : List Char) :
    readFixed? width (fixedDigits width n ++ rest) = some (n % Nat.pow 10 width, rest) := by
  have hl : ¬ (fixedDigits width n ++ rest).length < width := by
    rw [List.length_append, length_fixedDigits]
    omega
  rw [readFixed?, if_neg hl, List.take_left' (length_fixedDigits width n),
    List.drop_left' (length_fixedDigits width n), numberFrom?_fixedDigits, Nat.zero_mul,
    Nat.zero_add, Option.map_some]

/-- A number of two digits reads back. -/
theorem readFixed?_two {n : Nat} (h : n < 100) (rest : List Char) :
    readFixed? 2 (fixedDigits 2 n ++ rest) = some (n, rest) := by
  rw [readFixed?_append, Nat.mod_eq_of_lt (show n < Nat.pow 10 2 from h)]

theorem readMark?_cons {marks : List Char} {c : Char} (h : marks.contains c = true)
    (rest : List Char) : readMark? marks (c :: rest) = some rest := by
  rw [readMark?, if_pos h]

/-- A text that starts with no digit is no number. -/
theorem readFixed?_eq_none {width : Nat} {c : Char} (h : digitValue? c = none) (rest : List Char) :
    readFixed? (width + 1) (c :: rest) = none := by
  rw [readFixed?, List.take_succ_cons, numberFrom?, h]
  split <;> rfl

/-- What may follow a fraction: neither a digit nor a point. -/
def EndsFraction (rest : List Char) : Prop :=
  ∀ c ∈ rest.head?, digitValue? c = none ∧ c ≠ '.'

theorem endsFraction_zone (zone : Zone) : EndsFraction zone.chars := by
  cases zone with
  | letter =>
      rintro c ⟨rfl⟩
      decide
  | offset =>
      rintro c ⟨rfl⟩
      decide

/-! ### The date -/

theorem readDate?_dateChars {d : Date} (hd : d.IsValid) (h₀ : 0 ≤ d.year) (h₁ : d.year ≤ 9999)
    (rest : List Char) : readDate? (dateChars d ++ rest) = some (d, rest) := by
  obtain ⟨year, month, day⟩ := d
  obtain ⟨hm₀, hm₁, hd₀, hd₁⟩ := id hd
  have hday : day < 100 := by
    simp only [Date.daysInMonth] at hd₁
    split at hd₁
    · split at hd₁ <;> omega
    · split at hd₁ <;> omega
  simp only at h₀ h₁ hm₀ hm₁ hd₀
  have hy : (year.toNat % Nat.pow 10 4 : Nat) = year.toNat :=
    Nat.mod_eq_of_lt (show year.toNat < 10000 by omega)
  have hback : ((year.toNat : Nat) : Int) = year := Int.toNat_of_nonneg h₀
  have hmonth : month < 100 := Nat.lt_of_le_of_lt hm₁ (by decide)
  simp only [dateChars, yearChars, if_pos (And.intro h₀ h₁), List.append_assoc, List.cons_append,
    readDate?, readFixed?_append 4, hy, Option.bind_eq_bind, Option.bind_some,
    readMark?_cons (show ['-'].contains '-' = true from rfl), readFixed?_two hmonth,
    readFixed?_two hday, hback, if_pos hd]

/-- A year with a sign does not read. -/
theorem readDate?_of_sign {d : Date} (h : ¬ (0 ≤ d.year ∧ d.year ≤ 9999)) (rest : List Char) :
    readDate? (dateChars d ++ rest) = none := by
  obtain ⟨sign, tail, hs, he⟩ : ∃ sign tail, digitValue? sign = none ∧
      dateChars d ++ rest = sign :: tail := by
    rw [dateChars, yearChars, if_neg h]
    split
    · exact ⟨'-', _, by decide, rfl⟩
    · exact ⟨'+', _, by decide, rfl⟩
  rw [he, readDate?, readFixed?_eq_none hs]
  rfl

/-! ### The time of day -/

theorem readFraction?_point {width n : Nat} (hw : 0 < width) (hle : width ≤ 9)
    (hn : n < Nat.pow 10 width) {rest : List Char} (hr : EndsFraction rest) :
    readFraction? ('.' :: (fixedDigits width n ++ rest)) =
      some (n * Nat.pow 10 (9 - width), rest) := by
  have hall : ∀ c ∈ fixedDigits width n, (digitValue? c).isSome = true :=
    fun c hc => isSome_digitValue?_of_mem_fixedDigits hc
  have hstop : (rest.takeWhile fun c => (digitValue? c).isSome) = [] ∧
      (rest.dropWhile fun c => (digitValue? c).isSome) = rest := by
    cases rest with
    | nil => exact ⟨rfl, rfl⟩
    | cons c cs =>
        have hc : ¬ (digitValue? c).isSome = true := by simp [(hr c rfl).1]
        exact ⟨List.takeWhile_cons_of_neg hc, List.dropWhile_cons_of_neg hc⟩
  have ht : ((fixedDigits width n ++ rest).takeWhile fun c => (digitValue? c).isSome) =
      fixedDigits width n := by
    rw [List.takeWhile_append_of_pos hall, hstop.1, List.append_nil]
  have hd : ((fixedDigits width n ++ rest).dropWhile fun c => (digitValue? c).isSome) = rest := by
    rw [List.dropWhile_append_of_pos hall, hstop.2]
  have hl := length_fixedDigits width n
  obtain ⟨c, cs, hc⟩ : ∃ c cs, fixedDigits width n = c :: cs := by
    cases hf : fixedDigits width n with
    | nil => rw [hf] at hl; exact absurd hl (Nat.ne_of_lt hw)
    | cons c cs => exact ⟨c, cs, rfl⟩
  have htake : (fixedDigits width n).take 9 = fixedDigits width n :=
    List.take_of_length_le (by omega)
  have hv : numberFrom? 0 (fixedDigits width n) = some n := by
    rw [numberFrom?_fixedDigits, Nat.zero_mul, Nat.zero_add, Nat.mod_eq_of_lt hn]
  simp only [readFraction?, ht, hd]
  rw [hc] at htake hv hl ⊢
  simp only [htake, hv, hl, Option.map_some]

theorem readFraction?_fractionChars {nano : Nat} (hn : nano < 1000000000) {rest : List Char}
    (hr : EndsFraction rest) : readFraction? (fractionChars nano ++ rest) = some (nano, rest) := by
  unfold fractionChars
  split
  · next h =>
    subst h
    rw [List.nil_append]
    unfold readFraction?
    split
    · exact absurd rfl (hr '.' rfl).2
    · rfl
  · split
    · next h =>
      have hlt : nano / 1000000 < Nat.pow 10 3 := by
        show nano / 1000000 < 1000
        omega
      have hv : nano / 1000000 * Nat.pow 10 (9 - 3) = nano := by
        show nano / 1000000 * 1000000 = nano
        omega
      rw [List.cons_append, readFraction?_point (by decide) (by decide) hlt hr, hv]
    · split
      · next h =>
        have hlt : nano / 1000 < Nat.pow 10 6 := by
          show nano / 1000 < 1000000
          omega
        have hv : nano / 1000 * Nat.pow 10 (9 - 6) = nano := by
          show nano / 1000 * 1000 = nano
          omega
        rw [List.cons_append, readFraction?_point (by decide) (by decide) hlt hr, hv]
      · have hv : nano * Nat.pow 10 (9 - 9) = nano := Nat.mul_one nano
        rw [List.cons_append, readFraction?_point (by decide) (by decide) hn hr, hv]

/-- The second of the day and the nanoseconds beyond it read back.  In a leap second, second 60 is
written, and 59 is what it reads as. -/
theorem readTime?_timeChars {clock nano : Nat} (hc : clock < 86400) (hn : nano < 2 * Span.perSecond)
    (hl : Span.perSecond ≤ nano → clock % 60 = 59) {rest : List Char} (hr : EndsFraction rest) :
    readTime? (timeChars clock nano ++ rest) = some (clock, nano, rest) := by
  have hhour : clock / 3600 < 100 := by omega
  have hminute : clock / 60 % 60 < 100 := by omega
  have hsecond : clock % 60 + nano / Span.perSecond < 100 := by
    simp only [Span.perSecond] at *
    omega
  have hrange : clock / 3600 < 24 ∧ clock / 60 % 60 < 60 ∧
      clock % 60 + nano / Span.perSecond ≤ 60 := by
    simp only [Span.perSecond] at *
    omega
  have hclock : clock / 3600 * 3600 + clock / 60 % 60 * 60 +
      min (clock % 60 + nano / Span.perSecond) 59 = clock := by
    simp only [Span.perSecond] at *
    omega
  have hnano : (if clock % 60 + nano / Span.perSecond = 60
      then Span.perSecond + nano % Span.perSecond else nano % Span.perSecond) = nano := by
    split <;> (simp only [Span.perSecond] at *; omega)
  have hmark : [':'].contains ':' = true := rfl
  simp only [timeChars, List.append_assoc, List.cons_append, readTime?, readFixed?_two hhour,
    readFixed?_two hminute, readFixed?_two hsecond, Option.bind_eq_bind, Option.bind_some,
    readMark?_cons hmark,
    readFraction?_fractionChars (Nat.mod_lt nano (by decide)) hr,
    if_pos hrange, hclock, hnano]

/-! ### The whole time stamp -/

theorem readZone?_chars (zone : Zone) : readZone? zone.chars = some (0, []) := by
  cases zone <;> decide

theorem read?_chars_of_isReadable {t : Instant} (h : t.IsReadable) (zone : Zone) :
    read? (chars t zone) = some t := by
  have hday : (Date.ofDay t.day).toDay = t.second / 86400 := Date.toDay_ofDay t.day
  have hpos : 0 ≤ t.secondOfDay := Int.emod_nonneg _ (by decide)
  have hlt : t.secondOfDay < 86400 := Int.emod_lt_of_pos _ (by decide)
  have hclock : t.secondOfDay.toNat < 86400 := by omega
  have hleap : Span.perSecond ≤ t.nano → t.secondOfDay.toNat % 60 = 59 := by
    intro hl
    have h59 := t.leap_at hl
    simp only [Instant.secondOfDay, Instant.dayLength]
    omega
  have hsum :
      t.second / 86400 * Instant.dayLength + (t.secondOfDay.toNat : Nat) - 0 = t.second := by
    simp only [Instant.secondOfDay, Instant.dayLength] at *
    omega
  have hof : Instant.of? t.second t.nano = some t := by
    rw [Instant.of?, dif_pos ⟨t.nano_lt, t.leap_at⟩]
  have hmark : ['T', 't', ' '].contains 'T' = true := rfl
  simp only [chars, List.append_assoc, List.cons_append, read?,
    readDate?_dateChars (Date.isValid_ofDay t.day) h.1 h.2, Option.bind_eq_bind, Option.bind_some,
    readMark?_cons hmark, readTime?_timeChars hclock t.nano_lt hleap (endsFraction_zone zone),
    readZone?_chars, if_true, hday, hsum, hof]

theorem read?_chars_of_not_isReadable {t : Instant} (h : ¬ t.IsReadable) (zone : Zone) :
    read? (chars t zone) = none := by
  rw [chars, List.append_assoc, read?, readDate?_of_sign h]
  rfl

end Stamp

namespace Instant

/-- **A time stamp reads back** where the year has four digits, and does not read where it has
not. -/
theorem ofText?_toText (t : Instant) :
    ofText? t.toText = if t.IsReadable then some t else none := by
  rw [ofText?, toText, String.toList_ofList]
  split
  · next h => exact Stamp.read?_chars_of_isReadable h .letter
  · next h => exact Stamp.read?_chars_of_not_isReadable h .letter

end Instant

end CredentialRotation
