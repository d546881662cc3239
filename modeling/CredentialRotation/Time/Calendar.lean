/-!
# Time — Calendar

Dates of the Gregorian calendar, carried on in both directions, and the days counted from
1970-01-01.  A year is counted from March, so that the leap day is its last; four hundred such years
hold 146097 days, whatever the year they start from.

**Main statements.**  Counting days and dating them are inverse to each other
(`ofDay_toDay`, `toDay_ofDay`), and what is dated is in the calendar (`isValid_ofDay`).
-/

namespace CredentialRotation

/-- A year, a month from 1 to 12 and a day of the month. -/
structure Date where
  year : Int
  month : Nat
  day : Nat
  deriving DecidableEq, Repr

namespace Date

/-- Every fourth year, but of the hundreds only every fourth. -/
def isLeapYear (year : Int) : Bool := year % 4 == 0 && (year % 100 != 0 || year % 400 == 0)

/-- The number of days of a month. -/
def daysInMonth (year : Int) (month : Nat) : Nat :=
  if month = 2 then (if isLeapYear year then 29 else 28)
  else if month = 4 ∨ month = 6 ∨ month = 9 ∨ month = 11 then 30
  else 31

/-- The date is in the calendar. -/
def IsValid (d : Date) : Prop :=
  1 ≤ d.month ∧ d.month ≤ 12 ∧ 1 ≤ d.day ∧ d.day ≤ daysInMonth d.year d.month

instance (d : Date) : Decidable d.IsValid := by
  unfold IsValid
  infer_instance

/-- The year counted from March in which the date lies. -/
def marchYear (d : Date) : Int := if d.month ≤ 2 then d.year - 1 else d.year

/-- The months between the beginning of that year and the date. -/
def marchMonth (d : Date) : Nat := if d.month ≤ 2 then d.month + 9 else d.month - 3

/-- The days between 1 March and the date. -/
def marchDay (d : Date) : Nat := (153 * d.marchMonth + 2) / 5 + d.day - 1

/-- The days between 1 March of the year 0 and 1 January 1970. -/
def epochShift : Int := 719468

/-- The days from 1970-01-01 to the date. -/
def toDay (d : Date) : Int :=
  365 * d.marchYear + d.marchYear / 4 - d.marchYear / 100 + d.marchYear / 400 +
    d.marchDay - epochShift

/-- The date in a year counted from March. -/
def ofMarchYear (year : Int) (dayOfYear : Nat) : Date :=
  let month := (5 * dayOfYear + 2) / 153
  let day := dayOfYear - (153 * month + 2) / 5 + 1
  if month < 10 then ⟨year, month + 3, day⟩ else ⟨year + 1, month - 9, day⟩

/-- The date in a stretch of four hundred years, of which `start` is the first. -/
def ofCycle (start : Int) (day : Nat) : Date :=
  let century := min (day / 36524) 3
  let inCentury := day - 36524 * century
  let inFour := inCentury % 1461
  let year := min (inFour / 365) 3
  ofMarchYear (start + (100 * century + 4 * (inCentury / 1461) + year : Nat)) (inFour - 365 * year)

/-- The date so many days after 1970-01-01. -/
def ofDay (day : Int) : Date :=
  ofCycle (400 * ((day + epochShift) / 146097)) ((day + epochShift) % 146097).toNat

/-! ### Counting days and dating them -/

theorem toDay_ofMarchYear (year : Int) (n : Nat) (h : n < 366) :
    (ofMarchYear year n).toDay =
      365 * year + year / 4 - year / 100 + year / 400 + n - epochShift := by
  simp only [ofMarchYear]
  split
  · simp only [toDay, marchDay, marchYear, marchMonth]
    rw [if_neg (by omega), if_neg (by omega)]
    omega
  · simp only [toDay, marchDay, marchYear, marchMonth]
    rw [if_pos (by omega), if_pos (by omega)]
    omega

theorem toDay_ofCycle (cycle : Int) (n : Nat) (h : n < 146097) :
    (ofCycle (400 * cycle) n).toDay = 146097 * cycle + n - epochShift := by
  have hc : min (n / 36524) 3 ≤ 3 := Nat.min_le_right _ _
  rw [ofCycle, toDay_ofMarchYear _ _ (by omega)]
  obtain ⟨c, hc⟩ : ∃ c, min (n / 36524) 3 = c := ⟨_, rfl⟩
  obtain ⟨i, hi⟩ : ∃ i, n - 36524 * c = i := ⟨_, rfl⟩
  obtain ⟨q, hq⟩ : ∃ q, i / 1461 = q := ⟨_, rfl⟩
  obtain ⟨f, hf⟩ : ∃ f, i % 1461 = f := ⟨_, rfl⟩
  obtain ⟨y, hy⟩ : ∃ y, min (f / 365) 3 = y := ⟨_, rfl⟩
  simp only [hc, hi, hq, hf, hy]
  have h1 : i ≤ 36524 := by omega
  have h2 : q ≤ 24 := by omega
  have h3 : 100 * c + 4 * q + y < 400 := by omega
  have h4 : 4 * q + y < 100 := by omega
  have e1 : (400 * cycle + (100 * c + 4 * q + y : Nat)) / 4 = 100 * cycle + 25 * c + q := by omega
  have e2 : (400 * cycle + (100 * c + 4 * q + y : Nat)) / 100 = 4 * cycle + c := by omega
  have e3 : (400 * cycle + (100 * c + 4 * q + y : Nat)) / 400 = cycle := by omega
  rw [e1, e2, e3]
  omega

/-- **Dating a day and counting back gives the day.** -/
theorem toDay_ofDay (day : Int) : (ofDay day).toDay = day := by
  rw [ofDay, toDay_ofCycle _ _ (by omega)]
  omega

theorem ofCycle_eq (start : Int) {c q y n : Nat} (hc : c ≤ 3) (hq : q ≤ 24) (hy : y ≤ 3)
    (hn : n ≤ 365) (hl : n = 365 → y = 3 ∧ (q = 24 → c = 3)) :
    ofCycle start (36524 * c + 1461 * q + 365 * y + n) =
      ofMarchYear (start + (100 * c + 4 * q + y : Nat)) n := by
  have h1 : min ((36524 * c + 1461 * q + 365 * y + n) / 36524) 3 = c := by omega
  have h2 : 36524 * c + 1461 * q + 365 * y + n - 36524 * c = 1461 * q + 365 * y + n := by omega
  have h3 : (1461 * q + 365 * y + n) % 1461 = 365 * y + n := by omega
  have h4 : (1461 * q + 365 * y + n) / 1461 = q := by omega
  have h5 : min ((365 * y + n) / 365) 3 = y := by omega
  have h6 : 365 * y + n - 365 * y = n := by omega
  simp only [ofCycle, h1, h2, h3, h4, h5, h6]

/-- A date lies at most 365 days after 1 March, and so many only where its February has 29. -/
theorem marchDay_le {d : Date} (h : d.IsValid) :
    d.marchDay ≤ 365 ∧ (d.marchDay = 365 → isLeapYear (d.marchYear + 1) = true) := by
  obtain ⟨year, month, day⟩ := d
  obtain ⟨h1, h2, h3, h4⟩ := h
  simp only [daysInMonth] at h1 h2 h3 h4
  have : month = 1 ∨ month = 2 ∨ month = 3 ∨ month = 4 ∨ month = 5 ∨ month = 6 ∨ month = 7 ∨
      month = 8 ∨ month = 9 ∨ month = 10 ∨ month = 11 ∨ month = 12 := by omega
  rcases this with rfl | rfl | rfl | rfl | rfl | rfl | rfl | rfl | rfl | rfl | rfl | rfl <;>
    simp [marchDay, marchMonth, marchYear] at * <;> try omega
  · split at h4
    · next hl => exact ⟨by omega, fun _ => hl⟩
    · exact ⟨by omega, by omega⟩

theorem ofMarchYear_marchDay {d : Date} (h : d.IsValid) :
    ofMarchYear d.marchYear d.marchDay = d := by
  obtain ⟨year, month, day⟩ := d
  obtain ⟨h1, h2, h3, h4⟩ := h
  have h5 : day ≤ 31 := by
    simp only [daysInMonth] at h4
    split at h4
    · split at h4 <;> omega
    · split at h4 <;> omega
  have h6 : month = 4 ∨ month = 6 ∨ month = 9 ∨ month = 11 → day ≤ 30 := by
    intro hm
    simp only [daysInMonth] at h4
    rw [if_neg (by omega), if_pos hm] at h4
    exact h4
  have h7 : month = 2 → day ≤ 29 := by
    intro hm
    simp only [daysInMonth] at h4
    rw [if_pos hm] at h4
    split at h4 <;> omega
  clear h4
  simp only at h1 h2 h3
  have hcases : month = 1 ∨ month = 2 ∨ month = 3 ∨ month = 4 ∨ month = 5 ∨ month = 6 ∨ month = 7 ∨
      month = 8 ∨ month = 9 ∨ month = 10 ∨ month = 11 ∨ month = 12 := by omega
  have hm :
      (5 * (Date.mk year month day).marchDay + 2) / 153 = (Date.mk year month day).marchMonth := by
    simp only [marchDay, marchMonth]
    rcases hcases with rfl | rfl | rfl | rfl | rfl | rfl | rfl | rfl | rfl | rfl | rfl | rfl <;>
      simp <;> omega
  have hd :
      (Date.mk year month day).marchDay - (153 * (Date.mk year month day).marchMonth + 2) / 5 + 1 =
        day := by
    simp only [marchDay]
    omega
  simp only [ofMarchYear, hm, hd]
  simp only [marchYear, marchMonth]
  by_cases hlow : month ≤ 2
  · rw [if_pos hlow, if_pos hlow, if_neg (by omega)]
    simp
  · rw [if_neg hlow, if_neg hlow, if_pos (by omega)]
    congr 1
    omega

/-- **Counting the days to a date of the calendar and dating them gives the date.** -/
theorem ofDay_toDay {d : Date} (h : d.IsValid) : ofDay d.toDay = d := by
  obtain ⟨hn, hl⟩ := marchDay_le h
  rw [ofDay, toDay]
  conv => rhs; rw [← ofMarchYear_marchDay h]
  generalize hY : d.marchYear = year at *
  generalize hN : d.marchDay = n at *
  obtain ⟨e, he⟩ : ∃ e, year / 400 = e := ⟨_, rfl⟩
  obtain ⟨r, hr⟩ : ∃ r : Nat, year % 400 = r := ⟨(year % 400).toNat, by omega⟩
  obtain ⟨c, hc⟩ : ∃ c, r / 100 = c := ⟨_, rfl⟩
  obtain ⟨q, hq⟩ : ∃ q, r % 100 / 4 = q := ⟨_, rfl⟩
  obtain ⟨y, hy⟩ : ∃ y, r % 4 = y := ⟨_, rfl⟩
  have hyear : year = 400 * e + (100 * c + 4 * q + y : Nat) := by omega
  have e1 : year / 4 = 100 * e + 25 * c + q := by omega
  have e2 : year / 100 = 4 * e + c := by omega
  have hlast : n = 365 → y = 3 ∧ (q = 24 → c = 3) := by
    intro hn
    have := hl hn
    simp only [isLeapYear, Bool.and_eq_true, Bool.or_eq_true, beq_iff_eq, bne_iff_ne] at this
    omega
  have hsum : 365 * year + year / 4 - year / 100 + year / 400 + n - epochShift + epochShift =
      146097 * e + (36524 * c + 1461 * q + 365 * y + n : Nat) := by omega
  have hlt : 36524 * c + 1461 * q + 365 * y + n < 146097 := by omega
  rw [hsum, show (146097 * e + (36524 * c + 1461 * q + 365 * y + n : Nat)) / 146097 = e by omega,
    show ((146097 * e + (36524 * c + 1461 * q + 365 * y + n : Nat)) % 146097).toNat =
      36524 * c + 1461 * q + 365 * y + n by omega,
    ofCycle_eq (400 * e) (by omega) (by omega) (by omega) hn hlast, ← hyear]

theorem isValid_ofMarchYear {year : Int} {n : Nat} (hn : n ≤ 365)
    (hl : n = 365 → isLeapYear (year + 1) = true) : (ofMarchYear year n).IsValid := by
  obtain ⟨m, hm⟩ : ∃ m, (5 * n + 2) / 153 = m := ⟨_, rfl⟩
  have hcases : m = 0 ∨ m = 1 ∨ m = 2 ∨ m = 3 ∨ m = 4 ∨ m = 5 ∨ m = 6 ∨ m = 7 ∨ m = 8 ∨ m = 9 ∨
      m = 10 ∨ m = 11 := by omega
  rcases hcases with rfl | rfl | rfl | rfl | rfl | rfl | rfl | rfl | rfl | rfl | rfl | rfl <;>
    simp [ofMarchYear, hm, IsValid, daysInMonth] <;> try omega
  · split
    · omega
    · next hf =>
      have : n ≠ 365 := fun he => hf (hl he)
      omega

theorem isValid_ofDay (day : Int) : (ofDay day).IsValid := by
  obtain ⟨e, he⟩ : ∃ e, (day + epochShift) / 146097 = e := ⟨_, rfl⟩
  obtain ⟨n, hn⟩ : ∃ n, ((day + epochShift) % 146097).toNat = n := ⟨_, rfl⟩
  have hlt : n < 146097 := by omega
  rw [ofDay, he, hn, ofCycle]
  obtain ⟨c, hc⟩ : ∃ c, min (n / 36524) 3 = c := ⟨_, rfl⟩
  obtain ⟨i, hi⟩ : ∃ i, n - 36524 * c = i := ⟨_, rfl⟩
  obtain ⟨q, hq⟩ : ∃ q, i / 1461 = q := ⟨_, rfl⟩
  obtain ⟨f, hf⟩ : ∃ f, i % 1461 = f := ⟨_, rfl⟩
  obtain ⟨y, hy⟩ : ∃ y, min (f / 365) 3 = y := ⟨_, rfl⟩
  simp only [hc, hi, hq, hf, hy]
  refine isValid_ofMarchYear (by omega) fun hl => ?_
  simp only [isLeapYear, Bool.and_eq_true, Bool.or_eq_true, beq_iff_eq, bne_iff_ne]
  omega

end Date

end CredentialRotation
