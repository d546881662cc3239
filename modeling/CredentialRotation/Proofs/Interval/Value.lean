import CredentialRotation.Interval.Reading
import Mathlib.Algebra.Order.Floor.Semifield
import Mathlib.Data.Rat.Floor

/-!
# Proofs — Interval — Value

The span that an interval stands for.  Segments in ASCII digits have an exact value in nanoseconds,
which is a rational number, and the reader works with natural numbers of a bounded size.  It rounds
each segment down and nothing else, and no step on the way is too large to be held unless the sum
is.

* `Segment.floorNanos_eq`: rounding a segment down leaves the whole units as they are.
* `Segment.amount_of_isCounted`: that is what the reader adds, as far as the digits count.
* `Segment.amount_eq_held`: up to `plainDigits` digits of a fraction, all of them do.
* `total_eq_held`: so the sum of the segments is held exactly if it can be.
* `read_eq_sum_floorNanos`: an interval is that sum, unless it is zero or 64 bits do not hold its
  seconds.
-/

namespace CredentialRotation

namespace Text

variable {cs : List Char}

theorem digitValue?_of_isDigit {c : Char} (h : c.isDigit = true) :
    digitValue? c = some (c.toNat - '0'.toNat) :=
  if_pos (Char.isDigit_iff_toNat.1 h)

theorem isDecimalDigit_of_isDigit {c : Char} (h : c.isDigit = true) : isDecimalDigit c = true :=
  isDecimalDigit_of_digitValue? (digitValue?_of_isDigit h)

/-- ASCII digits can be read on from any number. -/
theorem numberFrom?_of_isDigit (h : ∀ c ∈ cs, c.isDigit = true) (start : Nat) :
    numberFrom? start cs = some (Nat.ofDigitChars 10 cs start) := by
  induction cs generalizing start with
  | nil => rfl
  | cons c cs ih =>
      have hrest := ih fun d hd => h d (List.mem_cons_of_mem _ hd)
      rw [numberFrom?, digitValue?_of_isDigit (h c List.mem_cons_self), Option.bind_some, hrest,
        Nat.ofDigitChars_cons]

theorem number?_of_isDigit (hne : cs ≠ []) (h : ∀ c ∈ cs, c.isDigit = true) :
    number? cs = some (Nat.ofDigitChars 10 cs 0) := by
  obtain ⟨c, rest, rfl⟩ := List.exists_cons_of_ne_nil hne
  exact numberFrom?_of_isDigit h 0

/-- So many ASCII digits write a number below that power of ten. -/
theorem ofDigitChars_lt_pow (h : ∀ c ∈ cs, c.isDigit = true) :
    Nat.ofDigitChars 10 cs 0 < 10 ^ cs.length := by
  induction cs with
  | nil => exact Nat.one_pos
  | cons c cs ih =>
      have hdigit : c.toNat ≤ '9'.toNat := (Char.isDigit_iff_toNat.1 (h c List.mem_cons_self)).2
      have hvalue : c.toNat - '0'.toNat ≤ 9 := Nat.sub_le_sub_right hdigit '0'.toNat
      have hrest := ih fun d hd => h d (List.mem_cons_of_mem _ hd)
      calc Nat.ofDigitChars 10 (c :: cs) 0
          = 10 ^ cs.length * (c.toNat - '0'.toNat) + Nat.ofDigitChars 10 cs 0 := by
            rw [Nat.ofDigitChars_cons, Nat.ofDigitChars_eq_ofDigitChars_zero, Nat.mul_zero,
              Nat.zero_add]
        _ < 10 ^ cs.length * 9 + 10 ^ cs.length :=
            Nat.add_lt_add_of_le_of_lt (Nat.mul_le_mul_left _ hvalue) hrest
        _ = 10 ^ (c :: cs).length := by rw [List.length_cons, Nat.pow_succ, ← Nat.mul_succ]

theorem utf8Size_of_isDigit {c : Char} (h : c.isDigit = true) : c.utf8Size = 1 := by
  have hle : c.toNat ≤ 57 := (Char.isDigit_iff_toNat.1 h).2
  exact Char.utf8Size_eq_one_iff.2 (UInt32.le_iff_toNat_le.2 (Nat.le_trans hle (by decide)))

/-- An ASCII digit is one byte. -/
theorem byteSize_of_isDigit (h : ∀ c ∈ cs, c.isDigit = true) : byteSize cs = cs.length := by
  induction cs with
  | nil => rfl
  | cons c cs ih =>
      rw [byteSize_cons, utf8Size_of_isDigit (h c List.mem_cons_self),
        ih fun d hd => h d (List.mem_cons_of_mem _ hd), List.length_cons, Nat.add_comm]

end Text

namespace Interval

open CredentialRotation.Text

/-! ### The value of a segment -/

/-- A fraction of so many digits, in whatever unit, is not too large to be held. -/
def plainDigits : Nat := 24

namespace Segment

/-- All the digits are ASCII digits, and at least one stands before the point. -/
structure IsPlain (s : Segment) : Prop where
  whole_ne_nil : s.whole ≠ []
  whole_digits : ∀ c ∈ s.whole, c.isDigit = true
  fraction_digits : ∀ c ∈ s.fraction, c.isDigit = true

theorem IsPlain.wellFormed {s : Segment} (h : s.IsPlain) : s.WellFormed :=
  ⟨h.whole_ne_nil, fun c hc => isDecimalDigit_of_isDigit (h.whole_digits c hc),
    fun c hc => isDecimalDigit_of_isDigit (h.fraction_digits c hc)⟩

/-- The number that is written before the unit. -/
def value (s : Segment) : ℚ :=
  Nat.ofDigitChars 10 (s.whole ++ s.fraction) 0 / 10 ^ s.fraction.length

/-- The nanoseconds of the segment, rounded down. -/
def floorNanos (s : Segment) : Nat := ⌊s.value * s.unit.nanos⌋₊

/-- **Rounding down leaves the whole units as they are**, and rounds down the fraction of one. -/
theorem floorNanos_eq (s : Segment) :
    s.floorNanos = Nat.ofDigitChars 10 s.whole 0 * s.unit.nanos +
      Nat.ofDigitChars 10 s.fraction 0 * s.unit.nanos / 10 ^ s.fraction.length := by
  have hpos : 0 < 10 ^ s.fraction.length := Nat.pow_pos (by decide)
  have hquotient : s.value * s.unit.nanos =
      (Nat.ofDigitChars 10 (s.whole ++ s.fraction) 0 * s.unit.nanos : ℕ) /
        (10 ^ s.fraction.length : ℕ) := by
    rw [value, div_mul_eq_mul_div]
    push_cast
    rfl
  rw [floorNanos, hquotient, Nat.floor_div_eq_div, Nat.ofDigitChars_append,
    Nat.ofDigitChars_eq_ofDigitChars_zero, Nat.add_mul, Nat.mul_assoc, Nat.add_comm,
    Nat.add_mul_div_left _ _ hpos, Nat.add_comm]

end Segment

/-! ### What the reader adds up -/

theorem Amount.held_of_lt {count : Nat} (h : count < capacity) : held count = .nanos count :=
  if_pos h

theorem Amount.held_of_le {count : Nat} (h : capacity ≤ count) : held count = .overflow :=
  if_neg (Nat.not_lt.2 h)

/-- The first thirty digits of a fraction count, if they are ASCII digits. -/
theorem countedDigits?_of_isDigit {fraction : List Char}
    (h : ∀ c ∈ fraction.take fractionBytes, c.isDigit = true) :
    countedDigits? fraction = some (fraction.take fractionBytes) := by
  have hsize : min (byteSize fraction) fractionBytes = byteSize (fraction.take fractionBytes) := by
    rcases Nat.le_total fraction.length fractionBytes with hle | hle
    · rw [List.take_of_length_le hle] at h ⊢
      exact Nat.min_eq_left ((byteSize_of_isDigit h).trans_le hle)
    · have hall : byteSize fraction =
          byteSize (fraction.take fractionBytes) + byteSize (fraction.drop fractionBytes) := by
        rw [← byteSize_append, List.take_append_drop]
      have htake : byteSize (fraction.take fractionBytes) = fractionBytes :=
        (byteSize_of_isDigit h).trans (List.length_take_of_le hle)
      omega
  have hcut := cutAt?_append (fraction.take fractionBytes) (fraction.drop fractionBytes)
  rw [countedDigits?, hsize]
  rwa [List.take_append_drop] at hcut

namespace Segment

/-- The segment as far as its digits count. -/
def counted (s : Segment) : Segment := { s with fraction := s.fraction.take fractionBytes }

/-- The digits that count are ASCII digits, and those of the fraction make a number that can be
held. -/
structure IsCounted (s : Segment) : Prop where
  plain : s.counted.IsPlain
  fits : Nat.ofDigitChars 10 s.counted.fraction 0 * s.unit.nanos < capacity

theorem counted_of_length_le {s : Segment} (h : s.fraction.length ≤ fractionBytes) :
    s.counted = s := by
  rw [counted, List.take_of_length_le h]

/-- **The reader adds the segment rounded down**, as far as its digits count, if that can be
held. -/
theorem amount_of_isCounted {s : Segment} (h : s.IsCounted) :
    s.amount = .held s.counted.floorNanos := by
  have hwhole : number? s.whole = _ := number?_of_isDigit h.plain.whole_ne_nil h.plain.whole_digits
  have hfloor : s.counted.floorNanos = Nat.ofDigitChars 10 s.whole 0 * s.unit.nanos +
      Nat.ofDigitChars 10 s.counted.fraction 0 * s.unit.nanos / 10 ^ s.counted.fraction.length :=
    s.counted.floorNanos_eq
  rw [amount, hwhole]
  dsimp only
  split
  · next hheld =>
    split
    · next hnone =>
      have hcounted : s.counted.fraction = [] := congrArg (List.take fractionBytes) hnone
      rw [hcounted, Nat.ofDigitChars_nil, Nat.zero_mul, Nat.zero_div, Nat.add_zero] at hfloor
      rw [hfloor, Amount.held_of_lt hheld.2]
    · next hsome =>
      have hne : s.counted.fraction ≠ [] := fun he =>
        hsome ((List.take_eq_nil_iff.1 he).resolve_left (by decide))
      have hdigits : countedDigits? s.fraction = some s.counted.fraction :=
        countedDigits?_of_isDigit h.plain.fraction_digits
      rw [hdigits]
      dsimp only
      rw [addFraction, number?_of_isDigit hne h.plain.fraction_digits]
      dsimp only
      rw [if_pos h.fits, hfloor]
      rfl
  · next hheld =>
    -- whole units that cannot be held are no more than the segment
    have hle : Nat.ofDigitChars 10 s.whole 0 ≤ Nat.ofDigitChars 10 s.whole 0 * s.unit.nanos :=
      Nat.le_mul_of_pos_right _ (by cases s.unit <;> decide)
    have hover : capacity ≤ Nat.ofDigitChars 10 s.whole 0 * s.unit.nanos := by omega
    rw [hfloor, Amount.held_of_le (Nat.le_add_right_of_le hover)]

end Segment

/-- A short fraction of a unit is not too large to be held. -/
theorem fraction_lt_capacity (unit : TimeUnit) {fraction : List Char}
    (h : ∀ c ∈ fraction, c.isDigit = true) (hlen : fraction.length ≤ plainDigits) :
    Nat.ofDigitChars 10 fraction 0 * unit.nanos < capacity := by
  have hdigits : Nat.ofDigitChars 10 fraction 0 < 10 ^ plainDigits :=
    Nat.lt_of_lt_of_le (ofDigitChars_lt_pow h) (Nat.pow_le_pow_right (by decide) hlen)
  have hunit : unit.nanos ≤ TimeUnit.day.nanos := by
    cases unit <;> decide
  calc Nat.ofDigitChars 10 fraction 0 * unit.nanos
      ≤ 10 ^ plainDigits * TimeUnit.day.nanos := Nat.mul_le_mul (Nat.le_of_lt hdigits) hunit
    _ < capacity := by decide

/-- Every digit of a short fraction counts. -/
theorem Segment.amount_eq_held {s : Segment} (h : s.IsPlain)
    (hlen : s.fraction.length ≤ plainDigits) :
    s.amount = .held s.floorNanos := by
  have hcounted := Segment.counted_of_length_le (Nat.le_trans hlen (by decide))
  have hheld := Segment.amount_of_isCounted (s := s)
    ⟨hcounted.symm ▸ h, hcounted.symm ▸ fraction_lt_capacity s.unit h.fraction_digits hlen⟩
  rwa [hcounted] at hheld

/-- **The sum is held exactly if it can be**: no partial sum is larger. -/
theorem total_eq_held {nanos : Segment → Nat} {segments : List Segment} {sum : Nat}
    (h : ∀ s ∈ segments, s.amount = .held (nanos s)) (hsum : sum < capacity) :
    total sum segments = .held (sum + (segments.map nanos).sum) := by
  induction segments generalizing sum with
  | nil => exact (Amount.held_of_lt hsum).symm
  | cons s segments ih =>
      have hrest := fun t ht => h t (List.mem_cons_of_mem _ ht)
      rw [total, h s List.mem_cons_self, List.map_cons, List.sum_cons, ← Nat.add_assoc]
      by_cases hnext : sum + nanos s < capacity
      · have hheld : nanos s < capacity := by omega
        rw [Amount.held_of_lt hheld]
        dsimp only
        rw [if_pos hnext, ih hrest hnext]
      · have hover : capacity ≤ sum + nanos s + (segments.map nanos).sum := by omega
        rw [Amount.held_of_le hover]
        by_cases hheld : nanos s < capacity
        · rw [Amount.held_of_lt hheld]
          exact if_neg hnext
        · rw [Amount.held_of_le (Nat.not_lt.1 hheld)]

/-! ### Reading -/

/-- The first span whose seconds are not held in 64 bits. -/
def spanLimit : Nat := Word.limit64 * Span.perSecond

theorem verdict_eq (text : String) (sum : Nat) :
    verdict text sum =
      if sum = 0 then .refused (.notPositive text)
      else if spanLimit ≤ sum then .refused (.overflow text)
      else .span sum := by
  have hseconds : Span.seconds sum < Word.limit64 ↔ ¬ spanLimit ≤ sum := by
    rw [Span.seconds, spanLimit, Nat.div_lt_iff_lt_mul (by decide), Nat.not_le]
  unfold verdict
  simp only [hseconds, ite_not]

/-- A text that is written from well-formed segments is read by adding them up. -/
theorem read_of_segments {text : String} {segments : List Segment}
    (htext : lowercase (trim text).toList = (segments.map Segment.chars).flatten)
    (hne : segments ≠ []) (h : ∀ s ∈ segments, s.WellFormed) :
    read text =
      match total 0 segments with
      | .overflow => .refused (.overflow (trim text))
      | .stuck => .stuck
      | .nanos sum => verdict (trim text) sum := by
  have hsplit : Segment.split (lowercase (trim text).toList) = (segments, []) := by
    rw [htext, Segment.split_flatten_nil h]
  have hsolid : trim text ≠ "" :=
    fun he => hne (congrArg Prod.fst (hsplit.symm.trans (split_of_trim_eq_empty he)))
  unfold read
  dsimp only
  rw [if_neg hsolid, hsplit]
  dsimp only
  cases total 0 segments with
  | overflow => rfl
  | stuck => rfl
  | nanos sum => exact if_neg (by simp [hne])

/-- **An interval is the sum of its segments, each rounded down to a nanosecond.**  The blanks
around the text and the case of its letters do not matter; what is left is written from segments in
ASCII digits, with up to `plainDigits` of them after a point and as many as one likes before it.
The text is refused as not positive exactly if the sum is zero, and as too large exactly if 64 bits
do not hold its seconds. -/
theorem read_eq_sum_floorNanos {text : String} {segments : List Segment}
    (htext : lowercase (trim text).toList = (segments.map Segment.chars).flatten)
    (hne : segments ≠ []) (hplain : ∀ s ∈ segments, s.IsPlain ∧ s.fraction.length ≤ plainDigits) :
    read text =
      if (segments.map Segment.floorNanos).sum = 0 then .refused (.notPositive (trim text))
      else if spanLimit ≤ (segments.map Segment.floorNanos).sum then
        .refused (.overflow (trim text))
      else .span (segments.map Segment.floorNanos).sum := by
  have hamounts : ∀ s ∈ segments, s.amount = .held s.floorNanos :=
    fun s hs => Segment.amount_eq_held (hplain s hs).1 (hplain s hs).2
  have htotal : total 0 segments = _ := total_eq_held hamounts (by decide)
  rw [read_of_segments htext hne fun s hs => (hplain s hs).1.wellFormed, htotal, Nat.zero_add]
  by_cases hheld : (segments.map Segment.floorNanos).sum < capacity
  · rw [Amount.held_of_lt hheld]
    exact verdict_eq _ _
  · -- what cannot be held is far beyond the seconds of 64 bits
    have hcapacity : 0 < spanLimit ∧ spanLimit ≤ capacity := by decide
    rw [Amount.held_of_le (Nat.not_lt.1 hheld), if_neg (by omega), if_pos (by omega)]

/-- Seven and a half minutes, and just under two nanoseconds. -/
theorem read_minutes_and_fraction : read " 007.5M0.0000000019S " = .span 450000000001 := by
  have hplain : ∀ s ∈ [(⟨['0', '0', '7'], ['5'], .minute⟩ : Segment),
      ⟨['0'], "0000000019".toList, .second⟩], s.IsPlain ∧ s.fraction.length ≤ plainDigits := by
    simp only [List.forall_mem_cons]
    exact ⟨⟨⟨by decide, List.all_eq_true.1 rfl, List.all_eq_true.1 rfl⟩, by decide⟩,
      ⟨⟨by decide, List.all_eq_true.1 rfl, List.all_eq_true.1 rfl⟩, by decide⟩, by simp⟩
  have hsum : ([(⟨['0', '0', '7'], ['5'], .minute⟩ : Segment),
      ⟨['0'], "0000000019".toList, .second⟩].map Segment.floorNanos).sum = 450000000001 := by
    simp only [List.map_cons, List.map_nil, Segment.floorNanos_eq]
    decide
  have hread : read " 007.5M0.0000000019S " = _ :=
    read_eq_sum_floorNanos (by decide +kernel) (by simp) hplain
  rw [hread, hsum]
  decide

end Interval

end CredentialRotation
