import CredentialRotation.Proofs.Interval.Stuck
import CredentialRotation.Proofs.Interval.Value

/-!
# Proofs — Interval — Sum

What the reader adds up, and where it stops.  A segment is held exactly if it is counted
(`IsCounted`) and, rounded down as far as its digits count, below `capacity`:
`Segment.amount_eq_nanos_iff`.  So a run of segments has a sum exactly if all of them are counted
and the sum can be held (`total_eq_nanos_iff`), and the reader gives up at the first segment that is
not counted or takes the sum beyond what can be held (`total_eq_overflow_iff`), unless it gets stuck
there.
-/

namespace CredentialRotation

namespace Text

theorem isDigit_of_digitValue? {c : Char} {d : Nat} (h : digitValue? c = some d) :
    c.isDigit = true := by
  unfold digitValue? at h
  split at h
  · next hc => exact Char.isDigit_iff_toNat.2 hc
  · cases h

theorem isDigit_of_numberFrom? {cs : List Char} {start n : Nat}
    (h : numberFrom? start cs = some n) :
    ∀ c ∈ cs, c.isDigit = true := by
  induction cs generalizing start with
  | nil => simp
  | cons c cs ih =>
      obtain ⟨d, hd, hrest⟩ := Option.bind_eq_some_iff.1 h
      intro x hx
      rcases List.mem_cons.1 hx with rfl | hx
      · exact isDigit_of_digitValue? hd
      · exact ih hrest x hx

/-- A number is written in ASCII digits, one at least. -/
theorem number?_eq_some_iff {cs : List Char} {n : Nat} :
    number? cs = some n ↔ cs ≠ [] ∧ (∀ c ∈ cs, c.isDigit = true) ∧
      Nat.ofDigitChars 10 cs 0 = n := by
  constructor
  · intro h
    obtain ⟨c, rest, rfl⟩ : ∃ c rest, cs = c :: rest := by
      cases cs with
      | nil => cases h
      | cons c rest => exact ⟨c, rest, rfl⟩
    have hdigits : ∀ x ∈ c :: rest, x.isDigit = true := isDigit_of_numberFrom? h
    rw [number?_of_isDigit (List.cons_ne_nil c rest) hdigits] at h
    exact ⟨List.cons_ne_nil c rest, hdigits, Option.some.inj h⟩
  · rintro ⟨hne, hdigits, rfl⟩
    exact number?_of_isDigit hne hdigits

theorem length_le_byteSize (cs : List Char) : cs.length ≤ byteSize cs := by
  induction cs with
  | nil => exact Nat.le_refl 0
  | cons c cs ih =>
      have := c.utf8Size_pos
      rw [List.length_cons, byteSize_cons]
      omega

end Text

namespace Interval

open CredentialRotation.Text

/-! ### One segment -/

/-- If the digits up to the cut are ASCII digits, they are the first thirty. -/
theorem eq_take_of_countedDigits? {fraction digits : List Char}
    (h : countedDigits? fraction = some digits) (hdigits : ∀ c ∈ digits, c.isDigit = true) :
    digits = fraction.take fractionBytes := by
  have hlength : digits.length = min (byteSize fraction) fractionBytes := by
    rw [← byteSize_of_isDigit hdigits, byteSize_of_cutAt? h]
  have htake := List.prefix_iff_eq_take.1 (prefix_of_cutAt? h)
  rcases Nat.le_total (byteSize fraction) fractionBytes with hle | hle
  · rw [Nat.min_eq_left hle] at hlength
    have hall := length_le_byteSize fraction
    rw [htake, List.take_of_length_le (by omega), List.take_of_length_le (by omega)]
  · rw [Nat.min_eq_right hle] at hlength
    rw [htake, hlength]

theorem addFraction_eq_nanos {whole unit n : Nat} {digits : List Char}
    (h : addFraction whole unit digits = .nanos n) :
    (∀ c ∈ digits, c.isDigit = true) ∧ Nat.ofDigitChars 10 digits 0 * unit < capacity := by
  unfold addFraction at h
  split at h
  · cases h
  · next m hm =>
    obtain ⟨-, hdigits, rfl⟩ := number?_eq_some_iff.1 hm
    split at h
    · next hfits => exact ⟨hdigits, hfits⟩
    · cases h

namespace Segment

theorem isCounted_of_amount_eq_nanos {s : Segment} {n : Nat} (h : s.amount = .nanos n) :
    s.IsCounted := by
  unfold amount at h
  split at h
  · cases h
  · next m hm =>
    obtain ⟨hne, hwhole, -⟩ := number?_eq_some_iff.1 hm
    split at h
    · split at h
      · next hnone =>
        have hcounted : s.counted.fraction = [] := congrArg (List.take fractionBytes) hnone
        refine ⟨⟨hne, hwhole, by simp [hcounted]⟩, ?_⟩
        rw [hcounted, Nat.ofDigitChars_nil, Nat.zero_mul]
        decide
      · split at h
        · cases h
        · next digits hcut =>
          obtain ⟨hdigits, hfits⟩ := addFraction_eq_nanos h
          obtain rfl := eq_take_of_countedDigits? hcut hdigits
          exact ⟨⟨hne, hwhole, hdigits⟩, hfits⟩
    · cases h

theorem amount_eq_nanos_iff {s : Segment} {n : Nat} :
    s.amount = .nanos n ↔ s.IsCounted ∧ s.counted.floorNanos = n ∧ n < capacity := by
  constructor
  · intro h
    have hc := isCounted_of_amount_eq_nanos h
    rw [amount_of_isCounted hc, Amount.held] at h
    split at h
    · next hlt => exact ⟨hc, Amount.nanos.inj h, Amount.nanos.inj h ▸ hlt⟩
    · cases h
  · rintro ⟨hc, rfl, hlt⟩
    rw [amount_of_isCounted hc, Amount.held_of_lt hlt]

end Segment

/-! ### The sum of a run -/

/-- The nanoseconds of the segments, each rounded down as far as its digits count. -/
def countedSum (segments : List Segment) : Nat := (segments.map fun s => s.counted.floorNanos).sum

@[simp] theorem countedSum_nil : countedSum [] = 0 := rfl

@[simp] theorem countedSum_cons (s : Segment) (segments : List Segment) :
    countedSum (s :: segments) = s.counted.floorNanos + countedSum segments := List.sum_cons

@[simp] theorem countedSum_append (before after : List Segment) :
    countedSum (before ++ after) = countedSum before + countedSum after := by
  rw [countedSum, List.map_append, List.sum_append]
  rfl

/-- **A run has a sum exactly if all its segments are counted** and the sum can be held. -/
theorem total_eq_nanos_iff {segments : List Segment} {sum reached : Nat} (hsum : sum < capacity) :
    total sum segments = .nanos reached ↔
      (∀ s ∈ segments, s.IsCounted) ∧ sum + countedSum segments = reached ∧ reached < capacity := by
  induction segments generalizing sum with
  | nil =>
      rw [total, countedSum_nil, Nat.add_zero, Amount.nanos.injEq]
      exact ⟨fun h => ⟨by simp, h, h ▸ hsum⟩, fun h => h.2.1⟩
  | cons s segments ih =>
      rw [total_cons_eq_nanos_iff, countedSum_cons, List.forall_mem_cons, ← Nat.add_assoc]
      constructor
      · rintro ⟨n, hn, hlt, h⟩
        obtain ⟨hc, rfl, -⟩ := Segment.amount_eq_nanos_iff.1 hn
        obtain ⟨hall, heq, hreached⟩ := (ih hlt).1 h
        exact ⟨⟨hc, hall⟩, heq, hreached⟩
      · rintro ⟨⟨hc, hall⟩, heq, hreached⟩
        have hlt : sum + s.counted.floorNanos < capacity := by omega
        exact ⟨_, Segment.amount_eq_nanos_iff.2 ⟨hc, rfl, by omega⟩, hlt,
          (ih hlt).2 ⟨hall, heq, hreached⟩⟩

theorem total_of_isCounted {segments : List Segment} (h : ∀ s ∈ segments, s.IsCounted) :
    total 0 segments = .held (countedSum segments) := by
  have hheld :=
    total_eq_held (fun s hs => Segment.amount_of_isCounted (h s hs)) (by decide : 0 < capacity)
  rwa [Nat.zero_add] at hheld

theorem total_singleton_eq_overflow_iff {reached : Nat} {s : Segment} :
    total reached [s] = .overflow ↔
      ¬ s.CutsDigit ∧ (s.IsCounted → capacity ≤ reached + s.counted.floorNanos) := by
  rw [← Segment.amount_eq_stuck_iff, total]
  cases hs : s.amount with
  | nanos n =>
      obtain ⟨hc, rfl, -⟩ := Segment.amount_eq_nanos_iff.1 hs
      dsimp only
      split
      · next hlt =>
          exact ⟨fun h => Amount.noConfusion h, fun h => absurd (h.2 hc) (Nat.not_le.2 hlt)⟩
      · next hle => exact ⟨fun _ => ⟨Amount.noConfusion, fun _ => Nat.not_lt.1 hle⟩, fun _ => rfl⟩
  | overflow =>
      refine ⟨fun _ => ⟨Amount.noConfusion, fun hc => ?_⟩, fun _ => rfl⟩
      have hheld := (Segment.amount_of_isCounted hc).symm.trans hs
      rw [Amount.held] at hheld
      split at hheld
      · cases hheld
      · next hle => exact Nat.le_add_left_of_le (Nat.not_lt.1 hle)
  | stuck => exact ⟨fun h => Amount.noConfusion h, fun h => absurd rfl h.1⟩

/-- **Adding up overflows at the first segment that is not counted**, if it does not get stuck
there, or that takes the sum beyond what can be held. -/
theorem total_eq_overflow_iff {segments : List Segment} :
    total 0 segments = .overflow ↔ ∃ before s after, segments = before ++ s :: after ∧
      (∀ x ∈ before, x.IsCounted) ∧ countedSum before < capacity ∧ ¬ s.CutsDigit ∧
        (s.IsCounted → capacity ≤ countedSum (before ++ [s])) := by
  have hsum : ∀ before reached, total 0 before = .nanos reached ↔
      (∀ x ∈ before, x.IsCounted) ∧ 0 + countedSum before = reached ∧ reached < capacity :=
    fun _ _ => total_eq_nanos_iff (by decide)
  rw [total_eq_iff_exists_stop fun _ => Amount.noConfusion]
  simp only [hsum, Nat.zero_add, total_singleton_eq_overflow_iff, countedSum_append,
    countedSum_cons, countedSum_nil, Nat.add_zero]
  constructor
  · rintro ⟨before, s, after, _, he, ⟨hc, rfl, hlt⟩, hcut, hover⟩
    exact ⟨before, s, after, he, hc, hlt, hcut, hover⟩
  · rintro ⟨before, s, after, he, hc, hlt, hcut, hover⟩
    exact ⟨before, s, after, _, he, ⟨hc, rfl, hlt⟩, hcut, hover⟩

end Interval

end CredentialRotation
