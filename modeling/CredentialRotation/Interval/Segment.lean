import CredentialRotation.Text.Digit

/-!
# Interval — Segment

An interval such as `1h30m` is written as segments, each a number and a unit.  This module is the
grammar: what a segment is, how it is written (`Segment.chars`) and how the longest run of segments
at the head of a text is read (`Segment.split`).

**Main statements.**  Reading loses nothing (`chars_append_of_read?`, `flatten_append_split`), and a
text that is written from well-formed segments reads as those segments (`read?_chars_append`,
`split_flatten`).
-/

namespace CredentialRotation.Interval

open CredentialRotation.Text

/-- The units of time, by the way they are written. -/
inductive TimeUnit where
  | nano
  | micro
  | microSign
  | milli
  | second
  | minute
  | hour
  | day
  deriving DecidableEq, Repr

namespace TimeUnit

/-- How the unit is written. -/
def symbol : TimeUnit → List Char
  | nano => ['n', 's']
  | micro => ['u', 's']
  | microSign => ['µ', 's']
  | milli => ['m', 's']
  | second => ['s']
  | minute => ['m']
  | hour => ['h']
  | day => ['d']

/-- The nanoseconds in one unit. -/
def nanos : TimeUnit → Nat
  | nano => 1
  | micro | microSign => 1000
  | milli => 1000000
  | second => 1000000000
  | minute => 60 * 1000000000
  | hour => 3600 * 1000000000
  | day => 86400 * 1000000000

/-- The unit at the head of a text and the rest.  Where `m` is followed by `s`, the two are
milliseconds. -/
def read? : List Char → Option (TimeUnit × List Char)
  | 'n' :: 's' :: rest => some (nano, rest)
  | 'u' :: 's' :: rest => some (micro, rest)
  | 'µ' :: 's' :: rest => some (microSign, rest)
  | 'm' :: 's' :: rest => some (milli, rest)
  | 's' :: rest => some (second, rest)
  | 'm' :: rest => some (minute, rest)
  | 'h' :: rest => some (hour, rest)
  | 'd' :: rest => some (day, rest)
  | _ => none

theorem symbol_append_of_read? {cs rest : List Char} {unit : TimeUnit}
    (h : read? cs = some (unit, rest)) : cs = unit.symbol ++ rest := by
  unfold read? at h
  split at h
  all_goals first
    | (obtain ⟨rfl, rfl⟩ := Prod.mk.inj (Option.some.inj h); rfl)
    | cases h

/-- What is read as a minute is not the beginning of a millisecond. -/
theorem head?_of_read?_eq_minute {cs rest : List Char} (h : read? cs = some (minute, rest)) :
    rest.head? ≠ some 's' := by
  unfold read? at h
  split at h <;>
    simp only [Option.some.injEq, Prod.mk.injEq, reduceCtorEq, false_and, true_and] at h
  next hs =>
    rintro hh
    subst h
    obtain ⟨tail, rfl⟩ := List.head?_eq_some_iff.1 hh
    exact hs tail rfl

/-- A unit reads back, unless it is a minute and an `s` follows. -/
theorem read?_symbol_append (unit : TimeUnit) {rest : List Char}
    (h : unit = minute → rest.head? ≠ some 's') :
    read? (unit.symbol ++ rest) = some (unit, rest) := by
  cases unit with
  | minute =>
      cases rest with
      | nil => rfl
      | cons c cs =>
          have hc : c ≠ 's' := by simpa using h rfl
          simp only [symbol, List.cons_append, List.nil_append]
          unfold read?
          split <;> simp_all
  | _ => rfl

end TimeUnit

/-- A number and a unit.  The fraction is empty where no decimal point is written. -/
structure Segment where
  whole : List Char
  fraction : List Char
  unit : TimeUnit
  deriving DecidableEq, Repr

namespace Segment

/-- The number as it is written. -/
def numeral (s : Segment) : List Char :=
  if s.fraction = [] then s.whole else s.whole ++ '.' :: s.fraction

/-- The segment as it is written. -/
def chars (s : Segment) : List Char := s.numeral ++ s.unit.symbol

/-- The digits are decimal digits of some script, and at least one stands before the point. -/
structure WellFormed (s : Segment) : Prop where
  whole_ne_nil : s.whole ≠ []
  whole_digits : ∀ c ∈ s.whole, isDecimalDigit c = true
  fraction_digits : ∀ c ∈ s.fraction, isDecimalDigit c = true

/-- The decimal point and the digits after it, if there is a point with digits after it. -/
def readFraction : List Char → List Char × List Char
  | '.' :: rest =>
    if rest.takeWhile isDecimalDigit = [] then ([], '.' :: rest)
    else (rest.takeWhile isDecimalDigit, rest.dropWhile isDecimalDigit)
  | cs => ([], cs)

/-- The segment at the head of a text and the rest. -/
def read? (cs : List Char) : Option (Segment × List Char) :=
  if cs.takeWhile isDecimalDigit = [] then none
  else
    let fraction := readFraction (cs.dropWhile isDecimalDigit)
    (TimeUnit.read? fraction.2).map fun unit =>
      (⟨cs.takeWhile isDecimalDigit, fraction.1, unit.1⟩, unit.2)

theorem readFraction_append (cs : List Char) :
    cs = (if (readFraction cs).1 = [] then [] else '.' :: (readFraction cs).1) ++
      (readFraction cs).2 := by
  unfold readFraction
  split
  · split
    · rfl
    · next h => simp
  · rfl

theorem readFraction_digits (cs : List Char) :
    ∀ c ∈ (readFraction cs).1, isDecimalDigit c = true := by
  unfold readFraction
  split
  · split
    · simp
    · intro c hc
      exact List.all_eq_true.1 List.all_takeWhile c hc
  · simp

theorem chars_append_of_read? {cs rest : List Char} {s : Segment}
    (h : read? cs = some (s, rest)) : cs = s.chars ++ rest := by
  unfold read? at h
  split at h
  · cases h
  · obtain ⟨⟨unit, tail⟩, hu, he⟩ := Option.map_eq_some_iff.1 h
    obtain ⟨rfl, rfl⟩ := Prod.mk.inj he
    have hf := readFraction_append (cs.dropWhile isDecimalDigit)
    rw [TimeUnit.symbol_append_of_read? hu] at hf
    have hc := (List.takeWhile_append_dropWhile (p := isDecimalDigit) (l := cs)).symm
    rw [hf] at hc
    simp only [chars, numeral]
    by_cases he : (readFraction (cs.dropWhile isDecimalDigit)).1 = []
    · rw [if_pos he] at hc ⊢
      rw [List.append_assoc]
      exact hc
    · rw [if_neg he] at hc ⊢
      rw [List.append_assoc, List.append_assoc]
      exact hc

theorem wellFormed_of_read? {cs rest : List Char} {s : Segment}
    (h : read? cs = some (s, rest)) : s.WellFormed := by
  unfold read? at h
  split at h
  · cases h
  · next hw =>
    obtain ⟨⟨unit, tail⟩, -, he⟩ := Option.map_eq_some_iff.1 h
    obtain ⟨rfl, rfl⟩ := Prod.mk.inj he
    exact ⟨hw, fun c hc => List.all_eq_true.1 List.all_takeWhile c hc, readFraction_digits _⟩

theorem head?_of_read? {cs rest : List Char} {s : Segment} (h : read? cs = some (s, rest))
    (hs : s.unit = .minute) : rest.head? ≠ some 's' := by
  unfold read? at h
  split at h
  · cases h
  · obtain ⟨⟨unit, tail⟩, hu, he⟩ := Option.map_eq_some_iff.1 h
    obtain ⟨rfl, rfl⟩ := Prod.mk.inj he
    obtain rfl : unit = .minute := hs
    exact TimeUnit.head?_of_read?_eq_minute hu

theorem length_lt_of_read? {cs rest : List Char} {s : Segment}
    (h : read? cs = some (s, rest)) : rest.length < cs.length := by
  have hw := (wellFormed_of_read? h).whole_ne_nil
  have := List.length_pos_iff.2 hw
  rw [chars_append_of_read? h, chars, numeral]
  split <;> simp only [List.length_append] <;> omega

/-- The longest run of segments at the head of a text, and the rest. -/
def split (cs : List Char) : List Segment × List Char :=
  match _h : read? cs with
  | none => ([], cs)
  | some (s, rest) => (s :: (split rest).1, (split rest).2)
  termination_by cs.length
  decreasing_by all_goals exact length_lt_of_read? _h

theorem split_of_read?_eq_none {cs : List Char} (h : read? cs = none) : split cs = ([], cs) := by
  rw [split]
  split
  · rfl
  · next h' => rw [h] at h'; cases h'

theorem split_of_read?_eq_some {cs rest : List Char} {s : Segment}
    (h : read? cs = some (s, rest)) : split cs = (s :: (split rest).1, (split rest).2) := by
  rw [split]
  split
  · next h' => rw [h] at h'; cases h'
  · next h' =>
    rw [h] at h'
    obtain ⟨rfl, rfl⟩ := Prod.mk.inj (Option.some.inj h')
    rfl

theorem flatten_append_split (cs : List Char) :
    cs = ((split cs).1.map chars).flatten ++ (split cs).2 := by
  fun_induction split cs with
  | case1 cs h => simp
  | case2 cs s rest h ih =>
      rw [chars_append_of_read? h, List.map_cons, List.flatten_cons, List.append_assoc, ← ih]

theorem wellFormed_of_mem_split {cs : List Char} {s : Segment} (h : s ∈ (split cs).1) :
    s.WellFormed := by
  fun_induction split cs with
  | case1 cs _ => simp at h
  | case2 cs first rest hr ih =>
      rcases List.mem_cons.1 h with rfl | h
      · exact wellFormed_of_read? hr
      · exact ih h

/-! ### What is written reads back -/

theorem takeWhile_append_of_gap {p : Char → Bool} {l rest : List Char}
    (hl : ∀ c ∈ l, p c = true) (hr : ∀ c ∈ rest.head?, p c = false) :
    (l ++ rest).takeWhile p = l ∧ (l ++ rest).dropWhile p = rest := by
  rw [List.takeWhile_append_of_pos hl, List.dropWhile_append_of_pos hl]
  cases rest with
  | nil => simp
  | cons c cs =>
      have : p c = false := hr c rfl
      simp [this]

theorem symbol_gap (unit : TimeUnit) (rest : List Char) :
    ∀ c ∈ (unit.symbol ++ rest).head?, isDecimalDigit c = false := by
  cases unit <;> simp only [TimeUnit.symbol, List.cons_append, List.head?_cons, Option.mem_some_iff,
    forall_eq'] <;> decide

theorem point_gap (rest : List Char) : ∀ c ∈ ('.' :: rest).head?, isDecimalDigit c = false := by
  simp only [List.head?_cons, Option.mem_some_iff, forall_eq']
  decide

theorem readFraction_symbol (unit : TimeUnit) (rest : List Char) :
    readFraction (unit.symbol ++ rest) = ([], unit.symbol ++ rest) := by
  cases unit <;> rfl

/-- A well-formed segment reads back, unless it is in minutes and an `s` follows. -/
theorem read?_chars_append {s : Segment} (hs : s.WellFormed) {rest : List Char}
    (hr : s.unit = .minute → rest.head? ≠ some 's') : read? (s.chars ++ rest) = some (s, rest) := by
  have hu := TimeUnit.read?_symbol_append s.unit hr
  obtain ⟨whole, fraction, unit⟩ := s
  obtain ⟨hne, hw, hf⟩ := hs
  by_cases he : fraction = []
  · subst he
    have ht := takeWhile_append_of_gap hw (symbol_gap unit rest)
    simp only [chars, numeral, if_true, List.append_assoc, read?, ht, if_neg hne,
      readFraction_symbol, hu, Option.map_some]
  · have ht := takeWhile_append_of_gap hw (point_gap (fraction ++ (unit.symbol ++ rest)))
    have hd := takeWhile_append_of_gap hf (symbol_gap unit rest)
    simp only [chars, numeral, if_neg he, List.append_assoc, List.cons_append, read?, ht,
      if_neg hne, readFraction, hd, hu, Option.map_some]

theorem head?_flatten_chars {segments : List Segment} (h : ∀ s ∈ segments, s.WellFormed)
    {rest : List Char} (hr : segments = [] → rest.head? ≠ some 's') :
    ((segments.map chars).flatten ++ rest).head? ≠ some 's' := by
  cases segments with
  | nil => exact hr rfl
  | cons s segments =>
      obtain ⟨hne, hw, -⟩ := h s List.mem_cons_self
      obtain ⟨c, cs, hc⟩ := List.exists_cons_of_ne_nil hne
      have hd := hw c (by rw [hc]; exact List.mem_cons_self)
      have : (s.chars).head? = some c := by
        rw [chars, numeral]
        split <;> simp [hc]
      rw [List.map_cons, List.flatten_cons, List.append_assoc, List.head?_append, this]
      rintro ⟨rfl⟩
      exact absurd hd (by decide)

/-- **Well-formed segments are read as written**, up to a rest at which no segment starts. -/
theorem split_flatten {segments : List Segment} (h : ∀ s ∈ segments, s.WellFormed)
    {rest : List Char} (hs : rest.head? ≠ some 's') (hr : read? rest = none) :
    split ((segments.map chars).flatten ++ rest) = (segments, rest) := by
  induction segments with
  | nil => exact split_of_read?_eq_none hr
  | cons s segments ih =>
      have hrest := fun s hs => h s (List.mem_cons_of_mem _ hs)
      have hread : read? (s.chars ++ ((segments.map chars).flatten ++ rest)) =
          some (s, (segments.map chars).flatten ++ rest) :=
        read?_chars_append (h s List.mem_cons_self) fun _ => head?_flatten_chars hrest fun _ => hs
      rw [List.map_cons, List.flatten_cons, List.append_assoc, split_of_read?_eq_some hread,
        ih hrest]

/-- A text that is written from well-formed segments is read to its end. -/
theorem split_flatten_nil {segments : List Segment} (h : ∀ s ∈ segments, s.WellFormed) :
    split (segments.map chars).flatten = (segments, []) := by
  rw [← List.append_nil (segments.map chars).flatten]
  exact split_flatten h (by simp) rfl

/-- **The segments at the head of a text are read first**, if the last of them is not in minutes
with an `s` behind it. -/
theorem split_flatten_append {before : List Segment} {s : Segment}
    (h : ∀ x ∈ before ++ [s], x.WellFormed) {rest : List Char}
    (hs : s.unit = .minute → rest.head? ≠ some 's') :
    split (((before ++ [s]).map chars).flatten ++ rest) =
      (before ++ s :: (split rest).1, (split rest).2) := by
  induction before with
  | nil =>
      have hread := read?_chars_append (h s List.mem_cons_self) hs
      simpa using split_of_read?_eq_some hread
  | cons first before ih =>
      have htail := fun x hx => h x (List.mem_cons_of_mem _ hx)
      have hread : read? (first.chars ++ (((before ++ [s]).map chars).flatten ++ rest)) =
          some (first, ((before ++ [s]).map chars).flatten ++ rest) :=
        -- what follows `first` begins with a digit
        read?_chars_append (h first List.mem_cons_self) fun _ =>
          head?_flatten_chars htail fun he => absurd he (by simp)
      rw [List.cons_append, List.map_cons, List.flatten_cons, List.append_assoc,
        split_of_read?_eq_some hread, ih htail]
      rfl

/-- Every segment of the run is read off the text that is left at it. -/
theorem read?_of_split_eq {cs : List Char} {before after : List Segment} {s : Segment}
    (h : (split cs).1 = before ++ s :: after) :
    ∃ tail rest, cs = (before.map chars).flatten ++ tail ∧ read? tail = some (s, rest) := by
  induction before generalizing cs with
  | nil =>
      cases hr : read? cs with
      | none => rw [split_of_read?_eq_none hr] at h; cases h
      | some found =>
          obtain ⟨first, rest⟩ := found
          rw [split_of_read?_eq_some hr] at h
          obtain ⟨rfl, -⟩ := List.cons.inj h
          exact ⟨cs, rest, rfl, hr⟩
  | cons first before ih =>
      cases hr : read? cs with
      | none => rw [split_of_read?_eq_none hr] at h; cases h
      | some found =>
          obtain ⟨first', rest'⟩ := found
          rw [split_of_read?_eq_some hr] at h
          obtain ⟨rfl, htail⟩ := List.cons.inj h
          obtain ⟨tail, rest, rfl, hread⟩ := ih htail
          refine ⟨tail, rest, ?_, hread⟩
          rw [chars_append_of_read? hr, List.map_cons, List.flatten_cons, List.append_assoc]

/-- The text begins with the segments of the run, up to any of them, which is then written out. -/
theorem begins_of_split_eq {cs : List Char} {before after : List Segment} {s : Segment}
    (h : (split cs).1 = before ++ s :: after) :
    ∃ rest, cs = ((before ++ [s]).map chars).flatten ++ rest ∧ (∀ x ∈ before ++ [s], x.WellFormed) ∧
      (s.unit = .minute → rest.head? ≠ some 's') := by
  obtain ⟨tail, rest, he, hread⟩ := read?_of_split_eq h
  refine ⟨rest, ?_, fun x hx => ?_, head?_of_read? hread⟩
  · rw [he, chars_append_of_read? hread]
    simp
  · have hmem : x ∈ (split cs).1 := by
      rw [h, List.append_cons]
      exact List.mem_append_left _ hx
    exact wellFormed_of_mem_split hmem

end Segment

end CredentialRotation.Interval
