import CredentialRotation.Interval.Segment
import CredentialRotation.Text.Blank
import CredentialRotation.Text.Bytes
import CredentialRotation.Text.Lowercase
import CredentialRotation.Time.Span
import CredentialRotation.Word

/-!
# Interval — Reading

What an interval text means: the sum of its segments in nanoseconds, each segment rounded down.
The sum is worked out in numbers below `capacity`, segment by segment from the left, so that the
first segment too large to be held decides the answer even where a later part of the text is no
segment at all.

**Three kinds of answer.**  A text is a span of time, or it is refused for one of four reasons, or
there is no answer: a fraction is cut after thirty bytes, and where a digit of another script lies
across that point the reader is stuck (`Reading.stuck`).
-/

namespace CredentialRotation.Interval

open CredentialRotation.Text

/-- Why a text is no interval.  The text is kept as it was given, without the blanks around it. -/
inductive Refusal where
  | empty
  | malformed (text : String)
  | overflow (text : String)
  | notPositive (text : String)
  deriving DecidableEq, Repr

/-- The wording of a refusal. -/
def Refusal.message : Refusal → String
  | .empty => "duration string cannot be empty"
  | .malformed text =>
    "invalid duration format '" ++ text ++
      "'. Expected <number><unit> segments (e.g. '30m', '24h', '1h30m')"
  | .overflow text => "duration '" ++ text ++ "' overflows"
  | .notPositive text => "duration must be greater than 0, got '" ++ text ++ "'"

/-- What reading an interval gives. -/
inductive Reading where
  /-- An interval of so many nanoseconds. -/
  | span (nanos : Nat)
  | refused (reason : Refusal)
  /-- The cut of a long fraction falls inside a digit, and reading goes no further. -/
  | stuck
  deriving DecidableEq, Repr

/-- The nanoseconds of a segment, or of several. -/
inductive Amount where
  | nanos (count : Nat)
  | overflow
  | stuck
  deriving DecidableEq, Repr

/-- Every number met on the way stays below this bound. -/
def capacity : Nat := Word.limit128

/-- An amount, if it can be held. -/
def Amount.held (count : Nat) : Amount := if count < capacity then .nanos count else .overflow

/-- A fraction counts to its thirtieth byte. -/
def fractionBytes : Nat := 30

/-- The digits of a fraction that count; `none` where the cut falls inside a digit. -/
def countedDigits? (fraction : List Char) : Option (List Char) :=
  cutAt? (min (byteSize fraction) fractionBytes) fraction

/-- What the digits of a fraction add to `whole` nanoseconds.  Digits of another script count as
too large to be held. -/
def addFraction (whole unit : Nat) (digits : List Char) : Amount :=
  match number? digits with
  | none => .overflow
  | some n =>
    if n * unit < capacity then .held (whole + n * unit / Nat.pow 10 digits.length) else .overflow

/-- The nanoseconds of one segment. -/
def Segment.amount (s : Segment) : Amount :=
  match number? s.whole with
  | none => .overflow
  | some n =>
    if n < capacity ∧ n * s.unit.nanos < capacity then
      if s.fraction = [] then .nanos (n * s.unit.nanos)
      else match countedDigits? s.fraction with
        | none => .stuck
        | some digits => addFraction (n * s.unit.nanos) s.unit.nanos digits
    else .overflow

/-- The segments added to `sum` from the left. -/
def total (sum : Nat) : List Segment → Amount
  | [] => .nanos sum
  | s :: rest =>
    match s.amount with
    | .nanos n => if sum + n < capacity then total (sum + n) rest else .overflow
    | .overflow => .overflow
    | .stuck => .stuck

theorem total_cons_eq_nanos_iff {sum reached : Nat} {s : Segment} {rest : List Segment} :
    total sum (s :: rest) = .nanos reached ↔
      ∃ n, s.amount = .nanos n ∧ sum + n < capacity ∧ total (sum + n) rest = .nanos reached := by
  rw [total]
  cases s.amount with
  | nanos n => by_cases h : sum + n < capacity <;> simp [h]
  | overflow => simp
  | stuck => simp

theorem total_cons_eq_stuck_iff {sum : Nat} {s : Segment} {rest : List Segment} :
    total sum (s :: rest) = .stuck ↔
      s.amount = .stuck ∨
        ∃ n, s.amount = .nanos n ∧ sum + n < capacity ∧ total (sum + n) rest = .stuck := by
  rw [total]
  cases s.amount with
  | nanos n => by_cases h : sum + n < capacity <;> simp [h]
  | overflow => simp
  | stuck => simp

/-- The verdict on a sum of nanoseconds, which has to be positive and fit in 64 bits as seconds. -/
def verdict (text : String) (sum : Nat) : Reading :=
  if sum = 0 then .refused (.notPositive text)
  else if Span.seconds sum < Word.limit64 then .span sum
  else .refused (.overflow text)

theorem verdict_eq_span_iff {text : String} {sum nanos : Nat} :
    verdict text sum = .span nanos ↔ 0 < sum ∧ Span.seconds sum < Word.limit64 ∧ sum = nanos := by
  unfold verdict
  split
  · next h => simp [h]
  · next h =>
    split
    · next hs => simp [Nat.pos_of_ne_zero h, hs]
    · next hs => simp [hs]

/-- Read an interval.  Blanks around the text and the case of its letters do not matter. -/
def read (text : String) : Reading :=
  let trimmed := trim text
  if trimmed = "" then .refused .empty
  else
    let (segments, rest) := Segment.split (lowercase trimmed.toList)
    match total 0 segments with
    | .overflow => .refused (.overflow trimmed)
    | .stuck => .stuck
    | .nanos sum =>
      if segments = [] ∨ rest ≠ [] then .refused (.malformed trimmed) else verdict trimmed sum

/-- Between the blanks there is no segment if there is nothing. -/
theorem split_of_trim_eq_empty {text : String} (h : trim text = "") :
    Segment.split (lowercase (trim text).toList) = ([], []) := by
  rw [h]
  exact Segment.split_of_read?_eq_none rfl

/-- An interval is never empty. -/
theorem pos_of_read_eq_span {text : String} {nanos : Nat} (h : read text = .span nanos) :
    0 < nanos := by
  unfold read at h
  dsimp only at h
  split at h
  · cases h
  · split at h
    · cases h
    · cases h
    · split at h
      · cases h
      · obtain ⟨hpos, -, rfl⟩ := verdict_eq_span_iff.1 h
        exact hpos

end CredentialRotation.Interval
