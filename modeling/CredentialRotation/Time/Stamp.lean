import CredentialRotation.Text.Digit
import CredentialRotation.Time.Calendar
import CredentialRotation.Time.Instant

/-!
# Time — Stamp

An instant as a time stamp such as `2024-05-01T12:00:00.5Z`, by RFC 3339.

Written is the shortest fraction of 0, 3, 6 or 9 digits that loses nothing, a leap second as second
60, and a year outside 0 to 9999 with a sign.  Read is what RFC 3339 admits: any offset from UTC,
any number of digits after the point, of which nine count, and a space or a small letter where it
allows them; years have four digits.
-/

namespace CredentialRotation

open Text

namespace Stamp

/-- How a time stamp ends to say that it is in UTC. -/
inductive Zone where
  /-- The letter `Z`. -/
  | letter
  /-- The offset `+00:00`. -/
  | offset
  deriving DecidableEq, Repr

/-! ### Writing -/

/-- The end of a time stamp. -/
def Zone.chars : Zone → List Char
  | letter => ['Z']
  | offset => ['+', '0', '0', ':', '0', '0']

/-- The year: four digits, or a sign and at least four digits. -/
def yearChars (year : Int) : List Char :=
  if 0 ≤ year ∧ year ≤ 9999 then fixedDigits 4 year.toNat
  else
    let digits := Nat.toDigits 10 year.natAbs
    (if year < 0 then '-' else '+') :: (List.replicate (4 - digits.length) '0' ++ digits)

/-- The point and the digits after it, for a number of nanoseconds below a second. -/
def fractionChars (nano : Nat) : List Char :=
  if nano = 0 then []
  else if nano % 1000000 = 0 then '.' :: fixedDigits 3 (nano / 1000000)
  else if nano % 1000 = 0 then '.' :: fixedDigits 6 (nano / 1000)
  else '.' :: fixedDigits 9 nano

/-- The date. -/
def dateChars (date : Date) : List Char :=
  yearChars date.year ++ '-' :: fixedDigits 2 date.month ++ '-' :: fixedDigits 2 date.day

/-- The time of day, from the second of the day and the nanoseconds beyond it. -/
def timeChars (clock nano : Nat) : List Char :=
  fixedDigits 2 (clock / 3600) ++ ':' :: fixedDigits 2 (clock / 60 % 60) ++
    ':' :: fixedDigits 2 (clock % 60 + nano / Span.perSecond) ++
      fractionChars (nano % Span.perSecond)

/-- The time stamp of an instant. -/
def chars (t : Instant) (zone : Zone) : List Char :=
  dateChars (Date.ofDay t.day) ++ 'T' :: timeChars t.secondOfDay.toNat t.nano ++ zone.chars

/-! ### Reading -/

/-- The number that exactly `width` digits write, and the rest. -/
def readFixed? (width : Nat) (cs : List Char) : Option (Nat × List Char) :=
  if cs.length < width then none
  else (numberFrom? 0 (cs.take width)).map fun n => (n, cs.drop width)

/-- The text after a mark, which has to be one of `marks`. -/
def readMark? (marks : List Char) : List Char → Option (List Char)
  | [] => none
  | c :: cs => if marks.contains c then some cs else none

/-- The date, which has to be in the calendar, and the rest. -/
def readDate? (cs : List Char) : Option (Date × List Char) := do
  let (year, cs) ← readFixed? 4 cs
  let cs ← readMark? ['-'] cs
  let (month, cs) ← readFixed? 2 cs
  let cs ← readMark? ['-'] cs
  let (day, cs) ← readFixed? 2 cs
  let date : Date := ⟨year, month, day⟩
  if date.IsValid then some (date, cs) else none

/-- The nanoseconds that a fraction writes, and the rest. -/
def readFraction? : List Char → Option (Nat × List Char)
  | '.' :: cs =>
    match cs.takeWhile fun c => (digitValue? c).isSome with
    | [] => none
    | digits =>
      (numberFrom? 0 (digits.take 9)).map fun n =>
        (n * Nat.pow 10 (9 - digits.length), cs.dropWhile fun c => (digitValue? c).isSome)
  | cs => some (0, cs)

/-- The second of the day, the nanoseconds beyond it, and the rest.  Second 60 is the leap second
that goes on where second 59 ends. -/
def readTime? (cs : List Char) : Option (Nat × Nat × List Char) := do
  let (hour, cs) ← readFixed? 2 cs
  let cs ← readMark? [':'] cs
  let (minute, cs) ← readFixed? 2 cs
  let cs ← readMark? [':'] cs
  let (second, cs) ← readFixed? 2 cs
  let (nano, cs) ← readFraction? cs
  if hour < 24 ∧ minute < 60 ∧ second ≤ 60 then
    some (hour * 3600 + minute * 60 + min second 59,
      if second = 60 then Span.perSecond + nano else nano, cs)
  else none

/-- The seconds of an offset without its sign, and the rest. -/
def readOffset? (cs : List Char) : Option (Nat × List Char) := do
  let (hour, cs) ← readFixed? 2 cs
  let cs ← readMark? [':'] cs
  let (minute, cs) ← readFixed? 2 cs
  if hour < 24 ∧ minute < 60 then some (hour * 3600 + minute * 60, cs) else none

/-- The seconds by which the zone is ahead of UTC, and the rest.  The sign may be a minus sign of
its own as well as a hyphen. -/
def readZone? : List Char → Option (Int × List Char)
  | [] => none
  | c :: cs =>
    if c = 'Z' ∨ c = 'z' then some (0, cs)
    else if c = '+' then (readOffset? cs).map fun (seconds, rest) => ((seconds : Int), rest)
    else if c = '-' ∨ c = '−' then
      (readOffset? cs).map fun (seconds, rest) => (-(seconds : Int), rest)
    else none

/-- The instant that a time stamp writes. -/
def read? (cs : List Char) : Option Instant := do
  let (date, cs) ← readDate? cs
  let cs ← readMark? ['T', 't', ' '] cs
  let (clock, nano, cs) ← readTime? cs
  let (ahead, cs) ← readZone? cs
  if cs = [] then Instant.of? (date.toDay * Instant.dayLength + clock - ahead) nano else none

end Stamp

namespace Instant

/-- The time stamp of the instant. -/
def toText (t : Instant) : String := String.ofList (Stamp.chars t .letter)

/-- The instant of a time stamp. -/
def ofText? (text : String) : Option Instant := Stamp.read? text.toList

end Instant

end CredentialRotation
