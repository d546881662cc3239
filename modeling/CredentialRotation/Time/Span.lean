/-!
# Time — Span

A span of time is a natural number of nanoseconds, so that adding and comparing spans is exact.
This module relates it to whole seconds and the nanoseconds beyond them.
-/

namespace CredentialRotation.Span

/-- The nanoseconds in a second. -/
abbrev perSecond : Nat := 1000000000

/-- A span of whole seconds. -/
def ofSeconds (count : Nat) : Nat := count * perSecond

/-- The whole seconds of a span. -/
def seconds (span : Nat) : Nat := span / perSecond

/-- The nanoseconds of a span beyond its whole seconds. -/
def nanos (span : Nat) : Nat := span % perSecond

theorem ofSeconds_seconds_add_nanos (span : Nat) :
    ofSeconds (seconds span) + nanos span = span := by
  simp only [ofSeconds, seconds, nanos, perSecond]
  omega

@[simp] theorem seconds_ofSeconds (count : Nat) : seconds (ofSeconds count) = count := by
  simp only [ofSeconds, seconds, perSecond]
  omega

@[simp] theorem ofSeconds_eq_zero_iff {count : Nat} : ofSeconds count = 0 ↔ count = 0 := by
  simp only [ofSeconds, perSecond]
  omega

end CredentialRotation.Span
