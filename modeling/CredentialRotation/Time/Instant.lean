import CredentialRotation.Time.Span

/-!
# Time — Instant

A moment of UTC: the second it lies in, counted from 1970-01-01T00:00:00, and the nanoseconds passed
since that second began.  A leap second has no number of its own.  It goes on where the last second
of a minute ends, so that there the nanoseconds run up to two seconds.

**Main statements.**  Outside leap seconds the distance of two instants is the difference of their
ticks (`since_eq_sub`), and `add?` moves an instant by exactly the span added (`ticks_of_add?`).
-/

namespace CredentialRotation

/-- A moment of UTC. -/
@[ext]
structure Instant where
  /-- The whole seconds since 1970-01-01T00:00:00. -/
  second : Int
  /-- The nanoseconds since that second began. -/
  nano : Nat
  nano_lt : nano < 2 * Span.perSecond
  /-- A leap second follows the last second of a minute only. -/
  leap_at : Span.perSecond ≤ nano → second % 60 = 59
  deriving DecidableEq, Repr

namespace Instant

/-- The seconds in a day. -/
abbrev dayLength : Int := 86400

/-- The instant lies in a leap second. -/
def IsLeap (t : Instant) : Prop := Span.perSecond ≤ t.nano

instance (t : Instant) : Decidable t.IsLeap := by
  unfold IsLeap
  infer_instance

/-- The instant of a second and the nanoseconds since it began, if there is one. -/
def of? (second : Int) (nano : Nat) : Option Instant :=
  if h : nano < 2 * Span.perSecond ∧ (Span.perSecond ≤ nano → second % 60 = 59) then
    some ⟨second, nano, h.1, h.2⟩
  else none

/-- The last second that can be written: the end of the year 262142. -/
def lastSecond : Int := 8210266876799

/-- The nanoseconds since 1970-01-01T00:00:00, leap seconds not counted. -/
def ticks (t : Instant) : Int := t.second * Span.perSecond + t.nano

/-! ### The distance between two instants -/

/-- The day of the instant, counted from 1970-01-01. -/
def day (t : Instant) : Int := t.second / dayLength

/-- The second of the day. -/
def secondOfDay (t : Instant) : Int := t.second % dayLength

/-- The leap second that lies between the two times of day, and was begun by the earlier of them. -/
def leapBetween (t start : Instant) : Int :=
  if start.secondOfDay < t.secondOfDay ∧ start.IsLeap then 1
  else if t.secondOfDay < start.secondOfDay ∧ t.IsLeap then -1
  else 0

/-- The nanoseconds from `start` to `t`, negative where `t` is the earlier one. -/
def since (t start : Instant) : Int :=
  t.ticks - start.ticks + t.leapBetween start * Span.perSecond

/-- The span from `start` to `t`, nothing where `t` is the earlier one. -/
def elapsed (t start : Instant) : Nat := (t.since start).toNat

theorem leapBetween_eq_zero {t start : Instant} (ht : ¬ t.IsLeap) (hs : ¬ start.IsLeap) :
    t.leapBetween start = 0 := by
  rw [leapBetween, if_neg fun h => hs h.2, if_neg fun h => ht h.2]

theorem since_eq_sub {t start : Instant} (ht : ¬ t.IsLeap) (hs : ¬ start.IsLeap) :
    t.since start = t.ticks - start.ticks := by
  rw [since, leapBetween_eq_zero ht hs, Int.zero_mul, Int.add_zero]

@[simp] theorem since_self (t : Instant) : t.since t = 0 := by
  simp [since, leapBetween]

/-! ### Moving on -/

/-- The instant so many nanoseconds after 1970-01-01T00:00:00. -/
def ofTicks (ticks : Int) : Instant :=
  ⟨ticks / Span.perSecond, (ticks % Span.perSecond).toNat, by
    simp only [Span.perSecond]; omega, by simp only [Span.perSecond]; omega⟩

theorem ticks_ofTicks (n : Int) : (ofTicks n).ticks = n := by
  simp only [ofTicks, ticks, Span.perSecond]
  omega

theorem not_isLeap_ofTicks (n : Int) : ¬ (ofTicks n).IsLeap := by
  simp only [ofTicks, IsLeap, Span.perSecond]
  omega

/-- Two instants outside leap seconds are equal if they have the same ticks. -/
theorem eq_of_ticks_eq {t u : Instant} (ht : ¬ t.IsLeap) (hu : ¬ u.IsLeap) (h : t.ticks = u.ticks) :
    t = u := by
  simp only [IsLeap, ticks, Span.perSecond] at *
  exact Instant.ext (by omega) (by omega)

theorem ofTicks_ticks {t : Instant} (h : ¬ t.IsLeap) : ofTicks t.ticks = t :=
  eq_of_ticks_eq (not_isLeap_ofTicks _) h (ticks_ofTicks _)

/-- The instant `span` after `t`, unless it lies past `lastSecond`.  A span that stays in the leap
second of `t` moves within it; any longer one starts from the second before. -/
def add? (t : Instant) (span : Nat) : Option Instant :=
  if h : t.IsLeap ∧ t.nano + span < 2 * Span.perSecond then
    some ⟨t.second, t.nano + span, h.2, fun _ => t.leap_at h.1⟩
  else
    let sum := ofTicks (t.second * Span.perSecond + (t.nano % Span.perSecond + span : Nat))
    if sum.second ≤ lastSecond then some sum else none

theorem add?_eq_some_iff {t u : Instant} (h : ¬ t.IsLeap) {span : Nat} :
    t.add? span = some u ↔ u = ofTicks (t.ticks + span) ∧ u.second ≤ lastSecond := by
  have hn : t.nano % Span.perSecond = t.nano := Nat.mod_eq_of_lt (Nat.lt_of_not_le h)
  have hs : t.second * (Span.perSecond : Int) + ((t.nano + span : Nat) : Int) = t.ticks + span := by
    rw [ticks, Int.natCast_add, Int.add_assoc]
  rw [add?, dif_neg fun hl => h hl.1, hn, hs]
  dsimp only
  split
  · next hle =>
    constructor
    · intro he
      obtain rfl := Option.some.inj he
      exact ⟨rfl, hle⟩
    · rintro ⟨rfl, -⟩
      rfl
  · next hle =>
    constructor
    · intro he
      cases he
    · rintro ⟨rfl, hlast⟩
      exact absurd hlast hle

theorem ticks_of_add? {t u : Instant} (h : ¬ t.IsLeap) {span : Nat} (ha : t.add? span = some u) :
    u.ticks = t.ticks + span ∧ ¬ u.IsLeap := by
  obtain ⟨rfl, -⟩ := (add?_eq_some_iff h).1 ha
  exact ⟨ticks_ofTicks _, not_isLeap_ofTicks _⟩

end Instant

end CredentialRotation
