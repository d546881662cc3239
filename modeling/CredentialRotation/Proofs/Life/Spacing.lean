import CredentialRotation.Proofs.Life.Basic

/-!
# Proofs — Life — Spacing

A secret is not rotated early.  The status holds the time of the last rotation in writing, and
whatever happens to the resource until the store is asked again, that time stays
(`rotatedAt_through`): an event that fails leaves it, one that waits writes nothing, and no edit
touches the status.

**Main statement** (`not_rotated_early`).  From a rotation whose record was kept to the next time
that the store is asked, no less than the interval passes that the spec names by then, unless that
event was asked for by hand.
-/

namespace CredentialRotation

variable {σ π : Type} [SecretStore σ] [RecordSink π]

/-- A wait that is over has passed by the ticks. -/
theorem Instant.ticks_add_le_of_le_elapsed {start now : Instant} {span : Nat} (hs : ¬ start.IsLeap)
    (hn : ¬ now.IsLeap) (hpos : 0 < span) (h : span ≤ now.elapsed start) :
    start.ticks + span ≤ now.ticks := by
  rw [elapsed, since_eq_sub hn hs] at h
  omega

namespace Occurrence

variable {e : Occurrence σ π} {last : Instant}

/-- An event that rotated the secret and whose record was kept leaves its time in the status. -/
theorem rotatedAt_after_of_rotated (hw : e.written? = some true) (hk : e.kept? ≠ none)
    (hr : e.now.IsReadable) : e.after.resource.record.rotatedAt = some e.now := by
  obtain ⟨record, hrecord⟩ := Option.ne_none_iff_exists'.1 hk
  have hands := hands_of_kept? hrecord
  rw [hw] at hands
  rw [resource_after_of_some hrecord, Resource.record_recorded, hands.rotatedAt_of_true,
    Option.filter_some, if_pos (decide_eq_true hr)]

/-- An event that did not ask the store leaves the time of the last rotation as it was. -/
theorem rotatedAt_after_of_unasked (hw : e.written? = none) (hr : last.IsReadable)
    (h : e.resource.record.rotatedAt = some last) :
    e.after.resource.record.rotatedAt = some last := by
  cases hk : e.kept? with
  | none => rw [resource_after_of_none hk, h]
  | some record =>
      have hsame := (hands_of_kept? hk).rotatedAt_eq (by rw [hw]; exact nofun)
      rw [resource_after_of_some hk, Resource.record_recorded, hsame, h, Option.filter_some,
        if_pos (decide_eq_true hr)]

/-- An event that asks the store without being asked for by hand finds the interval over. -/
theorem over_of_asked (hasked : e.written? ≠ none) (hm : e.trigger ≠ .manual)
    (h : e.resource.record.rotatedAt = some last) :
    ∃ interval, Interval.read e.resource.spec.rotationInterval = .span interval ∧
      interval ≤ e.now.elapsed last := by
  obtain ⟨interval, hc⟩ := course?_of_written? hasked
  obtain ⟨-, -, hcourse⟩ := Event.course?_eq_some_iff.1 hc
  have hforced : decide (Trigger.classify e.resource e.now = .manual) = false := decide_eq_false hm
  rw [hforced, Cycle.course_eq_attempts_iff] at hcourse
  obtain ⟨hread, hforce | hdue⟩ := hcourse
  · cases hforce
  · rw [h, Due.decide_eq_rotateNow_iff] at hdue
    exact ⟨interval, hread, hdue⟩

end Occurrence

namespace Life

/-- **Until the store is asked again, the time of the last rotation stays.** -/
theorem rotatedAt_through {l : Life σ π} {turns : List (Turn σ π)} {last : Instant}
    (hr : last.IsReadable) (hquiet : ∀ e ∈ l.occurrences turns, e.written? = none)
    (h : l.resource.record.rotatedAt = some last) :
    (l.through turns).resource.record.rotatedAt = some last := by
  have hkeeps : ∀ e ∈ l.occurrences turns, e.resource.record.rotatedAt = some last →
      e.after.resource.record.rotatedAt = some last :=
    fun e he => Occurrence.rotatedAt_after_of_unasked (hquiet e he) hr
  exact (status_through
    (P := fun status => ((status.map Status.record).getD .blank).rotatedAt = some last) hkeeps h).2

/-- **Never rotated early.**  In a run, whatever the edits and failures in it and wherever the clock
goes, an event rotated the secret and its record was kept; the next event that asks the store was
not asked for by hand.  Then the interval that the spec of the resource names at that event has
passed between the two. -/
theorem not_rotated_early {start : Life σ π} {turns : List (Turn σ π)}
    {earlier between later : List (Occurrence σ π)} {first next : Occurrence σ π}
    (hrun : start.occurrences turns = earlier ++ first :: (between ++ next :: later))
    (hrotated : first.written? = some true) (hkept : first.kept? ≠ none)
    (hquiet : ∀ e ∈ between, e.written? = none) (hasked : next.written? ≠ none)
    (hmanual : next.trigger ≠ .manual) (hreadable : first.now.IsReadable)
    (hfirst : ¬ first.now.IsLeap) (hnext : ¬ next.now.IsLeap) :
    ∃ interval, Interval.read next.resource.spec.rotationInterval = .span interval ∧
      first.now.ticks + interval ≤ next.now.ticks := by
  -- the events in between are those of the turns that lead from the one to the other
  obtain ⟨-, rest, -, -, -, hrest⟩ := exists_turns_of_occurrences_eq hrun
  obtain ⟨middle, -, -, hmiddle, hlife, -⟩ := exists_turns_of_occurrences_eq hrest
  have hlast : next.resource.record.rotatedAt = some first.now := by
    rw [hlife]
    exact rotatedAt_through hreadable (hmiddle ▸ hquiet)
      (Occurrence.rotatedAt_after_of_rotated hrotated hkept hreadable)
  obtain ⟨interval, hread, hover⟩ := Occurrence.over_of_asked hasked hmanual hlast
  have hpos := Interval.pos_of_read_eq_span hread
  exact ⟨interval, hread, Instant.ticks_add_le_of_le_elapsed hfirst hnext hpos hover⟩

/-- The secret is rotated at eight, and is to be rotated every half an hour from then on.  It is not
due at twenty past eight; at half past eight there is nothing to draw from, then the clock is set
back, and a minute later the store is down. -/
def morning : List (Turn MemoryStore Journal) :=
  [.event (Specimen.occasion 0),
    .edit ⟨some "orders-db", some "payments", some 2, []⟩
      { Specimen.unrotated.spec with rotationInterval := "30m" },
    .event (Specimen.occasion 1200000), .operator (Specimen.keeper .succeed 0),
    .event (Specimen.occasion 1800000), .operator (Specimen.keeper (.fail "down") 16),
    .event (Specimen.occasion 60000), .event (Specimen.occasion 1860000)]

/-- What the events of that morning found and did. -/
theorem occurrences_morning :
    ((mk Specimen.unrotated (Specimen.keeper .succeed 16)).occurrences morning).map
        (fun e =>
          (e.resource.spec.rotationInterval, e.trigger, e.written?, e.kept?.bind Record.phase)) =
      [("1h", .specChanged, some true, some .ready), ("30m", .specChanged, none, none),
        ("30m", .specChanged, none, some .generationError),
        ("30m", .notDue 1741000000000, none, none),
        ("30m", .due, some false, some .storeError)] := by
  decide +kernel

/-- The store is asked at eight, and next at half past eight and a minute. -/
theorem morning_not_early :
    ∃ first between next,
      (mk Specimen.unrotated (Specimen.keeper .succeed 16)).occurrences morning =
          first :: (between ++ [next]) ∧
        first.written? = some true ∧ first.kept? ≠ none ∧ (∀ e ∈ between, e.written? = none) ∧
        next.written? = some false ∧ next.trigger = .due ∧
        ∃ interval, Interval.read "30m" = .span interval ∧
          (Specimen.clock 0).ticks + interval ≤ (Specimen.clock 1860000).ticks := by
  obtain ⟨first, second, third, fourth, next, hrun, hfirst, hnext⟩ :
      ∃ first second third fourth next,
        (mk Specimen.unrotated (Specimen.keeper .succeed 16)).occurrences morning =
            first :: ([second, third, fourth] ++ [next]) ∧
          first.now = Specimen.clock 0 ∧ next.now = Specimen.clock 1860000 :=
    ⟨_, _, _, _, _, rfl, rfl, rfl⟩
  have hseen := occurrences_morning
  simp only [hrun, List.cons_append, List.nil_append, List.map_cons, List.map_nil, List.cons.injEq,
    Prod.mk.injEq, and_true] at hseen
  obtain ⟨⟨-, -, hrotated, hready⟩, ⟨-, -, h₂, -⟩, ⟨-, -, h₃, -⟩, ⟨-, -, h₄, -⟩, hspec, hdue,
    hasked, -⟩ := hseen
  have hkept : first.kept? ≠ none := by
    intro h
    rw [h] at hready
    cases hready
  have hquiet : ∀ e ∈ [second, third, fourth], e.written? = none := by
    simp only [List.forall_mem_cons, List.not_mem_nil, false_imp_iff, implies_true,
      and_true, h₂, h₃, h₄]
  refine ⟨first, _, next, hrun, hrotated, hkept, hquiet, hasked, hdue, ?_⟩
  have hfromStart : (mk Specimen.unrotated (Specimen.keeper .succeed 16)).occurrences morning =
      [] ++ first :: ([second, third, fourth] ++ [next]) := hrun
  rw [← hspec, ← hfirst, ← hnext]
  exact not_rotated_early hfromStart hrotated hkept hquiet (by rw [hasked]; exact nofun)
    (by rw [hdue]; exact nofun) (by rw [hfirst]; decide) (by rw [hfirst]; decide)
    (by rw [hnext]; decide)

end Life

end CredentialRotation
