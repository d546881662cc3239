import CredentialRotation.Proofs.Course.Kept
import CredentialRotation.Reconcile

/-!
# Proofs — Course — Scheduled

The delay of a failed or successful attempt is worked out twice: the answer to the event has one,
and the status that is written for the record names a time.  The schedule that the status is written
with holds the same delays as the cycle, with the one for a failure to draw read off before the
failure.

**Main statement** (`nextAttempt_of_taken`).  The two agree, unless a store failure is to be
followed up at once.  Then the answer is the delay that the failures of the resource have earned,
and the status names the time of the failure.
-/

namespace CredentialRotation

variable {σ π : Type}

namespace Reconcile

/-- The schedule of a resource whose interval can be read. -/
theorem schedule?_of_span {r : Resource} {interval : Nat}
    (h : Interval.read r.spec.rotationInterval = .span interval) (key : String) (o : Operator σ π) :
    schedule? r key o = some ⟨some interval, o.storeRetry, o.backoffs.pending key⟩ := by
  rw [schedule?, h]

/-- The schedule of a resource whose interval is refused. -/
theorem schedule?_of_refused {r : Resource} {reason : Interval.Refusal}
    (h : Interval.read r.spec.rotationInterval = .refused reason) (key : String)
    (o : Operator σ π) :
    schedule? r key o = some ⟨none, o.storeRetry, o.backoffs.pending key⟩ := by
  rw [schedule?, h]

/-- A schedule holds the delay after a store failure. -/
theorem storeRetry_of_schedule? {r : Resource} {key : String} {o : Operator σ π} {s : Schedule}
    (h : schedule? r key o = some s) : s.storeRetry = o.storeRetry := by
  unfold schedule? at h
  split at h
  · obtain rfl := Option.some.inj h
    rfl
  · obtain rfl := Option.some.inj h
    rfl
  · cases h

end Reconcile

/-- Without a delay after a store failure, the status names the time of the failure. -/
theorem Schedule.nextAttempt_of_storeRetry_eq_zero {schedule : Schedule} {record : Record}
    (hp : record.phase = some .storeError) (h : schedule.storeRetry = 0) (now : Instant) :
    schedule.nextAttempt record now = now.add? 0 := by
  rw [nextAttempt, hp, ← h]

namespace Cycle

variable [SecretStore σ] {policy : Policy} {interval storeRetry pending delay : Nat}
  {record left : Record} {now : Instant} {next : FollowUp} {w w' : World σ π}

/-- What an attempt leaves is scheduled for the end of the delay that its answer has. -/
theorem Ending.nextAttempt_eq (h : Ending policy interval storeRetry record now w left next w')
    (hpos : 0 < interval) (hsteady : ¬ (left.phase = some .storeError ∧ storeRetry = 0))
    (hanswer : Event.answer pending next = .after delay) :
    Schedule.nextAttempt ⟨some interval, storeRetry, pending⟩ left now = now.add? delay := by
  cases h with
  | undrawn hd =>
      obtain rfl : pending = delay := by simpa [Event.answer] using hanswer
      rfl
  | unwritten hd hw =>
      have hretry : 0 < storeRetry := Nat.pos_of_ne_zero fun h => hsteady ⟨rfl, h⟩
      rw [Event.answer_after_of_pos _ hretry] at hanswer
      obtain rfl := FollowUp.after.inj hanswer
      rfl
  | rotated hd hw =>
      rw [Event.answer_after_of_pos _ hpos] at hanswer
      obtain rfl := FollowUp.after.inj hanswer
      rfl

/-- An attempt is followed by another one. -/
theorem Ending.answer_ne_onChange
    (h : Ending policy interval storeRetry record now w left next w') :
    Event.answer pending next ≠ .onChange := by
  rw [ne_eq, Event.answer_eq_onChange_iff]
  cases h <;> exact FollowUp.noConfusion

end Cycle

namespace Event

variable [SecretStore σ] [RecordSink π] {r : Resource} {now : Instant} {record : Record}
  {o : Operator σ (Transcript π)} {key : String} {schedule : Schedule}

/-- The resource of an event that left a record has a key and a schedule. -/
theorem exists_schedule_of_taken
    (hkept : (handle r now o).2.sink.taken = o.sink.taken ++ [record]) :
    ∃ key schedule, r.key = .ok key ∧ Reconcile.schedule? r key o = some schedule := by
  obtain ⟨key, next, hk, hkind, -⟩ := kept_of_taken hkept
  cases hkind with
  | refused hc =>
      have hsched := Reconcile.schedule?_of_refused (read_of_course?_eq_refused hc) key o
      exact ⟨key, _, hk, hsched⟩
  | ended hc he =>
      have hsched := Reconcile.schedule?_of_span (read_of_course?_eq_attempts hc) key o
      exact ⟨key, _, hk, hsched⟩

/-- **The answer and the status agree.**  An event that left a record and was answered by `delay`
has its next attempt scheduled for the end of that delay. -/
theorem nextAttempt_of_taken {delay : Nat} (hk : r.key = .ok key)
    (hsched : Reconcile.schedule? r key o = some schedule)
    (hkept : (handle r now o).2.sink.taken = o.sink.taken ++ [record])
    (hanswer : (handle r now o).1 = .ok (.after delay))
    (hsteady : ¬ (record.phase = some .storeError ∧ o.storeRetry = 0)) :
    schedule.nextAttempt record now = now.add? delay := by
  obtain ⟨key', next, hk', hkind, hfirst⟩ := kept_of_taken hkept
  obtain rfl : key' = key := Except.ok.inj (hk'.symm.trans hk)
  have hfollow := Except.ok.inj (hfirst.symm.trans hanswer)
  cases hkind with
  | refused hc => cases hfollow
  | ended hc he =>
      have hi := read_of_course?_eq_attempts hc
      rw [Reconcile.schedule?_of_span hi] at hsched
      obtain rfl := Option.some.inj hsched
      exact he.nextAttempt_eq (Interval.pos_of_read_eq_span hi) hsteady hfollow

/-- **An event that left a record and waits for a change** met an interval that is refused. -/
theorem phase_of_taken_of_onChange
    (hkept : (handle r now o).2.sink.taken = o.sink.taken ++ [record])
    (hanswer : (handle r now o).1 = .ok .onChange) : record.phase = some .configError := by
  obtain ⟨key, next, hk, hkind, hfirst⟩ := kept_of_taken hkept
  have hfollow := Except.ok.inj (hfirst.symm.trans hanswer)
  cases hkind with
  | refused hc => rfl
  | ended hc he => exact absurd hfollow he.answer_ne_onChange

end Event

end CredentialRotation
