import CredentialRotation.Proofs.Course.Echo
import CredentialRotation.Proofs.Course.Scheduled
import CredentialRotation.Settings.Controller

/-!
# Proofs — Retry

What becomes of the next attempt that a failed one has promised.  The status names its time, and the
answer to the event names a delay; both are kept only as far as the gate and the interval let them.

* `retry_attempts_iff`: at the time that the status names, a new attempt is made, and so a password
  drawn, exactly if the interval since the last rotation is over by then.  Where the failed attempt
  was not asked for by hand, it is.  Where it was asked for inside the interval, the event waits for
  the rest of the interval instead: the request has been answered, and nothing is left that would
  force the cycle.
* `attempts_within_delay_iff`: before the delay of the answer is over, a secret that is due is
  attempted again exactly if the delay after a store failure is set to zero, where the answer has a
  delay that the status does not have, or if the time of the next attempt is past the year 9999 and
  reads as none.
-/

namespace CredentialRotation.Event

variable {σ π : Type} [SecretStore σ] [RecordSink π] {r : Resource} {now later : Instant}
  {o : Operator σ (Transcript π)} {record : Record} {schedule : Schedule} {generation : Int}

/-- The record is of an attempt that failed. -/
def IsFailedAttempt (record : Record) : Prop :=
  record.phase = some .storeError ∨ record.phase = some .generationError

theorem IsFailedAttempt.ne_configError (h : IsFailedAttempt record) :
    record.phase ≠ some .configError := by
  rcases h with h | h <;> (rw [h]; exact fun hp => nomatch Option.some.inj hp)

theorem IsFailedAttempt.ne_ready (h : IsFailedAttempt record) : record.phase ≠ some .ready := by
  rcases h with h | h <;> (rw [h]; exact fun hp => nomatch Option.some.inj hp)

/-- What is known of an event that left the record of a failed attempt. -/
theorem attempt_of_failed
    (hkept : (handle r now o).2.sink.taken = o.sink.taken ++ [record])
    (hf : IsFailedAttempt record) :
    ∃ key interval, r.key = .ok key ∧ r.spec.suspend = false ∧
      Interval.read r.spec.rotationInterval = .span interval ∧
      record.rotatedAt = r.record.rotatedAt ∧
      (Trigger.classify r now = .manual ∨
        Due.decide interval r.record.rotatedAt now = .rotateNow) := by
  obtain ⟨key, next, hk, hkind, -⟩ := kept_of_taken hkept
  cases hkind with
  | refused _ => exact absurd rfl hf.ne_configError
  | @ended interval _ _ w hc he =>
      obtain ⟨hs, -, hcourse⟩ := course?_eq_some_iff.1 hc
      obtain ⟨hi, hdue⟩ := Cycle.course_eq_attempts_iff.1 hcourse
      rw [decide_eq_true_eq] at hdue
      exact ⟨key, interval, hk, hs, hi, he.rotatedAt_eq hf.ne_ready, hdue⟩

omit [SecretStore σ] [RecordSink π] in
/-- Records of the same rotation are due together. -/
theorem isDue_congr {earlier : Record} {interval : Nat} (h : record.rotatedAt = earlier.rotatedAt) :
    record.IsDue interval later ↔ earlier.IsDue interval later := by
  rw [Record.IsDue, Record.IsDue, h]

/-- A secret that was due when an attempt was made without being asked for stays due. -/
theorem isDue_of_decide {interval : Nat} (hnow : ¬ now.IsLeap) (hlater : ¬ later.IsLeap)
    (hlast : ∀ last, record.rotatedAt = some last → ¬ last.IsLeap) (hle : now ≤ later)
    (hd : Due.decide interval record.rotatedAt now = .rotateNow) : record.IsDue interval later := by
  intro last he _
  have hover := Due.decide_eq_rotateNow_iff_forall.1 hd last he
  exact Nat.le_trans hover (Instant.elapsed_mono (hlast last he) hnow hlater hle)

/-- The time of the next attempt after a failed one is reached by adding a delay to the clock. -/
theorem add?_of_nextAttempt? {next : Instant} (hf : IsFailedAttempt record)
    (hnext : (r.recorded record schedule now).nextAttempt? = some next) :
    ∃ delay, now.add? delay = some next := by
  rw [Resource.nextAttempt?_recorded, Option.filter_eq_some_iff] at hnext
  obtain ⟨hn, -⟩ := hnext
  rcases hf with hp | hp
  · exact ⟨schedule.storeRetry, by rw [← hn, Schedule.nextAttempt, hp]⟩
  · exact ⟨schedule.generationRetry, by rw [← hn, Schedule.nextAttempt, hp]⟩

/-- An event at the time of the next attempt for a secret that is not due waits for the rest of the
interval. -/
theorem handle_recorded_of_not_isDue {next : Instant} {key : String} {interval : Nat}
    (hk : r.key = .ok key) (hs : r.spec.suspend = false)
    (hg : r.metadata.generation = some generation) (hp : record.phase ≠ some .configError)
    (hi : Interval.read r.spec.rotationInterval = .span interval)
    (hnext : (r.recorded record schedule now).nextAttempt? = some next)
    (hcome : next.since later ≤ 0) (hd : ¬ record.IsDue interval later)
    (o : Operator σ (Transcript π)) :
    ∃ last, record.rotatedAt = some last ∧ later.elapsed last < interval ∧
      (handle (r.recorded record schedule now) later o).1 =
        .ok (.after (interval - later.elapsed last)) := by
  have hruns : (Trigger.classify (r.recorded record schedule now) later).runs = true :=
    (runs_recorded_iff hg hp).2 fun t ht => Option.some.inj (hnext.symm.trans ht) ▸ hcome
  -- the request was answered by the attempt that failed, so that nothing forces this one
  have hforced :
      decide (Trigger.classify (r.recorded record schedule now) later = .manual) = false :=
    decide_eq_false (classify_recorded_ne_manual hg)
  have hwait : Due.decide interval (r.recorded record schedule now).record.rotatedAt later ≠
      .rotateNow := by
    intro h
    refine hd fun last he hr => Due.decide_eq_rotateNow_iff_forall.1 h last ?_
    rw [Resource.record_recorded, he]
    simp [hr]
  obtain ⟨last, hlast, hlt, hdecide⟩ := Due.exists_waitFor_of_ne hwait
  have hc : course? (r.recorded record schedule now) later =
      some (.waits (interval - later.elapsed last)) := by
    exact course?_eq_some_iff.2 ⟨hs, hruns,
      Cycle.course_eq_waits_iff.2 ⟨hforced, interval, hi, hdecide⟩⟩
  have hplayed : ((Cycle.Course.waits (interval - later.elapsed last)).play r.spec.policy
      (r.recorded record schedule now).record later o.storeRetry o.toWorld).1 =
      .ok ⟨(r.recorded record schedule now).record, .after (interval - later.elapsed last)⟩ := rfl
  rw [Resource.record_recorded] at hlast
  refine ⟨last, (Option.filter_eq_some_iff.1 hlast).1, hlt, ?_⟩
  rw [handle_of_course?_eq_some ((Resource.key_recorded r record schedule now).trans hk) hc,
    Resource.spec_recorded, settle_fst_of_ok hplayed, answer_after_of_pos _ (Nat.sub_pos_of_lt hlt)]

/-! ### At the time of the next attempt -/

/-- **What the next attempt comes to.**  An event on the resource at `now` has left the record of an
attempt that failed, and the status that was written for it names `next`.  An event at that time or
later is an attempt exactly if the secret is due by then.  Outside leap seconds that can only fail
for an attempt that was asked for by hand.  What happens instead is a wait for the rest of the
interval.  An event that is an attempt draws a password; any other leaves the store and the random
source alone. -/
theorem retry_attempts_iff {next : Instant} (hg : r.metadata.generation = some generation)
    (hkept : (handle r now o).2.sink.taken = o.sink.taken ++ [record]) (hf : IsFailedAttempt record)
    (hnext : (r.recorded record schedule now).nextAttempt? = some next) (hle : next ≤ later) :
    ∃ interval, Interval.read r.spec.rotationInterval = .span interval ∧
      (Attempts (r.recorded record schedule now) later ↔
        next.since later ≤ 0 ∧ r.record.IsDue interval later) ∧
      (¬ now.IsLeap → ¬ later.IsLeap → (∀ last, r.record.rotatedAt = some last → ¬ last.IsLeap) →
        (Attempts (r.recorded record schedule now) later ↔
          (Trigger.classify r now = .manual → r.record.IsDue interval later))) ∧
      (next.since later ≤ 0 → ¬ r.record.IsDue interval later → ∀ o' : Operator σ (Transcript π),
        ∃ last, r.record.rotatedAt = some last ∧ later.elapsed last < interval ∧
          (handle (r.recorded record schedule now) later o').1 =
            .ok (.after (interval - later.elapsed last))) ∧
      (Attempts (r.recorded record schedule now) later → ∀ o' : Operator σ (Transcript π),
        ∃ key, r.key = .ok key ∧ handle (r.recorded record schedule now) later o' =
          settle key o' (Cycle.attempt r.spec.policy interval o'.storeRetry
            (r.recorded record schedule now).record later o'.toWorld)) ∧
      (¬ Attempts (r.recorded record schedule now) later → ∀ o' : Operator σ (Transcript π),
        (handle (r.recorded record schedule now) later o').2.store = o'.store ∧
          (handle (r.recorded record schedule now) later o').2.entropy = o'.entropy) := by
  obtain ⟨key, interval, hk, hs, hi, hlast, hwhy⟩ := attempt_of_failed hkept hf
  -- the failed attempt has left the time of the last rotation as it was
  have hdue : record.IsDue interval later ↔ r.record.IsDue interval later := isDue_congr hlast
  have hiff : Attempts (r.recorded record schedule now) later ↔
      next.since later ≤ 0 ∧ r.record.IsDue interval later := by
    rw [attempts_recorded_iff hk hs hg hf.ne_configError hi, hdue, hnext]
    exact and_congr_left fun _ =>
      ⟨fun h => h next rfl, fun h t ht => Option.some.inj ht ▸ h⟩
  refine ⟨interval, hi, hiff, fun hnow hlater hleap => ?_, fun hcome hd o' => ?_, fun h o' => ?_,
    fun hn o' => world_of_not_attempts hn o'⟩
  · obtain ⟨delay, hadd⟩ := add?_of_nextAttempt? hf hnext
    have hcome : next.since later ≤ 0 :=
      (Instant.since_nonpos_iff (Instant.ticks_of_add? hnow hadd).2 hlater).2 hle
    rw [hiff]
    constructor
    · exact fun h _ => h.2
    · intro h
      refine ⟨hcome, ?_⟩
      rcases hwhy with hm | hd
      · exact h hm
      · exact isDue_of_decide hnow hlater hleap (le_trans (Instant.le_of_add? hadd) hle) hd
  · rw [← hlast]
    exact handle_recorded_of_not_isDue hk hs hg hf.ne_configError hi hnext hcome (mt hdue.1 hd) o'
  · obtain ⟨key', interval', hk', hi', hhandle⟩ := handle_of_attempts h o'
    obtain rfl := Interval.Reading.span.inj (hi'.symm.trans hi)
    exact ⟨key', hk', hhandle⟩

/-- The secret, once a rotation that was asked for at five past eight has failed and been
recorded. -/
def turnedDown (schedule : Schedule) : Resource :=
  Specimen.requested.recorded (Specimen.unwritten (some (Specimen.clock 0))) schedule
    (Specimen.clock 300000)

/-- A rotation that is asked for at five past eight and fails is not tried again half a minute
later, although the status names that time: no password is drawn. -/
theorem requested_retry_waits :
    (handle Specimen.requested (Specimen.clock 300000)
          (Specimen.operator 30000000000)).2.sink.taken =
        [Specimen.unwritten (some (Specimen.clock 0))] ∧
      ∃ schedule, (turnedDown schedule).nextAttempt? = some (Specimen.clock 330000) ∧
        ¬ Attempts (turnedDown schedule) (Specimen.clock 330000) ∧
        ∀ o : Operator MemoryStore (Transcript Journal),
          (handle (turnedDown schedule) (Specimen.clock 330000) o).2.entropy = o.entropy := by
  have hkept : (handle Specimen.requested (Specimen.clock 300000)
        (Specimen.operator 30000000000)).2.sink.taken =
      (Specimen.operator 30000000000).sink.taken ++
        [Specimen.unwritten (some (Specimen.clock 0))] := by
    decide +kernel
  have hnext : (turnedDown ⟨some 3600000000000, 30000000000, 1000000000⟩).nextAttempt? =
      some (Specimen.clock 330000) := by
    decide +kernel
  have hg : Specimen.requested.metadata.generation = some 1 := rfl
  obtain ⟨interval, hi, hiff, -, -, -, hworld⟩ :=
    retry_attempts_iff hg hkept (.inl rfl) hnext (le_refl _)
  have hour : Interval.read Specimen.requested.spec.rotationInterval = .span 3600000000000 := by
    decide +kernel
  obtain rfl := Interval.Reading.span.inj (hour.symm.trans hi)
  have hlast : Specimen.requested.record.rotatedAt = some (Specimen.clock 0) := by decide +kernel
  have hnot : ¬ Attempts (turnedDown ⟨some 3600000000000, 30000000000, 1000000000⟩)
      (Specimen.clock 330000) := by
    intro h
    have hover := (hiff.1 h).2 _ hlast (by decide)
    exact absurd hover (by decide)
  exact ⟨hkept, _, hnext, hnot, fun o => (hworld hnot o).2⟩

/-! ### Before the delay of the answer is over -/

/-- The delay after a store failure is set to zero: the answer has the delay that the failures of
the resource have earned, but the status names the time of the failure itself. -/
def IsHasty (settings : ControllerSettings) (record : Record) : Prop :=
  record.phase = some .storeError ∧ settings.storeRetry = 0

omit [SecretStore σ] [RecordSink π] in
theorem isHasty_iff {settings : ControllerSettings} (ho : o.storeRetry = settings.storeRetrySpan) :
    IsHasty settings record ↔ record.phase = some .storeError ∧ o.storeRetry = 0 := by
  rw [IsHasty, ho, ControllerSettings.storeRetrySpan, Span.ofSeconds_eq_zero_iff]

/-- The gate opens at the end of the delay, where that can be read; without a delay after store
failures it opens with the failure. -/
theorem gate_opens_iff {env : Environment} {key : String} {delay : Nat}
    (ho : o.storeRetry = (ControllerSettings.ofEnvironment env).storeRetrySpan)
    (hyear : now.IsReadable) (hk : r.key = .ok key)
    (hsched : Reconcile.schedule? r key o = some schedule)
    (hkept : (handle r now o).2.sink.taken = o.sink.taken ++ [record])
    (hanswer : (handle r now o).1 = .ok (.after delay)) :
    (∀ next, (r.recorded record schedule now).nextAttempt? = some next → next.since later ≤ 0) ↔
      IsHasty (.ofEnvironment env) record ∧ now.since later ≤ 0 ∨
        ¬ IsHasty (.ofEnvironment env) record ∧
          ∀ stop, now.add? delay = some stop → stop.IsReadable → stop.since later ≤ 0 := by
  rw [Resource.nextAttempt?_recorded]
  by_cases hh : IsHasty (.ofEnvironment env) record
  · obtain ⟨hp, hzero⟩ := (isHasty_iff ho).1 hh
    rw [← Reconcile.storeRetry_of_schedule? hsched] at hzero
    rw [Schedule.nextAttempt_of_storeRetry_eq_zero hp hzero, Instant.add?_zero hyear.2]
    simp [hh, hyear]
  · have hsteady : ¬ (record.phase = some .storeError ∧ o.storeRetry = 0) :=
      mt (isHasty_iff ho).2 hh
    rw [nextAttempt_of_taken hk hsched hkept hanswer hsteady]
    simp [hh, Option.filter_eq_some_iff]

/-- **When the delay of the answer is kept.**  An event at `now` has left the record of an attempt
that failed and was answered by `delay`.  An event within that delay, on the resource with the
status that was written for the record, is an attempt exactly if the secret is due and the gate does
not hold it: because the delay after a store failure is set to zero, or because the time of the next
attempt cannot be read back.  An event that is no attempt leaves the store and the random source
alone. -/
theorem attempts_within_delay_iff {env : Environment} {delay : Nat}
    (ho : o.storeRetry = (ControllerSettings.ofEnvironment env).storeRetrySpan)
    (hg : r.metadata.generation = some generation) (hyear : now.IsReadable)
    (hkept : (handle r now o).2.sink.taken = o.sink.taken ++ [record]) (hf : IsFailedAttempt record)
    (hanswer : (handle r now o).1 = .ok (.after delay))
    (hle : now ≤ later) (hlt : ∀ stop, now.add? delay = some stop → later < stop) :
    ∃ key schedule interval, r.key = .ok key ∧ Reconcile.schedule? r key o = some schedule ∧
      Interval.read r.spec.rotationInterval = .span interval ∧
      (Attempts (r.recorded record schedule now) later ↔
        r.record.IsDue interval later ∧
          (IsHasty (.ofEnvironment env) record ∧ now.since later ≤ 0 ∨
            ¬ IsHasty (.ofEnvironment env) record ∧
              ∀ stop, now.add? delay = some stop → stop.IsReadable → stop.since later ≤ 0)) ∧
      (¬ now.IsLeap → ¬ later.IsLeap →
        (Attempts (r.recorded record schedule now) later ↔
          r.record.IsDue interval later ∧
            (IsHasty (.ofEnvironment env) record ∨
              ∀ stop, now.add? delay = some stop → ¬ stop.IsReadable))) ∧
      (¬ Attempts (r.recorded record schedule now) later → ∀ o' : Operator σ (Transcript π),
        (handle (r.recorded record schedule now) later o').2.store = o'.store ∧
          (handle (r.recorded record schedule now) later o').2.entropy = o'.entropy) := by
  obtain ⟨key, schedule, hk, hsched⟩ := exists_schedule_of_taken hkept
  obtain ⟨-, interval, -, hs, hi, hlast, -⟩ := attempt_of_failed hkept hf
  have hiff : Attempts (r.recorded record schedule now) later ↔
      r.record.IsDue interval later ∧
        (IsHasty (.ofEnvironment env) record ∧ now.since later ≤ 0 ∨
          ¬ IsHasty (.ofEnvironment env) record ∧
            ∀ stop, now.add? delay = some stop → stop.IsReadable → stop.since later ≤ 0) := by
    rw [attempts_recorded_iff hk hs hg hf.ne_configError hi, and_comm, isDue_congr hlast,
      gate_opens_iff ho hyear hk hsched hkept hanswer]
  refine ⟨key, schedule, interval, hk, hsched, hi, hiff, fun hnow hlater => ?_,
    fun hn o' => world_of_not_attempts hn o'⟩
  rw [hiff]
  refine and_congr_right fun _ => ?_
  by_cases hh : IsHasty (.ofEnvironment env) record
  · have hcome : now.since later ≤ 0 := (Instant.since_nonpos_iff hnow hlater).2 hle
    simp [hh, hcome]
  · -- within the delay, the gate opens only where it cannot read the time
    have hgate : ∀ stop, now.add? delay = some stop → ¬ stop.since later ≤ 0 := by
      intro stop hstop hcome
      have hstart := (Instant.since_nonpos_iff (Instant.ticks_of_add? hnow hstop).2 hlater).1 hcome
      exact not_lt.2 hstart (hlt stop hstop)
    simp only [hh, false_and, not_false_eq_true, true_and, false_or]
    exact forall_congr' fun stop => forall_congr' fun hstop =>
      ⟨fun h hr => hgate stop hstop (h hr), fun h hr => absurd hr h⟩

/-- The delay after a store failure is set to zero. -/
def zeroRetry : Environment :=
  fun name => if name = "STORE_FAILURE_REQUEUE_SECS" then some "0" else none

/-- Without a delay after store failures, the second attempt is made half a second after the first
one, which was answered by a second. -/
theorem unrotated_attempts_again :
    (handle Specimen.unrotated (Specimen.clock 0) (Specimen.operator 0)).1 =
        .ok (.after 1000000000) ∧
      ∃ schedule, Attempts (Specimen.unrotated.recorded (Specimen.unwritten none) schedule
        (Specimen.clock 0)) (Specimen.clock 500) := by
  have hsettings : (ControllerSettings.ofEnvironment zeroRetry).storeRetry = 0 := by decide +kernel
  have ho : (Specimen.operator 0).storeRetry =
      (ControllerSettings.ofEnvironment zeroRetry).storeRetrySpan := by
    rw [ControllerSettings.storeRetrySpan, hsettings]
    rfl
  have hg : Specimen.unrotated.metadata.generation = some 1 := rfl
  have hkept : (handle Specimen.unrotated (Specimen.clock 0) (Specimen.operator 0)).2.sink.taken =
      (Specimen.operator 0).sink.taken ++ [Specimen.unwritten none] := by
    decide +kernel
  have hanswer : (handle Specimen.unrotated (Specimen.clock 0) (Specimen.operator 0)).1 =
      .ok (.after 1000000000) :=
    Specimen.eq_ok_of_toOption (by decide +kernel)
  have hstop : (Specimen.clock 0).add? 1000000000 = some (Specimen.clock 1000) := by decide
  have hlt : ∀ stop, (Specimen.clock 0).add? 1000000000 = some stop →
      Specimen.clock 500 < stop := by
    intro stop h
    obtain rfl := Option.some.inj (hstop.symm.trans h)
    decide
  obtain ⟨key, schedule, interval, -, -, -, -, hiff, -⟩ :=
    attempts_within_delay_iff ho hg (by decide) hkept (.inl rfl) hanswer (by decide) hlt
  refine ⟨hanswer, schedule, (hiff (by decide) (by decide)).2 ⟨?_, .inl ⟨rfl, hsettings⟩⟩⟩
  intro last h
  cases h

end CredentialRotation.Event
