import CredentialRotation.Proofs.Life.Change

/-!
# Proofs — Life — Acknowledged

Whether a change of the spec shows in the status.  The status holds the number of the version that
it was written for, and whether that was malformed.  An event that finds another version runs a
cycle, and what the cycle comes to settles whether there is a new status: it leaves a record
(`exists_kept?_of_answer`), but not if it waits for the rest of the interval.

**Main statement** (`acknowledged_iff_not_isWaiting`).  An event that finds the spec changed, and is
answered, leaves a status for the present version exactly if its cycle does not wait.  If it waits,
the status stays as it was, even where that calls an interval malformed that has been mended since
(`mended_not_acknowledged`).
-/

namespace CredentialRotation

variable {σ π : Type}

/-! ### What the status says of the spec -/

namespace Resource

variable {r : Resource} {now : Instant}

/-- The status was written for the present version of the spec, and does not call the interval
malformed if it can be read. -/
def IsAcknowledged (r : Resource) : Prop :=
  ∃ s, r.status = some s ∧ s.observedGeneration = r.metadata.generation ∧
    ∀ interval, Interval.read r.spec.rotationInterval = .span interval →
      s.status ≠ some Phase.configError.name

/-- The secret was rotated before, and the interval since then is not over. -/
def IsWaiting (r : Resource) (now : Instant) : Prop :=
  ∃ interval last, Interval.read r.spec.rotationInterval = .span interval ∧
    r.record.rotatedAt = some last ∧ now.elapsed last < interval

/-- A cycle that is not forced waits exactly if the interval is not over. -/
theorem isWaiting_iff :
    r.IsWaiting now ↔ ∃ wait, Cycle.course r.spec.policy r.record now false = .waits wait := by
  constructor
  · rintro ⟨interval, last, hi, hlast, hlt⟩
    have hwait :
        Due.decide interval r.record.rotatedAt now = .waitFor (interval - now.elapsed last) := by
      rw [hlast]
      exact Due.decide_eq_waitFor_iff.2 ⟨hlt, rfl⟩
    exact ⟨_, Cycle.course_eq_waits_iff.2 ⟨rfl, interval, hi, hwait⟩⟩
  · rintro ⟨wait, hc⟩
    obtain ⟨-, interval, hi, hwait⟩ := Cycle.course_eq_waits_iff.1 hc
    have hne : Due.decide interval r.record.rotatedAt now ≠ .rotateNow := by
      rw [hwait]
      exact nofun
    obtain ⟨last, hlast, hlt, -⟩ := Due.exists_waitFor_of_ne hne
    exact ⟨interval, last, hi, hlast, hlt⟩

end Resource

namespace Trigger

variable {r : Resource} {s : Status} {now : Instant}

theorem ofStatus_ne_specChanged (s : Status) (now : Instant) : ofStatus s now ≠ specChanged := by
  unfold ofStatus ofTime
  repeat' split
  all_goals exact nofun

/-- A spec that has changed was not observed. -/
theorem isObserved_of_specChanged (h : classify r now = specChanged) (hs : r.status = some s) :
    isObserved r s = false := by
  unfold classify at h
  rw [hs] at h
  split at h
  · cases h
  · cases ho : isObserved r s with
    | false => rfl
    | true =>
        dsimp only at h
        rw [if_pos ho] at h
        exact absurd h (ofStatus_ne_specChanged s now)

/-- While the spec is found changed, no status acknowledges it. -/
theorem not_isAcknowledged_of_specChanged {generation : Int}
    (hg : r.metadata.generation = some generation) (h : classify r now = specChanged) :
    ¬ r.IsAcknowledged := by
  rintro ⟨s, hs, ho, -⟩
  have hnot := isObserved_of_specChanged h hs
  rw [isObserved, ho, hg, beq_self_eq_true] at hnot
  cases hnot

end Trigger

/-! ### After an event -/

variable [SecretStore σ] [RecordSink π]

namespace Occurrence

variable {e : Occurrence σ π} {next : FollowUp}

/-- **A cycle that was answered leaves a record**, unless it waits. -/
theorem exists_kept?_of_answer {c : Cycle.Course} (hc : Event.course? e.resource e.now = some c)
    (hw : ∀ wait, c ≠ .waits wait) (ha : e.answer = .ok next) :
    ∃ record, e.kept? = some record := by
  cases hk : e.resource.key with
  | error part =>
      rw [answer, handled, Event.handle_of_missing hk] at ha
      cases ha
  | ok key =>
      have hh := Event.handle_of_course?_eq_some hk hc e.operator
      have hsink := (Event.settle_snd key e.operator (c.play e.resource.spec.policy
        e.resource.record e.now e.operator.storeRetry e.operator.toWorld)).2.2
      rw [answer, handled, hh] at ha
      rw [← hh] at hsink
      obtain ⟨outcome, hplay, -⟩ := Event.exists_of_settle_eq_ok ha
      cases c with
      | stuck => cases hplay
      | waits wait => exact absurd rfl (hw wait)
      | refused reason =>
          refine ⟨e.resource.record.failed .configError
            (Cycle.intervalMessage e.resource.spec.policy.interval reason), kept?_of_taken ?_⟩
          rw [handled, hsink]
          exact Cycle.taken_of_conclude_eq_ok hplay
      | attempts interval =>
          obtain ⟨record, follow, w, he, hattempt⟩ :=
            Cycle.attempt_eq_conclude e.resource.spec.policy interval e.operator.storeRetry
              e.resource.record e.now e.operator.toWorld
          rw [Cycle.Course.play, hattempt] at hplay hsink
          refine ⟨record, kept?_of_taken ?_⟩
          rw [handled, hsink, ← he.sink_eq]
          exact Cycle.taken_of_conclude_eq_ok hplay

/-- A record that was kept acknowledges the spec. -/
theorem isAcknowledged_of_kept? {record : Record} (h : e.kept? = some record) :
    e.after.resource.IsAcknowledged := by
  rw [resource_after_of_some h]
  refine ⟨_, rfl, rfl, fun interval hi hp => Spec.not_isMalformed_of_span hi ?_⟩
  exact (Status.tells_ofRecord (hands_of_kept? h) e.schedule).status_iff.1 hp

/-- **When a change of the spec is acknowledged.**  An event that finds the spec changed, and is
answered, leaves a status for the present version of the spec exactly if its cycle does not wait for
the rest of the interval.  A cycle that waits leaves no record, and the resource stays as it was. -/
theorem acknowledged_iff_not_isWaiting {generation : Int} (hs : e.resource.spec.suspend = false)
    (hg : e.resource.metadata.generation = some generation) (ht : e.trigger = .specChanged)
    (ha : e.answer = .ok next) :
    (e.after.resource.IsAcknowledged ↔ ¬ e.resource.IsWaiting e.now) ∧
      (e.resource.IsWaiting e.now → e.kept? = none ∧ e.after.resource = e.resource) := by
  have hforced : decide (Trigger.classify e.resource e.now = .manual) = false := by
    rw [← trigger, ht]
    rfl
  have hruns : (Trigger.classify e.resource e.now).runs = true := by
    rw [← trigger, ht]
    rfl
  have hc := Event.course?_of_runs hs hruns
  rw [hforced] at hc
  have hwaits : e.resource.IsWaiting e.now → e.kept? = none ∧ e.after.resource = e.resource := by
    intro hw
    obtain ⟨wait, hcourse⟩ := Resource.isWaiting_iff.1 hw
    rw [hcourse] at hc
    have hnone : e.kept? = none := by
      cases hk : e.kept? with
      | none => rfl
      | some record => exact absurd hc ((hands_of_kept? hk).course?_ne_waits wait)
    exact ⟨hnone, resource_after_of_none hnone⟩
  refine ⟨⟨fun hack hw => ?_, fun hw => ?_⟩, hwaits⟩
  · rw [(hwaits hw).2] at hack
    exact Trigger.not_isAcknowledged_of_specChanged hg ht hack
  · obtain ⟨record, hk⟩ := exists_kept?_of_answer hc
      (fun wait h => hw (Resource.isWaiting_iff.2 ⟨wait, h⟩)) ha
    exact isAcknowledged_of_kept? hk

end Occurrence

/-! ### A specimen -/

/-- The secret, rotated at eight, with an interval that was mistyped in the first version of the
spec and is mended in the second. -/
def Specimen.mended : Resource :=
  { unrotated with
    metadata := { unrotated.metadata with generation := some 2 }
    status := some ⟨some "2024-06-01T08:00:00Z", some "ConfigError",
      some (Cycle.intervalMessage "soon" (.malformed "soon")), some 1, none, none, []⟩ }

/-- An event on the mended secret so many milliseconds after eight. -/
def Specimen.mending (millis : Nat) : Occurrence MemoryStore Journal :=
  ⟨⟨mended, keeper .succeed 16⟩, occasion millis⟩

namespace Occurrence

/-- An hour after the last rotation the mended spec is acknowledged. -/
theorem mended_acknowledged :
    (Specimen.mending 3600000).answer = .ok (.after 3600000000000) ∧
      (Specimen.mending 3600000).after.resource.IsAcknowledged := by
  have ha : (Specimen.mending 3600000).answer = .ok (.after 3600000000000) :=
    Specimen.eq_ok_of_toOption (by decide +kernel)
  have hgeneration : (Specimen.mending 3600000).resource.metadata.generation = some 2 := rfl
  have hover : ¬ (Specimen.mending 3600000).resource.IsWaiting (Specimen.mending 3600000).now := by
    rintro ⟨interval, last, hi, hlast, hlt⟩
    have hread : Interval.read Specimen.mended.spec.rotationInterval = .span 3600000000000 := by
      decide +kernel
    have hrotated : Specimen.mended.record.rotatedAt = some (Specimen.clock 0) := by decide +kernel
    cases hread.symm.trans hi
    cases hrotated.symm.trans hlast
    exact absurd hlt (by decide)
  exact ⟨ha, (acknowledged_iff_not_isWaiting rfl hgeneration (by decide +kernel) ha).1.2 hover⟩

/-- Five minutes after the last rotation it is not: the event is answered, and the status still
calls the interval malformed. -/
theorem mended_not_acknowledged :
    (Specimen.mending 300000).resource.spec.suspend = false ∧
      (Specimen.mending 300000).resource.metadata.generation = some 2 ∧
      (Specimen.mending 300000).trigger = .specChanged ∧
      (Specimen.mending 300000).answer = .ok (.after 3300000000000) ∧
      Interval.read (Specimen.mending 300000).after.resource.spec.rotationInterval =
        .span 3600000000000 ∧
      (∃ s, (Specimen.mending 300000).after.resource.status = some s ∧
        s.observedGeneration = some 1 ∧ s.status = some "ConfigError") ∧
      ¬ (Specimen.mending 300000).after.resource.IsAcknowledged := by
  have hstatus : (Specimen.mending 300000).after.resource.status = Specimen.mended.status := by
    decide +kernel
  refine ⟨rfl, rfl, by decide +kernel,
    Specimen.eq_ok_of_toOption (by decide +kernel), by decide +kernel, ⟨_, hstatus, rfl, rfl⟩, ?_⟩
  rintro ⟨s, hs, hg, -⟩
  obtain rfl := Option.some.inj (hstatus.symm.trans hs)
  have hgeneration : (Specimen.mending 300000).after.resource.metadata.generation = some 2 := by
    decide +kernel
  cases hg.trans hgeneration

end Occurrence

end CredentialRotation
