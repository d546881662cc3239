import CredentialRotation.Proofs.Course.Event
import CredentialRotation.Proofs.Time.Order
import CredentialRotation.Resource.Schedule

/-!
# Proofs — Course — Echo

A record that was left comes back with the next event: the resource is the same but for its status,
which was written for the record (`Resource.recorded`).  The request for a rotation has been
answered and the spec has been observed, so that such an event is never a new one.  It is classified
by the time of the next attempt alone.

* `nextAttempt?_recorded`, `record_recorded`: what was written reads back, up to times whose year
  has not four digits, which read as none.
* `classify_recorded`: the gate that the event meets.
* `attempts_recorded_iff`: when it comes to an attempt.
-/

namespace CredentialRotation

theorem Instant.bind_ofText?_map_toText (t : Option Instant) :
    (t.map Instant.toText).bind Instant.ofText? = t.filter fun t => t.IsReadable := by
  cases t with
  | none => rfl
  | some t =>
      rw [Option.map_some, Option.bind_some, Instant.ofText?_toText, Option.filter_some]
      simp only [decide_eq_true_eq]

theorem Phase.bind_ofName?_map_name (p : Option Phase) :
    (p.map Phase.name).bind Phase.ofName? = p := by
  cases p with
  | none => rfl
  | some p => exact Phase.ofName?_name p

/-- What is remembered from a status that was written for a record. -/
theorem Status.record_ofRecord (record : Record) (generation : Option Int) (schedule : Schedule)
    (request : Option String) (previous : Option Condition) (stamp : Instant) :
    (ofRecord record generation schedule request previous stamp).record =
      { record with rotatedAt := record.rotatedAt.filter fun t => t.IsReadable } := by
  show (⟨(record.rotatedAt.map Instant.toText).bind Instant.ofText?,
    (record.phase.map Phase.name).bind Phase.ofName?, record.message⟩ : Record) = _
  rw [Instant.bind_ofText?_map_toText, Phase.bind_ofName?_map_name]

/-- The secret is due: it was never rotated, or the interval since then is over.  A rotation counts
only if its time can be written down and read back. -/
def Record.IsDue (record : Record) (interval : Nat) (now : Instant) : Prop :=
  ∀ last, record.rotatedAt = some last → last.IsReadable → interval ≤ now.elapsed last

namespace Resource

/-- The resource, once the record that an event at `now` left is written to its status. -/
def recorded (r : Resource) (record : Record) (schedule : Schedule) (now : Instant) : Resource :=
  { r with
    status := some (Status.ofRecord record r.metadata.generation schedule r.rotateRequest
      r.readyCondition now) }

/-- The time of the next attempt, where the status names one that can be read. -/
def nextAttempt? (r : Resource) : Option Instant :=
  (r.status.bind Status.nextRotationTime).bind Instant.ofText?

variable (r : Resource) (record : Record) (schedule : Schedule) (now : Instant)

@[simp] theorem spec_recorded : (r.recorded record schedule now).spec = r.spec := rfl

@[simp] theorem key_recorded : (r.recorded record schedule now).key = r.key := rfl

theorem nextAttempt?_recorded :
    (r.recorded record schedule now).nextAttempt? =
      (schedule.nextAttempt record now).filter fun t => t.IsReadable :=
  Instant.bind_ofText?_map_toText _

theorem record_recorded :
    (r.recorded record schedule now).record =
      { record with rotatedAt := record.rotatedAt.filter fun t => t.IsReadable } :=
  Status.record_ofRecord record _ schedule _ _ now

/-- The request that the resource holds is the one that was acted on. -/
theorem isRequested_recorded : Trigger.isRequested (r.recorded record schedule now) = false := by
  show (r.rotateRequest.isSome && r.rotateRequest != r.rotateRequest) = false
  rw [bne_self_eq_false, Bool.and_false]

end Resource

namespace Event

variable {r : Resource} {record : Record} {schedule : Schedule} {now later : Instant}

/-- **The gate that a resource meets** with the status that was written for it: the time of the next
attempt, or, where there is none, the phase. -/
theorem classify_recorded {generation : Int} (hg : r.metadata.generation = some generation) :
    Trigger.classify (r.recorded record schedule now) later =
      match (r.recorded record schedule now).nextAttempt? with
      | some next => Trigger.ofTime next later
      | none => if record.phase = some .configError then .idle else .due := by
  -- the status was written for the generation that the resource still has
  have hobserved : Trigger.isObserved (r.recorded record schedule now)
      (Status.ofRecord record r.metadata.generation schedule r.rotateRequest r.readyCondition now) =
      true := by
    show (r.metadata.generation.isSome && r.metadata.generation == r.metadata.generation) = true
    rw [hg, beq_self_eq_true]
    rfl
  have hname : record.phase.map Phase.name = some Phase.configError.name ↔
      record.phase = some .configError := by
    constructor
    · intro h
      rw [← Phase.bind_ofName?_map_name record.phase, h, Option.bind_some, Phase.ofName?_name]
    · intro h
      rw [h, Option.map_some]
  rw [Trigger.classify, Resource.isRequested_recorded, if_neg Bool.false_ne_true]
  show (if Trigger.isObserved _ _ then Trigger.ofStatus _ _ else _) = _
  rw [hobserved, if_pos rfl]
  show (match (r.recorded record schedule now).nextAttempt? with
    | some next => Trigger.ofTime next later
    | none => if record.phase.map Phase.name = some Phase.configError.name then .idle else .due) = _
  simp only [hname]

theorem ofTime_runs_iff {next : Instant} :
    (Trigger.ofTime next later).runs = true ↔ next.since later ≤ 0 := by
  rw [Trigger.ofTime]
  split
  · next h => exact ⟨fun hr => (nomatch hr), fun hle => absurd h (Int.not_lt.2 hle)⟩
  · next h => exact ⟨fun _ => Int.not_lt.1 h, fun _ => rfl⟩

/-- A resource whose policy was sound runs a cycle as soon as the time of the next attempt has come,
and at once where no such time can be read. -/
theorem runs_recorded_iff {generation : Int} (hg : r.metadata.generation = some generation)
    (hp : record.phase ≠ some .configError) :
    (Trigger.classify (r.recorded record schedule now) later).runs = true ↔
      ∀ next, (r.recorded record schedule now).nextAttempt? = some next → next.since later ≤ 0 := by
  rw [classify_recorded hg]
  cases (r.recorded record schedule now).nextAttempt? with
  | none =>
      dsimp only
      rw [if_neg hp]
      exact ⟨fun _ _ h => (nomatch h), fun _ => rfl⟩
  | some next =>
      dsimp only
      rw [ofTime_runs_iff]
      exact ⟨fun h _ he => Option.some.inj he ▸ h, fun h => h next rfl⟩

/-- No cycle of such an event is forced. -/
theorem classify_recorded_ne_manual {generation : Int}
    (hg : r.metadata.generation = some generation) :
    Trigger.classify (r.recorded record schedule now) later ≠ .manual := by
  rw [classify_recorded hg]
  cases (r.recorded record schedule now).nextAttempt? with
  | none =>
      dsimp only
      split <;> exact Trigger.noConfusion
  | some next =>
      dsimp only
      rw [Trigger.ofTime]
      split <;> exact Trigger.noConfusion

/-- **When the event after a record comes to an attempt**: the time of the next attempt has come, if
it can be read, and the interval since the last rotation is over, if that can be read. -/
theorem attempts_recorded_iff {key : String} {generation : Int} {interval : Nat}
    (hk : r.key = .ok key) (hs : r.spec.suspend = false)
    (hg : r.metadata.generation = some generation) (hp : record.phase ≠ some .configError)
    (hi : Interval.read r.spec.rotationInterval = .span interval) :
    Attempts (r.recorded record schedule now) later ↔
      (∀ next, (r.recorded record schedule now).nextAttempt? = some next → next.since later ≤ 0) ∧
        record.IsDue interval later := by
  have hforced :
      decide (Trigger.classify (r.recorded record schedule now) later = .manual) = false :=
    decide_eq_false (classify_recorded_ne_manual hg)
  have hdue : Cycle.course r.spec.policy (r.recorded record schedule now).record later false =
      .attempts interval ↔ record.IsDue interval later := by
    rw [Cycle.course_eq_attempts_iff, Due.decide_eq_rotateNow_iff_forall, Resource.record_recorded]
    simp only [Option.filter_eq_some_iff, decide_eq_true_eq, and_imp, Bool.false_eq_true, false_or]
    exact ⟨fun h => h.2, fun h => ⟨hi, h⟩⟩
  rw [← hdue, ← runs_recorded_iff hg hp]
  constructor
  · rintro ⟨-, interval', -, hc⟩
    obtain ⟨-, hr, hcourse⟩ := course?_eq_some_iff.1 hc
    rw [hforced, Resource.spec_recorded] at hcourse
    have hsame : interval' = interval := by
      have := (Cycle.course_eq_attempts_iff.1 hcourse).1
      rw [show r.spec.policy.interval = r.spec.rotationInterval from rfl, hi] at this
      exact (Interval.Reading.span.inj this).symm
    exact ⟨hr, hsame ▸ hcourse⟩
  · rintro ⟨hr, hcourse⟩
    refine ⟨key, interval, hk, course?_eq_some_iff.2 ⟨hs, hr, ?_⟩⟩
    rw [hforced, Resource.spec_recorded, hcourse]

end Event

end CredentialRotation
