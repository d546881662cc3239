import CredentialRotation.Proofs.Course.Echo
import CredentialRotation.Proofs.Course.Scheduled

/-!
# Proofs — Gate

What the events after an event that left a record come to.  Writing the status is itself an event,
and others may come at any time; all of them meet the gate that the status holds.

* `handleAll_of_notDue`: a sequence of events that all have to wait changes nothing but the counts.
* `answer_agrees_with_status`: the answer to an event that left a record and the status that is
  written for it name the same instant.  Until then every event waits for what is left, and from
  then on every event runs a cycle.
-/

namespace CredentialRotation

/-- Outside leap seconds an instant is moved by any span that ends by the year 9999. -/
theorem Instant.add?_of_year_le {t : Instant} {span : Nat} (h : ¬ t.IsLeap)
    (hyear : (ofTicks (t.ticks + span)).year ≤ 9999) :
    t.add? span = some (ofTicks (t.ticks + span)) :=
  (add?_eq_some_iff h).2 ⟨rfl, second_le_lastSecond hyear⟩

/-! ### The gate -/

/-- Before its time, an attempt is as far away as the ticks say. -/
theorem Trigger.ofTime_of_lt {next now : Instant} (hn : ¬ next.IsLeap) (hl : ¬ now.IsLeap)
    (h : now < next) : ofTime next now = .notDue (next.ticks - now.ticks).toNat := by
  have hpos : 0 < next.since now := by
    rw [Instant.lt_iff_ticks_lt hl hn] at h
    rw [Instant.since_eq_sub hn hl]
    exact Int.sub_pos_of_lt h
  rw [ofTime, if_pos hpos, Instant.since_eq_sub hn hl]

/-- From its time on, an attempt is due. -/
theorem Trigger.ofTime_of_le {next now : Instant} (hn : ¬ next.IsLeap) (hl : ¬ now.IsLeap)
    (h : next ≤ now) : ofTime next now = .due := by
  rw [ofTime, if_neg (Int.not_lt.2 ((Instant.since_nonpos_iff hn hl).2 h))]

namespace Event

variable {σ π : Type} [SecretStore σ] [RecordSink π] {r : Resource} {now : Instant} {key : String}

theorem handle_of_notDue {wait : Nat} (hk : r.key = .ok key) (hs : r.spec.suspend = false)
    (h : Trigger.classify r now = .notDue wait) (o : Operator σ π) :
    handle r now o = (.ok (.after wait), o.count (.requeue .notDue)) := by
  unfold handle
  rw [hk, hs, h]
  rfl

/-! ### Sequences of events -/

/-- Handle events on the resource, which come at these times one after another. -/
def handleAll (r : Resource) : List Instant → Operator σ π →
    List (Except Stop FollowUp) × Operator σ π
  | [], o => ([], o)
  | t :: times, o =>
    ((handle r t o).1 :: (handleAll r times (handle r t o).2).1,
      (handleAll r times (handle r t o).2).2)

/-- **Events that have to wait** are answered by their waits, and nothing but the counts changes. -/
theorem handleAll_of_notDue {times : List Instant} {wait : Instant → Nat} (hk : r.key = .ok key)
    (hs : r.spec.suspend = false) (h : ∀ t ∈ times, Trigger.classify r t = .notDue (wait t))
    (o : Operator σ π) :
    handleAll r times o =
      (times.map fun t => .ok (.after (wait t)),
        { o with samples := o.samples ++ List.replicate times.length (.requeue .notDue) }) := by
  induction times generalizing o with
  | nil => simp [handleAll]
  | cons t times ih =>
      have hfirst := handle_of_notDue hk hs (h t List.mem_cons_self) o
      have hrest := ih (fun u hu => h u (List.mem_cons_of_mem _ hu)) (o.count (.requeue .notDue))
      rw [handleAll, hfirst, hrest]
      simp [Operator.count, World.count, List.replicate_succ]

/-! ### After a record -/

variable {o : Operator σ (Transcript π)} {record : Record} {generation : Int}

/-- **The answer and the status name the same instant, and the gate keeps it.**  An event at `now`
has left a record.  If it was answered by a delay that ends by the year 9999, the status names the
end of that delay; a sequence of events before it waits for what is left, each of them, and changes
nothing but the counts, and an event that comes no earlier is due.  If it was answered by a wait for
a change, the status names no time, and no event runs a cycle. -/
theorem answer_agrees_with_status (hg : r.metadata.generation = some generation)
    (hretry : 0 < o.storeRetry) (hleap : ¬ now.IsLeap) (hyear : 0 ≤ now.year)
    (hkept : (handle r now o).2.sink.taken = o.sink.taken ++ [record]) :
    ∃ key schedule, r.key = .ok key ∧ Reconcile.schedule? r key o = some schedule ∧
      (∀ delay next, (handle r now o).1 = .ok (.after delay) →
        next = Instant.ofTicks (now.ticks + delay) → next.year ≤ 9999 →
          (r.recorded record schedule now).status.bind Status.nextRotationTime = some next.toText ∧
          (∀ times, (∀ t ∈ times, t < next ∧ ¬ t.IsLeap) → ∀ o' : Operator σ (Transcript π),
            handleAll (r.recorded record schedule now) times o' =
              (times.map fun t => .ok (.after (next.ticks - t.ticks).toNat),
                { o' with
                  samples := o'.samples ++ List.replicate times.length (.requeue .notDue) })) ∧
          (∀ later, next ≤ later → ¬ later.IsLeap →
            Trigger.classify (r.recorded record schedule now) later = .due)) ∧
      ((handle r now o).1 = .ok .onChange →
        (r.recorded record schedule now).status.bind Status.nextRotationTime = none ∧
          ∀ later, Trigger.classify (r.recorded record schedule now) later = .idle) := by
  obtain ⟨key, schedule, hk, hsched⟩ := exists_schedule_of_taken hkept
  obtain ⟨_, _, _, hkind, _⟩ := kept_of_taken hkept
  refine ⟨key, schedule, hk, hsched, ?_, ?_⟩
  · intro delay next hanswer hnext hlast
    subst hnext
    have hadd := Instant.add?_of_year_le hleap hlast
    have hsteady : ¬ (record.phase = some .storeError ∧ o.storeRetry = 0) :=
      fun h => Nat.ne_of_gt hretry h.2
    have hscheduled := nextAttempt_of_taken hk hsched hkept hanswer hsteady
    rw [hadd] at hscheduled
    -- up to the year 9999, the time that was written is the time that the gate reads
    have hreadable := Instant.isReadable_of_le hyear (Instant.le_of_add? hadd) hlast
    have hgate : (r.recorded record schedule now).nextAttempt? =
        some (Instant.ofTicks (now.ticks + delay)) := by
      rw [Resource.nextAttempt?_recorded, hscheduled, Option.filter_some]
      exact if_pos (decide_eq_true hreadable)
    have hend := Instant.not_isLeap_ofTicks (now.ticks + delay)
    refine ⟨?_, fun times htimes o' => ?_, fun later hle hlater => ?_⟩
    · show (schedule.nextAttempt record now).map Instant.toText = _
      rw [hscheduled, Option.map_some]
    · have hkey : (r.recorded record schedule now).key = .ok key := hk
      have hs : (r.recorded record schedule now).spec.suspend = false := hkind.suspend_eq_false
      refine handleAll_of_notDue hkey hs (fun t ht => ?_) o'
      obtain ⟨hlt, hl⟩ := htimes t ht
      rw [classify_recorded hg, hgate]
      exact Trigger.ofTime_of_lt hend hl hlt
    · rw [classify_recorded hg, hgate]
      exact Trigger.ofTime_of_le hend hlater hle
  · intro hanswer
    have hp := phase_of_taken_of_onChange hkept hanswer
    have hnone : schedule.nextAttempt record now = none := by
      rw [Schedule.nextAttempt, hp]
    refine ⟨?_, fun later => ?_⟩
    · show (schedule.nextAttempt record now).map Instant.toText = _
      rw [hnone, Option.map_none]
    · rw [classify_recorded hg, Resource.nextAttempt?_recorded, hnone]
      exact if_pos hp

/-- A write that fails at eight is tried again half a minute later, and not before. -/
theorem unrotated_waits_for_retry :
    (handle Specimen.unrotated (Specimen.clock 0) (Specimen.operator 30000000000)).1 =
        .ok (.after 30000000000) ∧
      ∃ schedule, (handleAll (Specimen.unrotated.recorded (Specimen.unwritten none) schedule
          (Specimen.clock 0)) [Specimen.clock 1, Specimen.clock 29999]
          (Specimen.operator 30000000000)).1 =
        [.ok (.after 29999000000), .ok (.after 1000000)] := by
  have hg : Specimen.unrotated.metadata.generation = some 1 := rfl
  have hkept : (handle Specimen.unrotated (Specimen.clock 0)
      (Specimen.operator 30000000000)).2.sink.taken =
      (Specimen.operator 30000000000).sink.taken ++ [Specimen.unwritten none] := by
    decide +kernel
  have hanswer : (handle Specimen.unrotated (Specimen.clock 0) (Specimen.operator 30000000000)).1 =
      .ok (.after 30000000000) :=
    Specimen.eq_ok_of_toOption (by decide +kernel)
  obtain ⟨key, schedule, -, -, hgate, -⟩ :=
    answer_agrees_with_status hg (by decide) (by decide) (by decide) hkept
  obtain ⟨-, hwait, -⟩ := hgate 30000000000 (Specimen.clock 30000) hanswer (by decide) (by decide)
  refine ⟨hanswer, schedule, ?_⟩
  rw [hwait [Specimen.clock 1, Specimen.clock 29999] (by decide)]
  rfl

end Event

end CredentialRotation
