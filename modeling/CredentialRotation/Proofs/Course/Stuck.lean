import CredentialRotation.Proofs.Course.Event
import CredentialRotation.Proofs.Interval.Stuck
import CredentialRotation.Reconcile

/-!
# Proofs — Course — Stuck

Where the operator gets stuck.  Nothing that it does with a resource can get stuck but reading the
interval, so that all of it comes down to the intervals that cut a digit.

**Main theorem** (`stuck_iff_cutsDigit`).  The reading of an interval, a cycle, an event, the
schedule and a reconciliation are stuck exactly where the interval cuts a digit.  An event reads the
interval only if it runs a cycle; a reconciliation reads it for the schedule first, whatever the
event comes to.
-/

namespace CredentialRotation

variable {σ π κ : Type} [SecretStore σ]

namespace Cycle

variable [RecordSink π]

omit [SecretStore σ] in
theorem conclude_ne_stuck (record : Record) (next : FollowUp) (w : World σ π) :
    (conclude record next w).1 ≠ .error .stuck := by
  intro h
  rw [conclude] at h
  split at h
  · cases h
  · cases h

/-- A cycle is stuck exactly if its course is. -/
theorem play_eq_stuck_iff {policy : Policy} {record : Record} {now : Instant} {storeRetry : Nat}
    {w : World σ π} {c : Course} :
    (c.play policy record now storeRetry w).1 = .error .stuck ↔ c = .stuck := by
  cases c with
  | stuck => exact ⟨fun _ => rfl, fun _ => rfl⟩
  | waits wait => simp [Course.play]
  | refused reason => simp [Course.play, conclude_ne_stuck]
  | attempts interval =>
      obtain ⟨left, next, w', -, he⟩ := attempt_eq_conclude policy interval storeRetry record now w
      simp [Course.play, he, conclude_ne_stuck]

theorem run_eq_stuck_iff {policy : Policy} {record : Record} {now : Instant} {forced : Bool}
    {storeRetry : Nat} {w : World σ π} :
    (run policy record now forced storeRetry w).1 = .error .stuck ↔
      Interval.CutsDigit policy.interval := by
  rw [run_eq_play, play_eq_stuck_iff, course_eq_stuck_iff, Interval.read_eq_stuck_iff]

end Cycle

namespace Event

variable [RecordSink π] {r : Resource} {now : Instant} {o : Operator σ π}

omit [SecretStore σ] [RecordSink π] in
theorem settle_eq_stuck_iff {key : String}
    {played : Except Cycle.Stop Cycle.Outcome × World σ π} :
    (settle key o played).1 = .error (.cycle .stuck) ↔ played.1 = .error .stuck := by
  obtain ⟨result, w⟩ := played
  cases result with
  | ok outcome => exact ⟨fun h => (nomatch h), fun h => (nomatch h)⟩
  | error stop => simp [settle]

theorem handle_eq_stuck_iff :
    (handle r now o).1 = .error (.cycle .stuck) ↔
      (∃ key, r.key = .ok key) ∧ r.spec.suspend = false ∧
        (Trigger.classify r now).runs = true ∧ Interval.CutsDigit r.spec.rotationInterval := by
  rw [← Interval.read_eq_stuck_iff]
  cases hk : r.key with
  | error part =>
      rw [handle_of_missing hk]
      exact ⟨fun h => (nomatch h), fun h => (nomatch h.1)⟩
  | ok key =>
      cases hc : course? r now with
      | none =>
          obtain ⟨result, samples, he, hresult⟩ := handle_of_course?_eq_none hc o
          rw [he]
          refine ⟨fun h => absurd h (hresult .stuck), ?_⟩
          rintro ⟨-, hs, hr, -⟩
          rw [course?_of_runs hs hr] at hc
          cases hc
      | some c =>
          obtain ⟨hs, hr, hcourse⟩ := course?_eq_some_iff.1 hc
          rw [handle_of_course?_eq_some hk hc, settle_eq_stuck_iff, Cycle.play_eq_stuck_iff,
            ← hcourse, Cycle.course_eq_stuck_iff]
          exact ⟨fun h => ⟨⟨key, rfl⟩, hs, hr, h⟩, fun h => h.2.2.2⟩

end Event

namespace Reconcile

omit [SecretStore σ] in
theorem schedule?_eq_none_iff {r : Resource} {key : String} {o : Operator σ κ} :
    schedule? r key o = none ↔ Interval.CutsDigit r.spec.rotationInterval := by
  rw [← Interval.read_eq_stuck_iff, schedule?]
  cases Interval.read r.spec.rotationInterval with
  | span interval => exact ⟨fun h => (nomatch h), fun h => (nomatch h)⟩
  | refused reason => exact ⟨fun h => (nomatch h), fun h => (nomatch h)⟩
  | stuck => exact ⟨fun _ => rfl, fun _ => rfl⟩

theorem run_eq_stuck_iff [ClusterApi κ] {r : Resource} {now stamp : Instant} {o : Operator σ κ} :
    (run r now stamp o).1 = .error (.cycle .stuck) ↔
      (∃ key, r.key = .ok key) ∧ Interval.CutsDigit r.spec.rotationInterval := by
  unfold run
  cases hk : r.key with
  | error part => exact ⟨fun h => (nomatch h), fun h => (nomatch h.1)⟩
  | ok key =>
      dsimp only
      cases hsched : schedule? r key (o.count .reconciliation) with
      | none => exact ⟨fun _ => ⟨⟨key, rfl⟩, schedule?_eq_none_iff.1 hsched⟩, fun _ => rfl⟩
      | some schedule =>
          -- the schedule has read the interval already, and was not stuck
          have hcuts : ¬ Interval.CutsDigit r.spec.rotationInterval := by
            intro h
            rw [schedule?_eq_none_iff.2 h] at hsched
            cases hsched
          dsimp only
          rw [Event.handle_eq_stuck_iff]
          exact ⟨fun h => absurd h.2.2.2 hcuts, fun h => absurd h.2 hcuts⟩

end Reconcile

/-- **The operator is stuck exactly on intervals that cut a digit**, wherever it reads them. -/
theorem stuck_iff_cutsDigit [RecordSink π] [ClusterApi κ] :
    (∀ text, Interval.read text = .stuck ↔ Interval.CutsDigit text) ∧
    (∀ policy record now forced storeRetry (w : World σ π),
      (Cycle.run policy record now forced storeRetry w).1 = .error .stuck ↔
        Interval.CutsDigit policy.interval) ∧
    (∀ r now (o : Operator σ π), (Event.handle r now o).1 = .error (.cycle .stuck) ↔
      (∃ key, r.key = .ok key) ∧ r.spec.suspend = false ∧
        (Trigger.classify r now).runs = true ∧ Interval.CutsDigit r.spec.rotationInterval) ∧
    (∀ (r : Resource) key (o : Operator σ κ), Reconcile.schedule? r key o = none ↔
      Interval.CutsDigit r.spec.rotationInterval) ∧
    (∀ r now stamp (o : Operator σ κ), (Reconcile.run r now stamp o).1 = .error (.cycle .stuck) ↔
      (∃ key, r.key = .ok key) ∧ Interval.CutsDigit r.spec.rotationInterval) := by
  refine ⟨fun text => ?_, fun policy record now forced storeRetry w => ?_, fun r now o => ?_,
    fun r key o => ?_, fun r now stamp o => ?_⟩
  · exact Interval.read_eq_stuck_iff
  · exact Cycle.run_eq_stuck_iff
  · exact Event.handle_eq_stuck_iff
  · exact Reconcile.schedule?_eq_none_iff
  · exact Reconcile.run_eq_stuck_iff

end CredentialRotation
