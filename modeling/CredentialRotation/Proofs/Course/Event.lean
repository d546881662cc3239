import CredentialRotation.Event
import CredentialRotation.Proofs.Course.Cycle

/-!
# Proofs — Course — Event

What an event on a resource comes to, before anything is drawn: no cycle at all, or a cycle of some
course (`Event.course?`).  Resource and clock settle it; the operator has no part in it.

* `handle_of_course?_eq_some`: an event that runs a cycle is that cycle, played, and what follows
  it.
* `handle_of_course?_eq_none`: an event that runs none changes nothing but the counts.
* `handle_of_attempts`, `world_of_not_attempts`: the random source and the store are asked exactly
  in the events that come to an attempt (`Event.Attempts`).
-/

namespace CredentialRotation

namespace Event

variable {σ π : Type}

/-! ### Following up -/

/-- The answer to an event for what its cycle is followed by, where `pending` is the delay that the
next failure of the resource gets. -/
def answer (pending : Nat) : FollowUp → FollowUp
  | .onChange => .onChange
  | .after delay => if delay = 0 then .after pending else .after delay

theorem answer_after_of_pos (pending : Nat) {delay : Nat} (h : 0 < delay) :
    answer pending (.after delay) = .after delay := by
  rw [answer, if_neg (Nat.ne_of_gt h)]

theorem answer_eq_onChange_iff {pending : Nat} {next : FollowUp} :
    answer pending next = .onChange ↔ next = .onChange := by
  cases next with
  | onChange => simp [answer]
  | after delay =>
      rw [answer]
      split <;> simp

theorem follow_fst (key : String) (outcome : Cycle.Outcome) (o : Operator σ π) :
    (follow key outcome o).1 = answer (o.backoffs.pending key) outcome.next := by
  unfold follow answer
  cases outcome.next with
  | onChange => rfl
  | after delay =>
      dsimp only
      split <;> rfl

/-- Following up leaves the store, the random source and the sink alone. -/
theorem follow_snd (key : String) (outcome : Cycle.Outcome) (o : Operator σ π) :
    (follow key outcome o).2.store = o.store ∧ (follow key outcome o).2.entropy = o.entropy ∧
      (follow key outcome o).2.sink = o.sink := by
  unfold follow
  cases outcome.next with
  | onChange => exact ⟨rfl, rfl, rfl⟩
  | after delay =>
      dsimp only
      split <;> exact ⟨rfl, rfl, rfl⟩

/-- What follows a cycle that was run for an operator. -/
def settle (key : String) (o : Operator σ π) :
    Except Cycle.Stop Cycle.Outcome × World σ π → Except Stop FollowUp × Operator σ π
  | (.error stop, w) => (.error (.cycle stop), { o with toWorld := w })
  | (.ok outcome, w) =>
    (.ok (follow key outcome { o with toWorld := w }).1,
      (follow key outcome { o with toWorld := w }).2)

theorem runCycle_eq_settle [SecretStore σ] [RecordSink π] (resource : Resource) (key : String)
    (now : Instant) (forced : Bool) (o : Operator σ π) :
    runCycle resource key now forced o =
      settle key o
        (Cycle.run resource.spec.policy resource.record now forced o.storeRetry o.toWorld) := by
  unfold runCycle settle
  rcases Cycle.run resource.spec.policy resource.record now forced o.storeRetry o.toWorld with
    ⟨result, w⟩
  cases result <;> rfl

theorem settle_snd (key : String) (o : Operator σ π)
    (played : Except Cycle.Stop Cycle.Outcome × World σ π) :
    (settle key o played).2.store = played.2.store ∧
      (settle key o played).2.entropy = played.2.entropy ∧
      (settle key o played).2.sink = played.2.sink := by
  obtain ⟨result, w⟩ := played
  cases result with
  | error stop => exact ⟨rfl, rfl, rfl⟩
  | ok outcome => exact follow_snd key outcome { o with toWorld := w }

/-- An outcome is answered by its follow-up. -/
theorem settle_fst_of_ok {key : String} {o : Operator σ π} {outcome : Cycle.Outcome}
    {played : Except Cycle.Stop Cycle.Outcome × World σ π} (h : played.1 = .ok outcome) :
    (settle key o played).1 = .ok (answer (o.backoffs.pending key) outcome.next) := by
  obtain ⟨result, w⟩ := played
  obtain rfl : result = .ok outcome := h
  simp only [settle, follow_fst]

/-- An event that ran a cycle was answered only if the cycle had an outcome. -/
theorem exists_of_settle_eq_ok {key : String} {o : Operator σ π} {next : FollowUp}
    {played : Except Cycle.Stop Cycle.Outcome × World σ π}
    (h : (settle key o played).1 = .ok next) :
    ∃ outcome, played.1 = .ok outcome ∧ next = answer (o.backoffs.pending key) outcome.next := by
  obtain ⟨result, w⟩ := played
  cases result with
  | error stop => cases h
  | ok outcome =>
      rw [settle_fst_of_ok rfl] at h
      exact ⟨outcome, rfl, (Except.ok.inj h).symm⟩

/-! ### The course of an event -/

/-- The course of the cycle that the event runs, if it runs one. -/
def course? (r : Resource) (now : Instant) : Option Cycle.Course :=
  if r.spec.suspend then none
  else if (Trigger.classify r now).runs then
    some (Cycle.course r.spec.policy r.record now (Trigger.classify r now = .manual))
  else none

/-- The event comes to an attempt: a password is drawn, and written if that succeeds. -/
def Attempts (r : Resource) (now : Instant) : Prop :=
  ∃ key interval, r.key = .ok key ∧ course? r now = some (.attempts interval)

theorem course?_of_runs {r : Resource} {now : Instant} (hs : r.spec.suspend = false)
    (hr : (Trigger.classify r now).runs = true) :
    course? r now =
      some (Cycle.course r.spec.policy r.record now (Trigger.classify r now = .manual)) := by
  rw [course?, hs, if_neg Bool.false_ne_true, if_pos hr]

theorem course?_eq_some_iff {r : Resource} {now : Instant} {c : Cycle.Course} :
    course? r now = some c ↔ r.spec.suspend = false ∧ (Trigger.classify r now).runs = true ∧
      Cycle.course r.spec.policy r.record now (Trigger.classify r now = .manual) = c := by
  unfold course?
  split
  · next hs => simp [hs]
  · next hs =>
    split
    · next hr => simp [hs, hr]
    · next hr => simp [hr]

theorem read_of_course?_eq_refused {r : Resource} {now : Instant} {reason : Interval.Refusal}
    (h : course? r now = some (.refused reason)) :
    Interval.read r.spec.rotationInterval = .refused reason := by
  obtain ⟨-, -, hc⟩ := course?_eq_some_iff.1 h
  have hread := Cycle.course_eq_refused_iff.1 hc
  exact hread

theorem read_of_course?_eq_attempts {r : Resource} {now : Instant} {interval : Nat}
    (h : course? r now = some (.attempts interval)) :
    Interval.read r.spec.rotationInterval = .span interval := by
  obtain ⟨-, -, hc⟩ := course?_eq_some_iff.1 h
  obtain ⟨hread, -⟩ := Cycle.course_eq_attempts_iff.1 hc
  exact hread

variable [SecretStore σ] [RecordSink π]

/-- **An event that runs a cycle** is that cycle, played, and what follows it. -/
theorem handle_of_course?_eq_some {r : Resource} {now : Instant} {key : String} {c : Cycle.Course}
    (hk : r.key = .ok key) (hc : course? r now = some c) (o : Operator σ π) :
    handle r now o = settle key o (c.play r.spec.policy r.record now o.storeRetry o.toWorld) := by
  obtain ⟨hs, hr, rfl⟩ := course?_eq_some_iff.1 hc
  rw [← Cycle.run_eq_play, ← runCycle_eq_settle]
  unfold handle
  rw [hk, hs]
  dsimp only
  rw [if_neg Bool.false_ne_true]
  cases ht : Trigger.classify r now with
  | specChanged => rfl
  | manual => rfl
  | due => rfl
  | notDue wait => rw [ht] at hr; cases hr
  | idle => rw [ht] at hr; cases hr

/-- **An event that runs no cycle** changes nothing but the counts, and fails at no cycle. -/
theorem handle_of_course?_eq_none {r : Resource} {now : Instant} (hc : course? r now = none)
    (o : Operator σ π) :
    ∃ result samples, handle r now o = (result, { o with samples := o.samples ++ samples }) ∧
      ∀ stop, result ≠ .error (.cycle stop) := by
  unfold handle
  cases r.key with
  | error part =>
      exact ⟨.error (.missing part), [], by rw [List.append_nil], fun _ h => (nomatch h)⟩
  | ok key =>
      dsimp only
      split
      · exact ⟨_, _, rfl, fun _ h => (nomatch h)⟩
      · next hs =>
        cases ht : Trigger.classify r now with
        | notDue wait => exact ⟨_, _, rfl, fun _ h => (nomatch h)⟩
        | idle => exact ⟨_, _, rfl, fun _ h => (nomatch h)⟩
        | specChanged | manual | due => simp [course?, hs, ht, Trigger.runs] at hc

/-- An event on a resource without a name or a namespace is not handled. -/
theorem handle_of_missing {r : Resource} {part : MissingPart} (hk : r.key = .error part)
    (now : Instant) (o : Operator σ π) : handle r now o = (.error (.missing part), o) := by
  rw [handle, hk]

/-- **An event that comes to an attempt** draws, and writes if that succeeds. -/
theorem handle_of_attempts {r : Resource} {now : Instant} (h : Attempts r now)
    (o : Operator σ π) : ∃ key interval, r.key = .ok key ∧
      Interval.read r.spec.rotationInterval = .span interval ∧
      handle r now o =
        settle key o
          (Cycle.attempt r.spec.policy interval o.storeRetry r.record now o.toWorld) := by
  obtain ⟨key, interval, hk, hc⟩ := h
  exact ⟨key, interval, hk, read_of_course?_eq_attempts hc, handle_of_course?_eq_some hk hc o⟩

/-- **Any other event** leaves the store and the random source alone. -/
theorem world_of_not_attempts {r : Resource} {now : Instant} (h : ¬ Attempts r now)
    (o : Operator σ π) :
    (handle r now o).2.store = o.store ∧ (handle r now o).2.entropy = o.entropy := by
  cases hk : r.key with
  | error part =>
      rw [handle_of_missing hk]
      exact ⟨rfl, rfl⟩
  | ok key =>
      cases hc : course? r now with
      | none =>
          obtain ⟨result, samples, he, -⟩ := handle_of_course?_eq_none hc o
          rw [he]
          exact ⟨rfl, rfl⟩
      | some c =>
          rw [handle_of_course?_eq_some hk hc]
          obtain ⟨hstore, hentropy, -⟩ := settle_snd key o
            (c.play r.spec.policy r.record now o.storeRetry o.toWorld)
          rw [hstore, hentropy]
          cases c with
          | stuck => exact ⟨rfl, rfl⟩
          | waits wait => exact ⟨rfl, rfl⟩
          | refused reason =>
              simp only [Cycle.Course.play, Cycle.conclude]
              split <;> exact ⟨rfl, rfl⟩
          | attempts interval => exact absurd ⟨key, interval, hk, hc⟩ h

end Event

end CredentialRotation
