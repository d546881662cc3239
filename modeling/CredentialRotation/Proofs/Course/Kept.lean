import CredentialRotation.Proofs.Course.Event
import CredentialRotation.Store.Memory

/-!
# Proofs — Course — Kept

The record that an event leaves.  Which records a sink has taken shows once they are written down
beside it: a *transcript* is any sink at all, with the list of what it took.

**Main statement** (`kept_of_taken`).  An event after which the sink has taken one more record came
either to an interval that is refused or to an attempt (`Event.Kept`), the record is the one of that
ending, and the answer is the follow-up of that ending, where at once becomes the delay that the
next failure of the resource gets.
-/

namespace CredentialRotation

variable {σ π : Type}

/-- A sink and the records that it has taken, the oldest first. -/
structure Transcript (π : Type) where
  sink : π
  taken : List Record

namespace Transcript

/-- Hand a record to the sink, and write it down if it was taken. -/
def put [RecordSink π] (t : Transcript π) (r : Record) : Except Failure Unit × Transcript π :=
  match RecordSink.put t.sink r with
  | (.ok _, sink) => (.ok (), ⟨sink, t.taken ++ [r]⟩)
  | (.error reason, sink) => (.error reason, ⟨sink, t.taken⟩)

instance [RecordSink π] : RecordSink (Transcript π) := ⟨put⟩

/-- A record is written down exactly if the sink takes it. -/
theorem put_cases [RecordSink π] (t : Transcript π) (r : Record) :
    (∃ sink, RecordSink.put t r = (.ok (), ⟨sink, t.taken ++ [r]⟩)) ∨
      ∃ reason sink, RecordSink.put t r = (.error reason, ⟨sink, t.taken⟩) := by
  show (∃ sink, t.put r = _) ∨ ∃ reason sink, t.put r = _
  unfold put
  rcases RecordSink.put t.sink r with ⟨result, sink⟩
  cases result with
  | ok _ => exact .inl ⟨sink, rfl⟩
  | error reason => exact .inr ⟨reason, sink, rfl⟩

end Transcript

namespace Cycle

/-- What is taken at the end of a cycle is the record of its ending. -/
theorem conclude_of_taken [RecordSink π] {record left : Record} {next : FollowUp}
    {w : World σ (Transcript π)}
    (h : (conclude record next w).2.sink.taken = w.sink.taken ++ [left]) :
    left = record ∧ (conclude record next w).1 = .ok ⟨record, next⟩ := by
  rcases w.sink.put_cases record with ⟨sink, hput⟩ | ⟨reason, sink, hput⟩
  · simp only [conclude, hput] at h ⊢
    exact ⟨(List.singleton_inj.1 (List.append_cancel_left h)).symm, trivial⟩
  · simp only [conclude, hput, List.self_eq_append_right, List.cons_ne_self] at h

/-- At the end of a cycle that has an outcome its record is taken. -/
theorem taken_of_conclude_eq_ok [RecordSink π] {record : Record} {next : FollowUp}
    {w : World σ (Transcript π)} {outcome : Outcome}
    (h : (conclude record next w).1 = .ok outcome) :
    (conclude record next w).2.sink.taken = w.sink.taken ++ [record] := by
  rcases w.sink.put_cases record with ⟨sink, hput⟩ | ⟨reason, sink, hput⟩
  · rw [conclude, hput]
  · rw [conclude, hput] at h
    cases h

end Cycle

namespace Event

variable [SecretStore σ] [RecordSink π] {r : Resource} {now : Instant}
  {o : Operator σ (Transcript π)}

/-- A record that an event on the resource may leave, and what follows the cycle that left it. -/
inductive Kept (r : Resource) (now : Instant) (o : Operator σ (Transcript π)) :
    Record → FollowUp → Prop where
  /-- The interval is none. -/
  | refused {reason : Interval.Refusal} (hc : course? r now = some (.refused reason)) :
      Kept r now o
        (r.record.failed .configError
          (Cycle.intervalMessage r.spec.rotationInterval reason)) .onChange
  /-- The event came to an attempt. -/
  | ended {interval : Nat} {record : Record} {next : FollowUp} {w : World σ (Transcript π)}
      (hc : course? r now = some (.attempts interval))
      (he : Cycle.Ending r.spec.policy interval o.storeRetry r.record now o.toWorld record next w) :
      Kept r now o record next

omit [RecordSink π] in
/-- A suspended resource leaves no record. -/
theorem Kept.suspend_eq_false {record : Record} {next : FollowUp} (h : Kept r now o record next) :
    r.spec.suspend = false := by
  cases h with
  | refused hc => exact (course?_eq_some_iff.1 hc).1
  | ended hc _ => exact (course?_eq_some_iff.1 hc).1

/-- **What an event did that left a record.** -/
theorem kept_of_taken {record : Record}
    (h : (handle r now o).2.sink.taken = o.sink.taken ++ [record]) :
    ∃ key next, r.key = .ok key ∧ Kept r now o record next ∧
      (handle r now o).1 = .ok (answer (o.backoffs.pending key) next) := by
  -- nothing is taken by a sink that is left as it was
  have hsame : (handle r now o).2.sink ≠ o.sink := by
    intro he
    rw [he, List.self_eq_append_right] at h
    cases h
  cases hk : r.key with
  | error part => exact absurd (by rw [handle_of_missing hk]) hsame
  | ok key =>
      cases hc : course? r now with
      | none =>
          obtain ⟨result, samples, he, -⟩ := handle_of_course?_eq_none hc o
          exact absurd (by rw [he]) hsame
      | some c =>
          have hh := handle_of_course?_eq_some hk hc o
          have hsink := (settle_snd key o
            (c.play r.spec.policy r.record now o.storeRetry o.toWorld)).2.2
          rw [← hh] at hsink
          cases c with
          | stuck => exact absurd hsink hsame
          | waits wait => exact absurd hsink hsame
          | refused reason =>
              rw [hsink, Cycle.Course.play] at h
              obtain ⟨rfl, hok⟩ := Cycle.conclude_of_taken h
              refine ⟨key, .onChange, rfl, .refused hc, ?_⟩
              rw [hh, Cycle.Course.play, settle_fst_of_ok hok]
          | attempts interval =>
              obtain ⟨left, next, w, he, hw⟩ := Cycle.attempt_eq_conclude r.spec.policy interval
                o.storeRetry r.record now o.toWorld
              rw [hsink, Cycle.Course.play, hw, ← he.sink_eq] at h
              obtain ⟨rfl, hok⟩ := Cycle.conclude_of_taken h
              refine ⟨key, next, rfl, .ended hc he, ?_⟩
              rw [hh, Cycle.Course.play, hw, settle_fst_of_ok hok]

end Event

/-! ### A specimen

A secret that is rotated every hour, and a store that takes nothing. -/

namespace Specimen

/-- So many milliseconds after 2024-06-01T08:00:00Z. -/
def clock (millis : Nat) : Instant := .ofTicks ((1717228800000 + millis) * 1000000)

/-- The secret, without a password yet. -/
def unrotated : Resource :=
  { metadata := ⟨some "orders-db", some "payments", some 1, []⟩
    spec := ⟨"1h", 16, false, "secret/data/orders", false⟩
    status := none }

/-- The secret, rotated at eight and asked for once more since then. -/
def requested : Resource :=
  { unrotated with
    metadata := ⟨some "orders-db", some "payments", some 1, [(Resource.requestAnnotation, "r1")]⟩
    status := some ⟨some "2024-06-01T08:00:00Z", some "Ready", none, some 1,
      some "2024-06-01T09:00:00Z", none, []⟩ }

/-- An operator whose store is down, with this delay after a store failure. -/
def operator (storeRetry : Nat) : Operator MemoryStore (Transcript Journal) :=
  { entropy := ⟨List.replicate 16 (.ok ⟨0, by decide⟩), "exhausted"⟩
    store := .blank (.fail "down")
    sink := ⟨.blank, []⟩
    samples := []
    backoffs := .blank 1 30
    storeRetry := storeRetry }

/-- The record of a password that was not written. -/
def unwritten (rotatedAt : Option Instant) : Record :=
  ⟨rotatedAt, some .storeError,
    some "Writing to secret/data/orders failed: secret store unavailable: down"⟩

/-- Whether an event was handled can be decided, though not whether two failures are the same. -/
theorem eq_ok_of_toOption {ε α : Type} {x : Except ε α} {a : α} (h : x.toOption = some a) :
    x = .ok a := by
  cases x with
  | error e => cases h
  | ok b => exact congrArg _ (Option.some.inj h)

end Specimen

end CredentialRotation
