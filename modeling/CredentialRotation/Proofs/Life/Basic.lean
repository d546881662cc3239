import CredentialRotation.Proofs.Course.Echo
import CredentialRotation.Proofs.Course.Kept

/-!
# Proofs — Life — Basic

A resource over time.  Its life goes on in *turns* (`Turn`): somebody edits it, the operator that
looks after it changes, or an event on it is handled.  Only an event touches the status, and only
through the record that the sink took.  What an event met, and what it did there, is an
`Occurrence`; the occurrences of a run are listed in their order (`Life.occurrences`).

Whether the store was asked shows once that is written down beside it: a *ledger* is any store at
all, with the list of the writes that it was asked for, just as a transcript is any sink.

* `Occurrence.cases`: an event leaves store and sink alone, or it hands a record to its sink, and
  then the record tells what became of the password (`Event.Hands`).
* `status_through`: what every event of a run keeps of the status, the run keeps.
* `exists_turns_of_occurrences_eq`: a run goes on from each of its events as a run of its own.
-/

namespace CredentialRotation

variable {σ π : Type}

/-! ### What the store was asked for -/

/-- A store, and for every write that it was asked for whether it took it, the oldest first. -/
structure Ledger (σ : Type) where
  store : σ
  writes : List Bool

namespace Ledger

/-- Pass a write on to the store, and write down whether it was taken. -/
def write [SecretStore σ] (l : Ledger σ) (path : String) (secret : Secret) :
    Except StoreError Unit × Ledger σ :=
  match SecretStore.write l.store path secret with
  | (.ok _, store) => (.ok (), ⟨store, l.writes ++ [true]⟩)
  | (.error reason, store) => (.error reason, ⟨store, l.writes ++ [false]⟩)

instance [SecretStore σ] : SecretStore (Ledger σ) := ⟨fun l => SecretStore.kind l.store, write⟩

theorem writes_of_ok [SecretStore σ] {l l' : Ledger σ} {path : String} {secret : Secret}
    (h : SecretStore.write l path secret = (.ok (), l')) : l'.writes = l.writes ++ [true] := by
  have hw : l.write path secret = (.ok (), l') := h
  unfold write at hw
  split at hw
  · obtain rfl := (Prod.mk.inj hw).2
    rfl
  · cases (Prod.mk.inj hw).1

theorem writes_of_error [SecretStore σ] {l l' : Ledger σ} {path : String} {secret : Secret}
    {reason : StoreError} (h : SecretStore.write l path secret = (.error reason, l')) :
    l'.writes = l.writes ++ [false] := by
  have hw : l.write path secret = (.error reason, l') := h
  unfold write at hw
  split at hw
  · cases (Prod.mk.inj hw).1
  · obtain rfl := (Prod.mk.inj hw).2
    rfl

end Ledger

/-! ### What an event hands over -/

namespace Cycle

/-- The sink takes the record of a cycle, or it takes none. -/
theorem taken_conclude [RecordSink π] (record : Record) (next : FollowUp)
    (w : World σ (Transcript π)) :
    (conclude record next w).2.sink.taken = w.sink.taken ∨
      (conclude record next w).2.sink.taken = w.sink.taken ++ [record] := by
  rcases w.sink.put_cases record with ⟨sink, hput⟩ | ⟨reason, sink, hput⟩
  · refine .inr ?_
    rw [conclude, hput]
  · refine .inl ?_
    rw [conclude, hput]

end Cycle

namespace Event

/-- An event on the resource hands this record to its sink; before that the store was asked for a
write and took it or not, or it was not asked. -/
inductive Hands (r : Resource) (now : Instant) : Option Bool → Record → Prop where
  /-- The interval is none. -/
  | refused {reason : Interval.Refusal} (hc : course? r now = some (.refused reason)) :
      Hands r now none
        (r.record.failed .configError (Cycle.intervalMessage r.spec.rotationInterval reason))
  /-- No password was drawn. -/
  | undrawn {interval : Nat} {reason : Password.Failure}
      (hc : course? r now = some (.attempts interval)) :
      Hands r now none (r.record.failed .generationError (Cycle.drawMessage reason))
  /-- The store did not take the password. -/
  | unwritten {interval : Nat} {reason : StoreError}
      (hc : course? r now = some (.attempts interval)) :
      Hands r now (some false)
        (r.record.failed .storeError (Cycle.writeMessage r.spec.storePath reason))
  /-- The store took the password. -/
  | rotated {interval : Nat} (hc : course? r now = some (.attempts interval)) :
      Hands r now (some true) (.rotated now (Cycle.rotatedMessage r.spec.storePath))

/-- An event that never had the store take a password leaves the time of the last rotation alone. -/
theorem Hands.rotatedAt_eq {r : Resource} {now : Instant} {wrote : Option Bool} {record : Record}
    (h : Hands r now wrote record) (hw : wrote ≠ some true) :
    record.rotatedAt = r.record.rotatedAt := by
  cases h with
  | refused _ => rfl
  | undrawn _ => rfl
  | unwritten _ => rfl
  | rotated _ => exact absurd rfl hw

/-- An event that had the store take a password leaves its own time. -/
theorem Hands.rotatedAt_of_true {r : Resource} {now : Instant} {record : Record}
    (h : Hands r now (some true) record) : record.rotatedAt = some now := by
  cases h
  rfl

/-- A store is asked in attempts only. -/
theorem Hands.course?_of_some {r : Resource} {now : Instant} {taken : Bool} {record : Record}
    (h : Hands r now (some taken) record) :
    ∃ interval, course? r now = some (.attempts interval) := by
  cases h with
  | unwritten hc => exact ⟨_, hc⟩
  | rotated hc => exact ⟨_, hc⟩

/-- A cycle that waits hands over nothing. -/
theorem Hands.course?_ne_waits {r : Resource} {now : Instant} {wrote : Option Bool}
    {record : Record}
    (h : Hands r now wrote record) (wait : Nat) : course? r now ≠ some (.waits wait) := by
  intro hw
  cases h with
  | refused hc => cases hc.symm.trans hw
  | undrawn hc | unwritten hc | rotated hc => cases hc.symm.trans hw

variable [SecretStore σ] [RecordSink π]

/-- **What an event does to store and sink.** -/
theorem handle_cases (r : Resource) (now : Instant) (o : Operator (Ledger σ) (Transcript π)) :
    (handle r now o).2.store = o.store ∧ (handle r now o).2.sink = o.sink ∨
      ∃ wrote record, Hands r now wrote record ∧
        (handle r now o).2.store.writes = o.store.writes ++ wrote.toList ∧
        ((handle r now o).2.sink.taken = o.sink.taken ∨
          (handle r now o).2.sink.taken = o.sink.taken ++ [record]) := by
  cases hk : r.key with
  | error part =>
      rw [handle_of_missing hk]
      exact .inl ⟨rfl, rfl⟩
  | ok key =>
      cases hc : course? r now with
      | none =>
          obtain ⟨result, samples, he, -⟩ := handle_of_course?_eq_none hc o
          rw [he]
          exact .inl ⟨rfl, rfl⟩
      | some c =>
          rw [handle_of_course?_eq_some hk hc]
          obtain ⟨hstore, -, hsink⟩ := settle_snd key o
            (c.play r.spec.policy r.record now o.storeRetry o.toWorld)
          rw [hstore, hsink]
          cases c with
          | stuck => exact .inl ⟨rfl, rfl⟩
          | waits wait => exact .inl ⟨rfl, rfl⟩
          | refused reason =>
              refine .inr ⟨none, _, .refused hc, ?_, Cycle.taken_conclude _ _ _⟩
              rw [Cycle.Course.play, Cycle.store_conclude, Option.toList_none, List.append_nil]
              rfl
          | attempts interval =>
              obtain ⟨record, next, w, he, hplay⟩ :=
                Cycle.attempt_eq_conclude r.spec.policy interval o.storeRetry r.record now o.toWorld
              rw [Cycle.Course.play, hplay, Cycle.store_conclude, ← he.sink_eq]
              have htaken := Cycle.taken_conclude record next w
              cases he with
              | undrawn hd =>
                  refine .inr ⟨none, _, .undrawn hc, ?_, htaken⟩
                  rw [Option.toList_none, List.append_nil]
                  rfl
              | unwritten hd hw =>
                  exact .inr ⟨some false, _, .unwritten hc, Ledger.writes_of_error hw, htaken⟩
              | rotated hd hw =>
                  exact .inr ⟨some true, _, .rotated hc, Ledger.writes_of_ok hw, htaken⟩

end Event

/-! ### Turns -/

/-- A resource, and the operator that looks after it. -/
structure Life (σ π : Type) where
  resource : Resource
  operator : Operator (Ledger σ) (Transcript π)

/-- When an event comes, and what its record is written to the status with. -/
structure Occasion where
  now : Instant
  schedule : Schedule
  /-- The time at which the record is written. -/
  stamp : Instant

/-- What may happen next in the life of a resource. -/
inductive Turn (σ π : Type) where
  /-- The resource is edited; its status stays. -/
  | edit (metadata : Metadata) (spec : Spec)
  /-- The operator goes on in this state: it has seen to other resources, or its store, its sink or
  its random source has changed. -/
  | operator (operator : Operator (Ledger σ) (Transcript π))
  /-- An event on the resource is handled. -/
  | event (occasion : Occasion)

/-- An event, with the resource and the operator that it met. -/
structure Occurrence (σ π : Type) extends Life σ π, Occasion

variable [SecretStore σ] [RecordSink π]

namespace Occurrence

/-- What became of the event, and of the operator. -/
def handled (e : Occurrence σ π) :
    Except Event.Stop FollowUp × Operator (Ledger σ) (Transcript π) :=
  Event.handle e.resource e.now e.operator

/-- How the event was answered. -/
def answer (e : Occurrence σ π) : Except Event.Stop FollowUp := e.handled.1

/-- What the event called for. -/
def trigger (e : Occurrence σ π) : Trigger := Trigger.classify e.resource e.now

/-- Whether the store took the password; `none` where it was not asked. -/
def written? (e : Occurrence σ π) : Option Bool :=
  (e.handled.2.store.writes.drop e.operator.store.writes.length).head?

/-- The record that the sink took, if it took one. -/
def kept? (e : Occurrence σ π) : Option Record :=
  (e.handled.2.sink.taken.drop e.operator.sink.taken.length).head?

/-- How the life goes on: a record that was kept is written to the status. -/
def after (e : Occurrence σ π) : Life σ π :=
  { resource := match e.kept? with
      | some record => e.resource.recorded record e.schedule e.stamp
      | none => e.resource
    operator := e.handled.2 }

theorem kept?_of_taken {e : Occurrence σ π} {record : Record}
    (h : e.handled.2.sink.taken = e.operator.sink.taken ++ [record]) : e.kept? = some record := by
  rw [kept?, h, List.drop_left]
  rfl

/-- **An event leaves store and sink alone, or it hands over a record**, which the sink takes or
not. -/
theorem cases (e : Occurrence σ π) :
    e.written? = none ∧ e.kept? = none ∨
      ∃ record, Event.Hands e.resource e.now e.written? record ∧
        (e.kept? = none ∨ e.kept? = some record) := by
  rcases Event.handle_cases e.resource e.now e.operator with
    ⟨hstore, hsink⟩ | ⟨wrote, record, hands, hwrites, htaken⟩
  · refine .inl ⟨?_, ?_⟩
    · rw [written?, handled, hstore, List.drop_length]
      rfl
    · rw [kept?, handled, hsink, List.drop_length]
      rfl
  · have hwrote : e.written? = wrote := by
      rw [written?, handled, hwrites, List.drop_left, Option.head?_toList]
    refine .inr ⟨record, hwrote ▸ hands, ?_⟩
    rcases htaken with hsame | hmore
    · refine .inl ?_
      rw [kept?, handled, hsame, List.drop_length]
      rfl
    · exact .inr (kept?_of_taken hmore)

/-- A record that was kept is one that the event handed over. -/
theorem hands_of_kept? {e : Occurrence σ π} {record : Record} (h : e.kept? = some record) :
    Event.Hands e.resource e.now e.written? record := by
  rcases e.cases with ⟨-, hnone⟩ | ⟨handed, hands, hnone | hsome⟩
  · cases hnone.symm.trans h
  · cases hnone.symm.trans h
  · cases hsome.symm.trans h
    exact hands

/-- An event asks the store only if it comes to an attempt. -/
theorem course?_of_written? {e : Occurrence σ π} (h : e.written? ≠ none) :
    ∃ interval, Event.course? e.resource e.now = some (.attempts interval) := by
  rcases e.cases with ⟨hnone, -⟩ | ⟨record, hands, -⟩
  · exact absurd hnone h
  · obtain ⟨taken, ht⟩ := Option.ne_none_iff_exists'.1 h
    rw [ht] at hands
    exact hands.course?_of_some

theorem resource_after_of_none {e : Occurrence σ π} (h : e.kept? = none) :
    e.after.resource = e.resource := by
  rw [after, h]

theorem resource_after_of_some {e : Occurrence σ π} {record : Record} (h : e.kept? = some record) :
    e.after.resource = e.resource.recorded record e.schedule e.stamp := by
  rw [after, h]

end Occurrence

namespace Life

/-- The life after one more turn. -/
def step (l : Life σ π) : Turn σ π → Life σ π
  | .edit metadata spec =>
    { l with resource := { l.resource with metadata := metadata, spec := spec } }
  | .operator operator => { l with operator := operator }
  | .event occasion => (Occurrence.mk l occasion).after

/-- The life after these turns. -/
def through (l : Life σ π) (turns : List (Turn σ π)) : Life σ π := turns.foldl step l

/-- The events among these turns, each with what it met. -/
def occurrences (l : Life σ π) : List (Turn σ π) → List (Occurrence σ π)
  | [] => []
  | .edit metadata spec :: turns => (l.step (.edit metadata spec)).occurrences turns
  | .operator operator :: turns => (l.step (.operator operator)).occurrences turns
  | .event occasion :: turns =>
    ⟨l, occasion⟩ :: (Occurrence.mk l occasion).after.occurrences turns

/-- **What every event of a run keeps of the status, the run keeps.**  Between events the status is
left alone. -/
theorem status_through {P : Option Status → Prop} {l : Life σ π} {turns : List (Turn σ π)}
    (hevent : ∀ e ∈ l.occurrences turns, P e.resource.status → P e.after.resource.status)
    (h : P l.resource.status) :
    (∀ e ∈ l.occurrences turns, P e.resource.status) ∧ P (l.through turns).resource.status := by
  induction turns generalizing l with
  | nil => exact ⟨fun _ he => (nomatch he), h⟩
  | cons turn turns ih =>
      cases turn with
      | edit metadata spec => exact ih hevent h
      | operator operator => exact ih hevent h
      | event occasion =>
          have hnext := hevent ⟨l, occasion⟩ List.mem_cons_self h
          obtain ⟨hall, hend⟩ := ih (fun e he => hevent e (List.mem_cons_of_mem _ he)) hnext
          exact ⟨List.forall_mem_cons.2 ⟨h, hall⟩, hend⟩

/-- **A run goes on from each of its events** as a run of its own. -/
theorem exists_turns_of_occurrences_eq {l : Life σ π} {turns : List (Turn σ π)}
    {earlier later : List (Occurrence σ π)} {e : Occurrence σ π}
    (h : l.occurrences turns = earlier ++ e :: later) :
    ∃ before rest, turns = before ++ .event e.toOccasion :: rest ∧ l.occurrences before = earlier ∧
      e.toLife = l.through before ∧ e.after.occurrences rest = later := by
  induction turns generalizing l earlier with
  | nil => exact absurd h (List.append_ne_nil_of_right_ne_nil _ (List.cons_ne_nil _ _)).symm
  | cons turn turns ih =>
      cases turn with
      | edit metadata spec =>
          obtain ⟨before, rest, rfl, hbefore, hlife, hlater⟩ := ih h
          exact ⟨.edit metadata spec :: before, rest, rfl, hbefore, hlife, hlater⟩
      | operator operator =>
          obtain ⟨before, rest, rfl, hbefore, hlife, hlater⟩ := ih h
          exact ⟨.operator operator :: before, rest, rfl, hbefore, hlife, hlater⟩
      | event occasion =>
          cases earlier with
          | nil =>
              obtain ⟨rfl, rfl⟩ := List.cons.inj h
              exact ⟨[], turns, rfl, rfl, rfl, rfl⟩
          | cons first earlier =>
              obtain ⟨rfl, htail⟩ := List.cons.inj h
              obtain ⟨before, rest, rfl, hbefore, hlife, hlater⟩ := ih htail
              exact ⟨.event occasion :: before, rest, rfl, congrArg (_ :: ·) hbefore, hlife, hlater⟩

end Life

/-! ### A specimen -/

namespace Specimen

/-- An operator that keeps a ledger, with a store of this behaviour and so many answers of the
random source. -/
def keeper (behavior : StoreBehavior) (draws : Nat) :
    Operator (Ledger MemoryStore) (Transcript Journal) :=
  { entropy := ⟨List.replicate draws (.ok ⟨0, Word.limit32_pos⟩), "exhausted"⟩
    store := ⟨.blank behavior, []⟩
    sink := ⟨.blank, []⟩
    samples := []
    backoffs := .blank 1 30
    storeRetry := 30000000000 }

/-- An event so many milliseconds after eight, while the interval is an hour. -/
def occasion (millis : Nat) : Occasion :=
  ⟨clock millis, ⟨some 3600000000000, 30000000000, 1000000000⟩, clock millis⟩

end Specimen

end CredentialRotation
