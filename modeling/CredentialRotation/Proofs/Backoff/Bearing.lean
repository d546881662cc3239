import CredentialRotation.Proofs.Course.Event

/-!
# Proofs — Backoff — Bearing

What handling an event does to the table of failures.  The table is touched in several places, but
what comes of an event *bears* on the failures of its resource in one of three ways (`Bearing`): it
is one more failure, it settles them, or it leaves them alone.

* `Backoffs.Holds`: the table holds so many failures in a row against a key, and what it tells then
  (`Holds.tells`).
* `Bearing.holds_apply`, `Bearing.holds_apply_of_ne`: what becomes of that, for the key that is
  borne on and for any other.
* `Event.backoffs_handle`: an event does to the table what the outcome of its cycle bears.
-/

namespace CredentialRotation

variable {σ π : Type}

/-! ### So many failures in a row -/

namespace Backoff

/-- The run after so many delays. -/
def skip (b : Backoff) : Nat → Backoff
  | 0 => b
  | n + 1 => (b.skip n).next

/-- The `k`-th delay of the run, counted from one. -/
def nth (b : Backoff) (k : Nat) : Nat := (b.skip (k - 1)).delay

end Backoff

namespace Backoffs

variable {b : Backoffs} {key other : String} {n : Nat}

/-- What is known of a resource that has failed so many times in a row. -/
def Entry.of (first cap n : Nat) : Entry :=
  ⟨(Backoff.start first cap).skip n, min n (Word.limit32 - 1)⟩

theorem Entry.fail_of (first cap n : Nat) : (of first cap n).fail = of first cap (n + 1) := by
  have herrors : min (min n (Word.limit32 - 1) + 1) (Word.limit32 - 1) =
      min (n + 1) (Word.limit32 - 1) := by omega
  simp only [fail, of, Backoff.skip, herrors]

/-- The table holds so many failures in a row against a key. -/
def Holds (b : Backoffs) (key : String) (n : Nat) : Prop :=
  b.get? key = if n = 0 then none else some (Entry.of b.first b.cap n)

/-- One that has not failed is known like one that is not known. -/
theorem Holds.entry_eq (h : b.Holds key n) : b.entry key = Entry.of b.first b.cap n := by
  rw [entry, h]
  split
  · next hn =>
    subst hn
    rfl
  · rfl

theorem holds_forget (b : Backoffs) (key : String) : (b.forget key).Holds key 0 := by
  rw [Holds, get?_forget]
  rfl

theorem Holds.fail (h : b.Holds key n) : (b.fail key).Holds key (n + 1) := by
  rw [Holds, get?_fail, h.entry_eq, Entry.fail_of]
  rfl

/-- What the table tells of a key with so many failures in a row, where the delays run from `first`
to `cap`. -/
structure Tells (b : Backoffs) (key : String) (first cap n : Nat) : Prop where
  isSome_iff : (b.get? key).isSome ↔ 0 < n
  errors_eq : ∀ entry, b.get? key = some entry → entry.errors = min n (Word.limit32 - 1)
  pending_eq : b.pending key = (Backoff.start first cap).nth (n + 1)

theorem Holds.tells (h : b.Holds key n) : b.Tells key b.first b.cap n := by
  refine ⟨?_, fun entry he => ?_, ?_⟩
  · rw [h]
    split <;> simp <;> omega
  · rw [h] at he
    split at he
    · cases he
    · obtain rfl := Option.some.inj he
      rfl
  · rw [pending, h.entry_eq]
    rfl

end Backoffs

/-! ### What a call bears on the failures -/

/-- What a call does to the failures of its resource. -/
inductive Bearing where
  /-- It is one more failure. -/
  | fails
  /-- The resource is in order, and its failures are forgotten. -/
  | settles
  /-- They stay as they are. -/
  | neutral
  deriving DecidableEq, Repr

namespace Bearing

variable {key other : String} {b : Backoffs} {n : Nat}

/-- What an event bears whose cycle had this outcome, if it ran one that had any. -/
def ofOutcome : Option Cycle.Outcome → Bearing
  | none => neutral
  | some outcome => if outcome.next.isImmediate then fails else settles

/-- The failures in a row after so many. -/
def count : Bearing → Nat → Nat
  | fails, n => n + 1
  | settles, _ => 0
  | neutral, n => n

/-- The table afterwards. -/
def apply (key : String) (b : Backoffs) : Bearing → Backoffs
  | fails => b.fail key
  | settles => b.forget key
  | neutral => b

theorem limits_apply (bearing : Bearing) (key : String) (b : Backoffs) :
    (bearing.apply key b).first = b.first ∧ (bearing.apply key b).cap = b.cap := by
  cases bearing <;> exact ⟨rfl, rfl⟩

theorem get?_apply_of_ne (bearing : Bearing) (b : Backoffs) (h : other ≠ key) :
    (bearing.apply key b).get? other = b.get? other := by
  cases bearing with
  | fails => exact b.get?_fail_of_ne h
  | settles => exact b.get?_forget_of_ne h
  | neutral => rfl

theorem holds_apply (bearing : Bearing) (h : b.Holds key n) :
    (bearing.apply key b).Holds key (bearing.count n) := by
  cases bearing with
  | fails => exact h.fail
  | settles => exact b.holds_forget key
  | neutral => exact h

theorem holds_apply_of_ne (bearing : Bearing) (hne : other ≠ key) (h : b.Holds other n) :
    (bearing.apply key b).Holds other n := by
  obtain ⟨hfirst, hcap⟩ := bearing.limits_apply key b
  rw [Backoffs.Holds, bearing.get?_apply_of_ne b hne, hfirst, hcap, h]

end Bearing

namespace Event

variable {r : Resource} {now : Instant} {key : String}

/-- What asks for another cycle at once has to wait for the delay that is pending. -/
theorem answer_of_isImmediate {pending : Nat} {next : FollowUp} (h : next.isImmediate = true) :
    answer pending next = .after pending := by
  cases next with
  | onChange => cases h
  | after delay => rw [answer, if_pos (of_decide_eq_true h)]

theorem backoffs_settle (key : String) (o : Operator σ π)
    (played : Except Cycle.Stop Cycle.Outcome × World σ π) :
    (settle key o played).2.backoffs =
      (Bearing.ofOutcome played.1.toOption).apply key o.backoffs := by
  obtain ⟨result, w⟩ := played
  cases result with
  | error stop => rfl
  | ok outcome =>
      simp only [settle, follow, Except.toOption, Bearing.ofOutcome]
      cases outcome.next with
      | onChange => rfl
      | after delay => by_cases hd : delay = 0 <;> simp [FollowUp.isImmediate, hd] <;> rfl

variable [SecretStore σ] [RecordSink π]

/-- The outcome of the cycle that the event runs, if it runs one and that has an outcome. -/
def outcome? (r : Resource) (now : Instant) (o : Operator σ π) : Option Cycle.Outcome :=
  if r.spec.suspend then none
  else if (Trigger.classify r now).runs then
    (Cycle.run r.spec.policy r.record now (Trigger.classify r now = .manual) o.storeRetry
      o.toWorld).1.toOption
  else none

theorem outcome?_eq_bind (r : Resource) (now : Instant) (o : Operator σ π) :
    outcome? r now o = (course? r now).bind fun c =>
      (c.play r.spec.policy r.record now o.storeRetry o.toWorld).1.toOption := by
  unfold outcome? course?
  split
  · rfl
  · split
    · rw [Option.bind_some, Cycle.run_eq_play]
    · rfl

/-- **An event does to the table what the outcome of its cycle bears.** -/
theorem backoffs_handle (hk : r.key = .ok key) (now : Instant) (o : Operator σ π) :
    (handle r now o).2.backoffs = (Bearing.ofOutcome (outcome? r now o)).apply key o.backoffs := by
  rw [outcome?_eq_bind]
  cases hc : course? r now with
  | none =>
      obtain ⟨result, samples, he, -⟩ := handle_of_course?_eq_none hc o
      rw [he]
      rfl
  | some c =>
      rw [handle_of_course?_eq_some hk hc, backoffs_settle]
      rfl

/-- An event whose cycle has an outcome is answered by what follows it. -/
theorem handle_of_outcome? {o : Operator σ π} {outcome : Cycle.Outcome} (hk : r.key = .ok key)
    (h : outcome? r now o = some outcome) :
    (handle r now o).1 = .ok (answer (o.backoffs.pending key) outcome.next) := by
  rw [outcome?_eq_bind] at h
  obtain ⟨c, hc, hplay⟩ := Option.bind_eq_some_iff.1 h
  rw [handle_of_course?_eq_some hk hc]
  refine settle_fst_of_ok ?_
  generalize (c.play r.spec.policy r.record now o.storeRetry o.toWorld).1 = result at hplay
  cases result with
  | error stop => cases hplay
  | ok outcome' => exact congrArg Except.ok (Option.some.inj hplay)

omit [SecretStore σ] [RecordSink π] in
theorem retry_of_key (hk : r.key = .ok key) (o : Operator σ π) :
    (retry r o).1 = .after (o.backoffs.pending key) ∧
      (retry r o).2.backoffs = o.backoffs.fail key := by
  have hfailure : failureKey r = key := by
    unfold Resource.key at hk
    split at hk
    · cases hk
    · cases hk
    · next hname hscope =>
      rw [failureKey, hname, hscope]
      exact Except.ok.inj hk
  rw [retry, hfailure]
  exact ⟨rfl, rfl⟩

end Event

end CredentialRotation
