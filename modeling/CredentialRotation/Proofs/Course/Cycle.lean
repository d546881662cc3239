import CredentialRotation.Cycle

/-!
# Proofs — Course — Cycle

A cycle in two stages.  Policy, record and clock alone settle its *course* (`Cycle.course`): it gets
stuck, it refuses the interval, it waits, or it comes to an *attempt*.  Only an attempt asks the
random source and the store for anything, and it has one of three endings (`Cycle.Ending`), each
with its record, its follow-up and the world in which the record is handed to the sink.

* `run_eq_play`: a cycle is its course, played.
* `attempt_eq_conclude`: an attempt has an ending, and hands exactly that record to the sink.
* `course_eq_attempts_iff`: a cycle comes to an attempt exactly if its interval can be read and it
  is forced or the interval is over.
-/

namespace CredentialRotation

namespace Due

/-- The interval is over, or the secret was never rotated. -/
theorem decide_eq_rotateNow_iff_forall {interval : Nat} {last : Option Instant} {now : Instant} :
    decide interval last now = rotateNow ↔ ∀ t, last = some t → interval ≤ now.elapsed t := by
  cases last with
  | none => exact ⟨fun _ _ h => (nomatch h), fun _ => rfl⟩
  | some last =>
      rw [decide_eq_rotateNow_iff]
      exact ⟨fun h _ ht => Option.some.inj ht ▸ h, fun h => h last rfl⟩

theorem exists_waitFor_of_ne {interval : Nat} {last : Option Instant} {now : Instant}
    (h : decide interval last now ≠ rotateNow) :
    ∃ t, last = some t ∧ now.elapsed t < interval ∧
      decide interval last now = waitFor (interval - now.elapsed t) := by
  cases last with
  | none => exact absurd rfl h
  | some last =>
      have hlt : now.elapsed last < interval :=
        Nat.lt_of_not_le fun hle => h (decide_eq_rotateNow_iff.2 hle)
      exact ⟨last, rfl, hlt, decide_eq_waitFor_iff.2 ⟨hlt, rfl⟩⟩

end Due

namespace Cycle

variable {σ π : Type}

/-! ### The course -/

/-- What a cycle comes to before anything is drawn. -/
inductive Course where
  /-- Reading the interval gets stuck. -/
  | stuck
  /-- The interval is none, for this reason. -/
  | refused (reason : Interval.Refusal)
  /-- The secret is not due for so many nanoseconds. -/
  | waits (wait : Nat)
  /-- A password is drawn, for a secret that is rotated at this interval. -/
  | attempts (interval : Nat)
  deriving DecidableEq, Repr

/-- The course of a cycle. -/
def course (policy : Policy) (record : Record) (now : Instant) (forced : Bool) : Course :=
  match Interval.read policy.interval with
  | .stuck => .stuck
  | .refused reason => .refused reason
  | .span interval =>
    match Due.decide interval record.rotatedAt now, forced with
    | .waitFor wait, false => .waits wait
    | _, _ => .attempts interval

/-- The cycle of a course. -/
def Course.play [SecretStore σ] [RecordSink π] (policy : Policy) (record : Record) (now : Instant)
    (storeRetry : Nat) (w : World σ π) : Course → Except Stop Outcome × World σ π
  | .stuck => (.error .stuck, w)
  | .refused reason =>
    conclude (record.failed .configError (intervalMessage policy.interval reason)) .onChange
      (w.count (.rotationFailure .configError))
  | .waits wait => (.ok ⟨record, .after wait⟩, w)
  | .attempts interval => attempt policy interval storeRetry record now w

/-- **A cycle is its course, played.** -/
theorem run_eq_play [SecretStore σ] [RecordSink π] (policy : Policy) (record : Record)
    (now : Instant) (forced : Bool) (storeRetry : Nat) (w : World σ π) :
    run policy record now forced storeRetry w =
      (course policy record now forced).play policy record now storeRetry w := by
  unfold run course
  cases Interval.read policy.interval with
  | stuck => rfl
  | refused reason => rfl
  | span interval =>
      dsimp only
      cases Due.decide interval record.rotatedAt now <;> cases forced <;> rfl

theorem course_eq_attempts_iff {policy : Policy} {record : Record} {now : Instant} {forced : Bool}
    {interval : Nat} :
    course policy record now forced = .attempts interval ↔
      Interval.read policy.interval = .span interval ∧
        (forced = true ∨ Due.decide interval record.rotatedAt now = .rotateNow) := by
  unfold course
  cases Interval.read policy.interval with
  | stuck => simp
  | refused reason => simp
  | span interval' =>
      dsimp only
      cases hd : Due.decide interval' record.rotatedAt now with
      | rotateNow =>
          simp only [Course.attempts.injEq, Interval.Reading.span.injEq]
          constructor
          · rintro rfl
            exact ⟨rfl, .inr hd⟩
          · exact fun h => h.1
      | waitFor wait =>
          cases forced with
          | true => simp
          | false =>
              simp only [reduceCtorEq, Interval.Reading.span.injEq, Bool.false_eq_true, false_or,
                false_iff, not_and]
              rintro rfl
              rw [hd]
              exact fun h => nomatch h

theorem course_eq_waits_iff {policy : Policy} {record : Record} {now : Instant} {forced : Bool}
    {wait : Nat} :
    course policy record now forced = .waits wait ↔
      forced = false ∧ ∃ interval, Interval.read policy.interval = .span interval ∧
        Due.decide interval record.rotatedAt now = .waitFor wait := by
  unfold course
  cases Interval.read policy.interval with
  | stuck => simp
  | refused reason => simp
  | span interval =>
      simp only [Interval.Reading.span.injEq, exists_eq_left']
      cases Due.decide interval record.rotatedAt now <;> cases forced <;> simp

theorem course_eq_refused_iff {policy : Policy} {record : Record} {now : Instant} {forced : Bool}
    {reason : Interval.Refusal} :
    course policy record now forced = .refused reason ↔
      Interval.read policy.interval = .refused reason := by
  unfold course
  cases Interval.read policy.interval with
  | stuck => simp
  | refused reason' => simp
  | span interval =>
      dsimp only
      cases Due.decide interval record.rotatedAt now <;> cases forced <;> simp

theorem course_eq_stuck_iff {policy : Policy} {record : Record} {now : Instant} {forced : Bool} :
    course policy record now forced = .stuck ↔ Interval.read policy.interval = .stuck := by
  unfold course
  cases Interval.read policy.interval with
  | stuck => simp
  | refused reason => simp
  | span interval =>
      dsimp only
      cases Due.decide interval record.rotatedAt now <;> cases forced <;> simp

/-! ### The endings of an attempt -/

/-- A cycle that was concluded has the outcome that it was concluded with. -/
theorem eq_of_conclude_eq_ok [RecordSink π] {record : Record} {next : FollowUp} {w : World σ π}
    {outcome : Outcome} (h : (conclude record next w).1 = .ok outcome) :
    outcome = ⟨record, next⟩ := by
  unfold conclude at h
  split at h
  · exact (Except.ok.inj h).symm
  · cases h

/-- The end of a cycle leaves the store alone. -/
theorem store_conclude [RecordSink π] (record : Record) (next : FollowUp) (w : World σ π) :
    (conclude record next w).2.store = w.store := by
  unfold conclude
  split <;> rfl

/-- An attempt ends with this record and this follow-up, and hands the record to the sink in this
world. -/
inductive Ending [SecretStore σ] (policy : Policy) (interval storeRetry : Nat) (record : Record)
    (now : Instant) (w : World σ π) : Record → FollowUp → World σ π → Prop where
  /-- No password was drawn, and the store was not asked. -/
  | undrawn {reason : Password.Failure} {entropy : Entropy}
      (hd : Password.draw (.standard policy.includeSymbols) policy.effectiveLength w.entropy =
        (.error reason, entropy)) :
      Ending policy interval storeRetry record now w
        (record.failed .generationError (drawMessage reason)) (.after 0)
        (World.count { w with entropy := entropy } (.rotationFailure .generationError))
  /-- The store did not take the password. -/
  | unwritten {secret : Secret} {entropy : Entropy} {reason : StoreError} {store : σ}
      (hd : Password.draw (.standard policy.includeSymbols) policy.effectiveLength w.entropy =
        (.ok secret, entropy))
      (hw : SecretStore.write w.store policy.storePath secret = (.error reason, store)) :
      Ending policy interval storeRetry record now w
        (record.failed .storeError (writeMessage policy.storePath reason)) (.after storeRetry)
        ((World.count { w with entropy := entropy, store := store }
          (.storeWriteTime (SecretStore.kind store))).count (.rotationFailure .storeError))
  /-- The store took the password. -/
  | rotated {secret : Secret} {entropy : Entropy} {store : σ}
      (hd : Password.draw (.standard policy.includeSymbols) policy.effectiveLength w.entropy =
        (.ok secret, entropy))
      (hw : SecretStore.write w.store policy.storePath secret = (.ok (), store)) :
      Ending policy interval storeRetry record now w
        (.rotated now (rotatedMessage policy.storePath)) (.after interval)
        ((World.count { w with entropy := entropy, store := store }
          (.storeWriteTime (SecretStore.kind store))).count .rotation)

/-- **An attempt has an ending**, and its record is what the sink is handed, once. -/
theorem attempt_eq_conclude [SecretStore σ] [RecordSink π] (policy : Policy)
    (interval storeRetry : Nat) (record : Record) (now : Instant) (w : World σ π) :
    ∃ left next w', Ending policy interval storeRetry record now w left next w' ∧
      attempt policy interval storeRetry record now w = conclude left next w' := by
  rcases hd : Password.draw (.standard policy.includeSymbols) policy.effectiveLength w.entropy with
    ⟨drawn, entropy⟩
  cases drawn with
  | error reason =>
      refine ⟨_, _, _, .undrawn hd, ?_⟩
      simp only [attempt, hd]
  | ok secret =>
      rcases hw : SecretStore.write w.store policy.storePath secret with ⟨written, store⟩
      cases written with
      | error reason =>
          refine ⟨_, _, _, .unwritten hd hw, ?_⟩
          simp only [attempt, write, hd, hw]
      | ok _ =>
          refine ⟨_, _, _, .rotated hd hw, ?_⟩
          simp only [attempt, write, hd, hw]

namespace Ending

variable [SecretStore σ] {policy : Policy} {interval storeRetry : Nat} {record left : Record}
  {now : Instant} {next : FollowUp} {w w' : World σ π}

/-- Until its record is handed over, an attempt leaves the sink alone. -/
theorem sink_eq (h : Ending policy interval storeRetry record now w left next w') :
    w'.sink = w.sink := by
  cases h <;> rfl

/-- An attempt that failed leaves the time of the last rotation as it was. -/
theorem rotatedAt_eq (h : Ending policy interval storeRetry record now w left next w')
    (hp : left.phase ≠ some .ready) : left.rotatedAt = record.rotatedAt := by
  cases h with
  | undrawn _ => rfl
  | unwritten _ _ => rfl
  | rotated _ _ => exact absurd rfl hp

end Ending

end Cycle

end CredentialRotation
