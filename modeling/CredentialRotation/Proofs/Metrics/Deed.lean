import CredentialRotation.Proofs.Life.Basic

/-!
# Proofs — Metrics — Deed

What a cycle did, in one word (`Cycle.Deed`), and what is counted for it.  Policy, record, clock,
random source and store settle the word; whether the record is kept has no part in it, since
everything that a cycle counts is counted before its record is handed over.

* `Cycle.samples_run`, `Cycle.writes_run`: a cycle counts, and asks of its store, what belongs to
  its deed.
* `Cycle.leaves_of_run`: the outcome of a cycle, if it has one, is one of its deed (`Deed.Leaves`).
* `Event.samples_of_runs`: an event that runs a cycle adds to that the reason why the resource is
  looked at again, if the cycle has an outcome.
-/

namespace CredentialRotation

variable {σ π : Type}

namespace Cycle

/-! ### Deeds -/

/-- What a cycle did. -/
inductive Deed where
  /-- It got stuck on its interval. -/
  | stuck
  /-- It refused its interval. -/
  | refused
  /-- It left the secret alone, which was not due. -/
  | waited
  /-- It came to no password. -/
  | undrawn
  /-- It came to a password that the store did not take. -/
  | unwritten
  /-- It rotated the secret. -/
  | rotated
  deriving DecidableEq, Repr

namespace Deed

/-- What is counted for the deed, where the store is of this kind. -/
def samples (kind : String) : Deed → List Sample
  | stuck | waited => []
  | refused => [.rotationFailure .configError]
  | undrawn => [.rotationFailure .generationError]
  | unwritten => [.storeWriteTime kind, .rotationFailure .storeError]
  | rotated => [.storeWriteTime kind, .rotation]

/-- What the store was asked for, and whether it took it. -/
def writes : Deed → List Bool
  | stuck | refused | waited | undrawn => []
  | unwritten => [false]
  | rotated => [true]

/-- The outcomes that the deed may have, after a record and with this delay after a store
failure. -/
inductive Leaves (before : Record) (storeRetry : Nat) : Deed → Outcome → Prop where
  | refused {left : Record} : Leaves before storeRetry .refused ⟨left, .onChange⟩
  | waited {wait : Nat} (h : 0 < wait) : Leaves before storeRetry .waited ⟨before, .after wait⟩
  | undrawn {left : Record} : Leaves before storeRetry .undrawn ⟨left, .after 0⟩
  | unwritten {left : Record} (h : left.phase = some .storeError) :
      Leaves before storeRetry .unwritten ⟨left, .after storeRetry⟩
  | rotated {left : Record} {interval : Nat} (h : left.phase = some .ready) (hpos : 0 < interval) :
      Leaves before storeRetry .rotated ⟨left, .after interval⟩

end Deed

/-- What an attempt does: a password is drawn, and written if that succeeds. -/
def attemptDeed [SecretStore σ] (policy : Policy) (w : World σ π) : Deed :=
  match (Password.draw (.standard policy.includeSymbols) policy.effectiveLength w.entropy).1 with
  | .error _ => .undrawn
  | .ok secret =>
    match (SecretStore.write w.store policy.storePath secret).1 with
    | .error _ => .unwritten
    | .ok _ => .rotated

/-- What a cycle does. -/
def deed [SecretStore σ] (policy : Policy) (record : Record) (now : Instant) (forced : Bool)
    (w : World σ π) : Deed :=
  match course policy record now forced with
  | .stuck => .stuck
  | .refused _ => .refused
  | .waits _ => .waited
  | .attempts _ => attemptDeed policy w

/-! ### What a cycle counts and what it leaves -/

/-- The end of a cycle counts nothing. -/
theorem samples_conclude [RecordSink π] (record : Record) (next : FollowUp) (w : World σ π) :
    (conclude record next w).2.samples = w.samples := by
  unfold conclude
  split <;> rfl

variable [SecretStore σ] {policy : Policy} {interval storeRetry : Nat} {record left : Record}
  {now : Instant} {next : FollowUp} {forced : Bool} {w w' : World σ π}

/-- Until its record is handed over, an attempt has counted what belongs to its deed. -/
theorem Ending.samples_eq (h : Ending policy interval storeRetry record now w left next w') :
    w'.samples = w.samples ++ (attemptDeed policy w).samples (SecretStore.kind w'.store) := by
  cases h with
  | undrawn hd =>
      rw [attemptDeed, hd]
      rfl
  | unwritten hd hw =>
      rw [attemptDeed, hd]
      dsimp only
      rw [hw]
      exact List.append_assoc _ _ _
  | rotated hd hw =>
      rw [attemptDeed, hd]
      dsimp only
      rw [hw]
      exact List.append_assoc _ _ _

/-- An attempt has an outcome of its deed. -/
theorem Ending.leaves (h : Ending policy interval storeRetry record now w left next w')
    (hpos : 0 < interval) : (attemptDeed policy w).Leaves record storeRetry ⟨left, next⟩ := by
  cases h with
  | undrawn hd =>
      rw [attemptDeed, hd]
      exact .undrawn
  | unwritten hd hw =>
      rw [attemptDeed, hd]
      dsimp only
      rw [hw]
      exact .unwritten rfl
  | rotated hd hw =>
      rw [attemptDeed, hd]
      dsimp only
      rw [hw]
      exact .rotated rfl hpos

/-- What an attempt asks of its store, it asks before its record is handed over. -/
theorem Ending.writes_eq {w w' : World (Ledger σ) π}
    (h : Ending policy interval storeRetry record now w left next w') :
    w'.store.writes = w.store.writes ++ (attemptDeed policy w).writes := by
  cases h with
  | undrawn hd =>
      rw [attemptDeed, hd]
      exact (List.append_nil _).symm
  | unwritten hd hw =>
      rw [attemptDeed, hd]
      dsimp only
      rw [hw]
      exact Ledger.writes_of_error hw
  | rotated hd hw =>
      rw [attemptDeed, hd]
      dsimp only
      rw [hw]
      exact Ledger.writes_of_ok hw

variable [RecordSink π]

/-- **A cycle counts what belongs to its deed**, whether its record is kept or not. -/
theorem samples_run (policy : Policy) (record : Record) (now : Instant) (forced : Bool)
    (storeRetry : Nat) (w : World σ π) :
    (run policy record now forced storeRetry w).2.samples = w.samples ++
      (deed policy record now forced w).samples
        (SecretStore.kind (run policy record now forced storeRetry w).2.store) := by
  rw [run_eq_play, deed]
  cases course policy record now forced with
  | stuck => exact (List.append_nil _).symm
  | waits wait => exact (List.append_nil _).symm
  | refused reason => exact samples_conclude _ _ _
  | attempts interval =>
      obtain ⟨left, next, w', hending, hattempt⟩ := attempt_eq_conclude policy interval storeRetry
        record now w
      rw [Course.play, hattempt, samples_conclude, store_conclude]
      exact hending.samples_eq

/-- **A cycle asks of its store what belongs to its deed.** -/
theorem writes_run (policy : Policy) (record : Record) (now : Instant) (forced : Bool)
    (storeRetry : Nat) (w : World (Ledger σ) π) :
    (run policy record now forced storeRetry w).2.store.writes =
      w.store.writes ++ (deed policy record now forced w).writes := by
  rw [run_eq_play, deed]
  cases course policy record now forced with
  | stuck => exact (List.append_nil _).symm
  | waits wait => exact (List.append_nil _).symm
  | refused reason =>
      rw [Course.play, store_conclude]
      exact (List.append_nil _).symm
  | attempts interval =>
      obtain ⟨left, next, w', hending, hattempt⟩ := attempt_eq_conclude policy interval storeRetry
        record now w
      rw [Course.play, hattempt, store_conclude]
      exact hending.writes_eq

/-- **The outcome of a cycle is one of its deed.** -/
theorem leaves_of_run {outcome : Outcome}
    (h : (run policy record now forced storeRetry w).1 = .ok outcome) :
    (deed policy record now forced w).Leaves record storeRetry outcome := by
  rw [run_eq_play] at h
  rw [deed]
  cases hc : course policy record now forced with
  | stuck =>
      rw [hc] at h
      cases h
  | waits wait =>
      obtain ⟨-, interval, -, hdue⟩ := course_eq_waits_iff.1 hc
      have hne : Due.decide interval record.rotatedAt now ≠ .rotateNow := by
        rw [hdue]
        exact nofun
      obtain ⟨last, -, hlt, hwait⟩ := Due.exists_waitFor_of_ne hne
      cases hdue.symm.trans hwait
      rw [hc] at h
      cases h
      exact .waited (Nat.sub_pos_of_lt hlt)
  | refused reason =>
      rw [hc] at h
      rw [eq_of_conclude_eq_ok h]
      exact .refused
  | attempts interval =>
      obtain ⟨left, next, w', hending, hattempt⟩ := attempt_eq_conclude policy interval storeRetry
        record now w
      rw [hc, Course.play, hattempt] at h
      rw [eq_of_conclude_eq_ok h]
      exact hending.leaves (Interval.pos_of_read_eq_span (course_eq_attempts_iff.1 hc).1)

omit [RecordSink π] in
theorem deed_eq_stuck_iff : deed policy record now forced w = .stuck ↔
    Interval.read policy.interval = .stuck := by
  have hcourse : course policy record now forced = .stuck ↔ _ := course_eq_stuck_iff
  rw [← hcourse, deed]
  cases course policy record now forced with
  | stuck => simp
  | waits wait => simp
  | refused reason => simp
  | attempts interval =>
      simp only [attemptDeed, reduceCtorEq, iff_false]
      split
      · exact nofun
      · split <;> exact nofun

omit [RecordSink π] in
theorem deed_eq_waited_iff : deed policy record now forced w = .waited ↔
    ∃ wait, course policy record now forced = .waits wait := by
  rw [deed]
  cases course policy record now forced with
  | stuck => simp
  | waits wait => simp
  | refused reason => simp
  | attempts interval =>
      simp only [attemptDeed, reduceCtorEq, exists_false, iff_false]
      split
      · exact nofun
      · split <;> exact nofun

end Cycle

namespace Event

/-! ### What an event counts -/

/-- Why a resource is looked at again after a cycle with this outcome. -/
def reason (outcome : Cycle.Outcome) : RequeueReason :=
  match outcome.next with
  | .onChange => .awaitChange
  | .after delay => if delay = 0 then .retryBackoff else laterReason outcome.record

theorem samples_follow (key : String) (outcome : Cycle.Outcome) (o : Operator σ π) :
    (follow key outcome o).2.samples = o.samples ++ [.requeue (reason outcome)] := by
  unfold follow reason
  cases outcome.next with
  | onChange => rfl
  | after delay =>
      dsimp only
      split <;> rfl

/-- What follows a cycle counts the reason that its outcome gives, if it has one. -/
theorem samples_settle (key : String) (o : Operator σ π)
    (played : Except Cycle.Stop Cycle.Outcome × World σ π) :
    (settle key o played).2.samples = played.2.samples ++
      (played.1.toOption.map fun outcome => .requeue (reason outcome)).toList := by
  obtain ⟨result, w⟩ := played
  cases result with
  | error stop => exact (List.append_nil _).symm
  | ok outcome => exact samples_follow key outcome { o with toWorld := w }

/-- An event that ran a cycle was not answered only if the cycle has no outcome. -/
theorem toOption_of_settle_eq_error {key : String} {o : Operator σ π} {stop : Stop}
    {played : Except Cycle.Stop Cycle.Outcome × World σ π}
    (h : (settle key o played).1 = .error stop) :
    played.1.toOption = none := by
  obtain ⟨result, w⟩ := played
  cases result with
  | error stop' => rfl
  | ok outcome => cases h

variable [SecretStore σ] [RecordSink π] {r : Resource} {now : Instant} {key : String}
  {o : Operator σ π} {next : FollowUp} {stop : Stop}

/-- What the cycle does that the event runs. -/
def deed (r : Resource) (now : Instant) (o : Operator σ π) : Cycle.Deed :=
  Cycle.deed r.spec.policy r.record now (Trigger.classify r now = .manual) o.toWorld

/-- What becomes of the cycle that the event runs. -/
def ran (r : Resource) (now : Instant) (o : Operator σ π) :
    Except Cycle.Stop Cycle.Outcome × World σ π :=
  Cycle.run r.spec.policy r.record now (Trigger.classify r now = .manual) o.storeRetry o.toWorld

theorem samples_ran (r : Resource) (now : Instant) (o : Operator σ π) :
    (ran r now o).2.samples =
      o.samples ++ (deed r now o).samples (SecretStore.kind (ran r now o).2.store) := by
  unfold ran deed
  exact Cycle.samples_run r.spec.policy r.record now _ o.storeRetry o.toWorld

theorem writes_ran (r : Resource) (now : Instant) (o : Operator (Ledger σ) π) :
    (ran r now o).2.store.writes = o.store.writes ++ (deed r now o).writes := by
  unfold ran deed
  exact Cycle.writes_run r.spec.policy r.record now _ o.storeRetry o.toWorld

theorem handle_of_runs (hk : r.key = .ok key) (hs : r.spec.suspend = false)
    (hr : (Trigger.classify r now).runs = true) (o : Operator σ π) :
    handle r now o = settle key o (ran r now o) := by
  rw [handle_of_course?_eq_some hk (course?_of_runs hs hr), ran, Cycle.run_eq_play]

/-- An event that runs no cycle is answered, and counts the reason why, and nothing else. -/
theorem handle_of_course?_eq_none_of_key (hk : r.key = .ok key) (hc : course? r now = none)
    (o : Operator σ π) : ∃ next reason, handle r now o = (.ok next, o.count (.requeue reason)) := by
  unfold handle
  rw [hk]
  dsimp only
  split
  · exact ⟨_, _, rfl⟩
  · next hs =>
    cases ht : Trigger.classify r now with
    | notDue wait => exact ⟨_, _, rfl⟩
    | idle => exact ⟨_, _, rfl⟩
    | specChanged | manual | due => simp [course?, hs, ht, Trigger.runs] at hc

/-- An event that is answered is on a resource with a name and a namespace. -/
theorem exists_key_of_answer (h : (handle r now o).1 = .ok next) : ∃ key, r.key = .ok key := by
  cases hk : r.key with
  | ok key => exact ⟨key, rfl⟩
  | error part =>
      rw [handle_of_missing hk] at h
      cases h

/-- **An event that runs a cycle** counts what belongs to the deed of the cycle, and then the reason
that the outcome gives, if there is one. -/
theorem samples_of_runs (hk : r.key = .ok key) (hs : r.spec.suspend = false)
    (hr : (Trigger.classify r now).runs = true) (o : Operator σ π) :
    (handle r now o).2.samples = o.samples ++
      ((deed r now o).samples (SecretStore.kind (handle r now o).2.store) ++
        ((ran r now o).1.toOption.map fun outcome => .requeue (reason outcome)).toList) := by
  rw [handle_of_runs hk hs hr o, samples_settle, (settle_snd key o (ran r now o)).1, samples_ran,
    List.append_assoc]

/-- If it is answered, there is an outcome of that deed. -/
theorem exists_outcome_of_answer (hs : r.spec.suspend = false)
    (hr : (Trigger.classify r now).runs = true) (h : (handle r now o).1 = .ok next) :
    ∃ outcome, (ran r now o).1.toOption = some outcome ∧
      (deed r now o).Leaves r.record o.storeRetry outcome := by
  obtain ⟨key, hk⟩ := exists_key_of_answer h
  rw [handle_of_runs hk hs hr o] at h
  obtain ⟨outcome, hran, -⟩ := exists_of_settle_eq_ok h
  refine ⟨outcome, by rw [hran]; rfl, ?_⟩
  unfold ran at hran
  exact Cycle.leaves_of_run hran

/-- If it is not answered, there is none. -/
theorem toOption_ran_of_stop (hk : r.key = .ok key) (hs : r.spec.suspend = false)
    (hr : (Trigger.classify r now).runs = true) (h : (handle r now o).1 = .error stop) :
    (ran r now o).1.toOption = none := by
  rw [handle_of_runs hk hs hr o] at h
  exact toOption_of_settle_eq_error h

/-- An event that runs a cycle asks of its store what belongs to the deed of the cycle. -/
theorem writes_of_runs {o : Operator (Ledger σ) π} (hk : r.key = .ok key)
    (hs : r.spec.suspend = false) (hr : (Trigger.classify r now).runs = true) :
    (handle r now o).2.store.writes = o.store.writes ++ (deed r now o).writes := by
  rw [handle_of_runs hk hs hr o, (settle_snd key o (ran r now o)).1, writes_ran]

end Event

end CredentialRotation
