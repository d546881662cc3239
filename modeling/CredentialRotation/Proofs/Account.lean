import CredentialRotation.Proofs.Course.Kept

/-!
# Proofs — Account

A run of cycles leaves its traces in three places: the record that is carried from one cycle to the
next, the journal of the records that were kept, and the store.  They change at different points of
a cycle, and where the journal refuses a record the store is ahead of the other two.  Between cycles
the behaviour of the store and of the journal may change, and so may the random source; every cycle
has its own policy and clock.

An `Entry` is a cycle with the record and the world that it met.  What it did is read off the
outside: it *wrote* if the store counts more successes than before, and its record was *kept* if the
journal is longer.

* `Entry.ends`: the three ways in which a cycle leaves record, journal and store.
* `balanced_through`: whatever happens, the three agree.  The time recorded is that of the last
  cycle that wrote and whose record was kept; the journal holds what the cycles left, in order; and
  its records that say that the secret was rotated are as many as the successful writes, less those
  whose record was refused.
-/

namespace CredentialRotation

/-- A record, and the world in which the next cycle meets it. -/
structure Account where
  record : Record
  world : World MemoryStore Journal

namespace Account

/-- Every record kept so far, the oldest first. -/
def history (a : Account) : List Record := a.world.sink.records

/-- The number of successful writes so far. -/
def successes (a : Account) : Nat := a.world.store.successes

/-- How many of the records kept so far say that the secret was rotated. -/
def ready (a : Account) : Nat := a.history.countP fun record => record.phase = some .ready

/-- What one cycle is run with. -/
structure Terms where
  policy : Policy
  now : Instant
  /-- The cycle does not wait for the interval to be over. -/
  forced : Bool
  /-- The delay after a store failure. -/
  storeRetry : Nat

/-- What may happen next. -/
inductive Move where
  /-- A cycle is run. -/
  | cycle (terms : Terms)
  /-- The store is told how to behave from now on. -/
  | store (behavior : StoreBehavior)
  /-- The journal is told to fail from now on, or to take records again. -/
  | journal (failure : Option String)
  /-- The random source is another one from now on. -/
  | entropy (entropy : Entropy)

/-- A cycle, with the record and the world that it met. -/
structure Entry extends Account, Terms

namespace Entry

/-- What became of the cycle, and of the world. -/
def ran (e : Entry) : Except Cycle.Stop Cycle.Outcome × World MemoryStore Journal :=
  Cycle.run e.policy e.record e.now e.forced e.storeRetry e.world

/-- The record that the cycle left, if it had an outcome. -/
def left? (e : Entry) : Option Record := e.ran.1.toOption.map (·.record)

/-- How it goes on: the record that the cycle left is carried forward, or else the one before it. -/
def after (e : Entry) : Account := ⟨e.left?.getD e.record, e.ran.2⟩

/-- The secret was not due, and nothing was done. -/
def waited (e : Entry) : Bool :=
  match Cycle.course e.policy e.record e.now e.forced with
  | .waits _ => true
  | _ => false

/-- The store took a password. -/
def wrote (e : Entry) : Bool := e.successes < e.after.successes

/-- The journal took a record. -/
def kept (e : Entry) : Bool := e.history.length < e.after.history.length

/-- The cycle has no outcome because its record was not kept. -/
def unrecorded (e : Entry) : Bool :=
  match e.ran.1 with
  | .error (.unrecorded _) => true
  | _ => false

variable (e : Entry)

/-! ### How a cycle ends -/

/-- What the record that a cycle comes to says of it. -/
structure Tells (record : Record) : Prop where
  /-- It says that the secret was rotated exactly if the store took a password. -/
  phase : decide (record.phase = some .ready) = e.wrote
  rotatedAt : record.rotatedAt = if e.wrote then some e.now else e.record.rotatedAt
  successes : e.after.successes = e.successes + e.wrote.toNat

/-- How a cycle ends. -/
inductive Ends : Prop where
  /-- No record is handed over: the secret is not due, or reading its interval got stuck. -/
  | idle (hleft : e.left? = if e.waited then some e.record else none)
      (hresult : e.unrecorded = false) (hworld : e.after.world = e.world)
  /-- The record is kept. -/
  | kept {record : Record} (htells : e.Tells record) (hwaited : e.waited = false)
      (hleft : e.left? = some record) (hresult : e.unrecorded = false)
      (hhistory : e.after.history = e.history ++ [record])
  /-- The journal refuses the record. -/
  | refused {record : Record} (htells : e.Tells record) (hwaited : e.waited = false)
      (hleft : e.left? = none) (hresult : e.unrecorded = true)
      (hhistory : e.after.history = e.history)

theorem tells_failed {phase : Phase} {message : String} (hphase : phase ≠ .ready)
    (hstore : e.after.successes = e.successes) : e.Tells (e.record.failed phase message) := by
  have hwrote : e.wrote = false := by
    rw [wrote, hstore]
    exact decide_eq_false (Nat.lt_irrefl _)
  refine ⟨?_, ?_, ?_⟩
  · rw [hwrote]
    exact decide_eq_false fun h => hphase (Option.some.inj h)
  · rw [hwrote]
    rfl
  · rw [hwrote]
    exact hstore

theorem tells_rotated {message : String} (hstore : e.after.successes = e.successes + 1) :
    e.Tells (.rotated e.now message) := by
  have hwrote : e.wrote = true := by
    rw [wrote, hstore]
    exact decide_eq_true (Nat.lt_succ_self _)
  refine ⟨?_, ?_, ?_⟩
  · rw [hwrote]
    rfl
  · rw [hwrote]
    rfl
  · rw [hwrote]
    exact hstore

variable {e}

/-- What an attempt comes to tells whether the store took its password. -/
theorem tells_of_ending {interval : Nat} {record : Record} {next : FollowUp}
    {w : World MemoryStore Journal}
    (h : Cycle.Ending e.policy interval e.storeRetry e.record e.now e.world record next w)
    (hstore : e.after.world.store = w.store) : e.Tells record := by
  have hsuccesses : e.after.successes = w.store.successes := congrArg MemoryStore.successes hstore
  cases h with
  | undrawn _ => exact e.tells_failed (by decide) hsuccesses
  | unwritten _ hw =>
      exact e.tells_failed (by decide) (hsuccesses.trans (MemoryStore.successes_of_error hw))
  | rotated _ hw => exact e.tells_rotated (hsuccesses.trans (MemoryStore.successes_of_ok hw))

/-- A record that is handed over is kept or refused. -/
theorem ends_of_conclude {record : Record} {next : FollowUp} {w : World MemoryStore Journal}
    (hran : e.ran = Cycle.conclude record next w) (hsink : w.sink = e.world.sink)
    (hwaited : e.waited = false) (htells : e.after.world.store = w.store → e.Tells record) :
    e.Ends := by
  have htells := htells (by rw [after, hran, Cycle.store_conclude])
  rcases w.sink.put_cases record with hput | ⟨reason, hput⟩
  · rw [Cycle.conclude, hput, hsink] at hran
    refine .kept htells hwaited ?_ ?_ ?_
    · rw [left?, hran]
      rfl
    · rw [unrecorded, hran]
    · rw [history, after, hran]
      rfl
  · rw [Cycle.conclude, hput, hsink] at hran
    refine .refused htells hwaited ?_ ?_ ?_
    · rw [left?, hran]
      rfl
    · rw [unrecorded, hran]
    · rw [history, after, hran]
      rfl

variable (e)

/-- **A cycle hands over no record, or one that the journal keeps, or one that it refuses.** -/
theorem ends : e.Ends := by
  have hplay : e.ran = _ := Cycle.run_eq_play e.policy e.record e.now e.forced e.storeRetry e.world
  cases hc : Cycle.course e.policy e.record e.now e.forced with
  | stuck =>
      rw [hc, Cycle.Course.play] at hplay
      have hwaited : e.waited = false := by rw [waited, hc]
      refine .idle ?_ ?_ ?_
      · rw [left?, hplay, hwaited]
        rfl
      · rw [unrecorded, hplay]
      · rw [after, hplay]
  | waits wait =>
      rw [hc, Cycle.Course.play] at hplay
      have hwaited : e.waited = true := by rw [waited, hc]
      refine .idle ?_ ?_ ?_
      · rw [left?, hplay, hwaited]
        rfl
      · rw [unrecorded, hplay]
      · rw [after, hplay]
  | refused reason =>
      rw [hc] at hplay
      exact ends_of_conclude hplay rfl (by rw [waited, hc]) fun hstore =>
        e.tells_failed (by decide) (congrArg MemoryStore.successes hstore)
  | attempts interval =>
      obtain ⟨record, next, w, hending, hattempt⟩ := Cycle.attempt_eq_conclude e.policy interval
        e.storeRetry e.record e.now e.world
      rw [hc, Cycle.Course.play, hattempt] at hplay
      exact ends_of_conclude hplay hending.sink_eq (by rw [waited, hc]) (tells_of_ending hending)

/-! ### What a cycle changes -/

/-- The time recorded moves exactly if the store took a password and the journal the record. -/
theorem rotatedAt_after :
    e.after.record.rotatedAt = if e.wrote && e.kept then some e.now else e.record.rotatedAt := by
  have hcarried : e.after.record = e.left?.getD e.record := by rw [after]
  cases e.ends with
  | idle hleft _ hworld =>
      have hwrote : e.wrote = false := by
        rw [wrote, successes, successes, hworld]
        exact decide_eq_false (Nat.lt_irrefl _)
      rw [hcarried, hleft, hwrote]
      cases e.waited <;> rfl
  | kept htells _ hleft _ hhistory =>
      have hkept : e.kept = true := by
        rw [kept, hhistory, List.length_append]
        exact decide_eq_true (Nat.lt_succ_self _)
      rw [hcarried, hleft, hkept, Bool.and_true]
      exact htells.rotatedAt
  | refused _ _ hleft _ hhistory =>
      have hkept : e.kept = false := by
        rw [kept, hhistory]
        exact decide_eq_false (Nat.lt_irrefl _)
      rw [hcarried, hleft, hkept, Bool.and_false]
      rfl

/-- The journal gets the record that the cycle left, unless that is one it has already. -/
theorem history_after :
    e.after.history = e.history ++ if e.waited then [] else e.left?.toList := by
  cases e.ends with
  | idle hleft _ hworld =>
      rw [history, hworld, hleft]
      cases e.waited <;> exact (List.append_nil _).symm
  | kept _ hwaited hleft _ hhistory =>
      rw [hhistory, hwaited, hleft]
      rfl
  | refused _ hwaited hleft _ hhistory =>
      rw [hhistory, hwaited, hleft]
      exact (List.append_nil _).symm

/-- A successful write is in the journal, or its record was refused. -/
theorem ready_after :
    e.after.ready + (e.wrote && e.unrecorded).toNat + e.successes =
      e.after.successes + e.ready := by
  cases e.ends with
  | idle _ hresult hworld =>
      rw [ready, ready, history, history, successes, successes, hworld, hresult, Bool.and_false]
      exact Nat.add_comm _ _
  | kept htells _ _ hresult hhistory =>
      rw [ready, hhistory, List.countP_append, List.countP_singleton, htells.phase,
        htells.successes, hresult, Bool.and_false, Bool.toNat_false, ← Bool.cond_eq_ite, ready]
      change _ + e.wrote.toNat + 0 + _ = _
      omega
  | refused htells _ _ hresult hhistory =>
      rw [ready, hhistory, htells.successes, hresult, Bool.and_true, ready]
      omega

end Entry

/-! ### Runs -/

/-- The account after one more move. -/
def step (a : Account) : Move → Account
  | .cycle terms => (Entry.mk a terms).after
  | .store behavior => { a with world.store.behavior := behavior }
  | .journal failure => { a with world.sink.failure := failure }
  | .entropy entropy => { a with world.entropy := entropy }

/-- The account after these moves. -/
def through (a : Account) (moves : List Move) : Account := moves.foldl step a

/-- The cycles among these moves, each with what it met. -/
def entries (a : Account) : List Move → List Entry
  | [] => []
  | .cycle terms :: moves => ⟨a, terms⟩ :: (Entry.mk a terms).after.entries moves
  | .store behavior :: moves => (a.step (.store behavior)).entries moves
  | .journal failure :: moves => (a.step (.journal failure)).entries moves
  | .entropy entropy :: moves => (a.step (.entropy entropy)).entries moves

/-- Record, journal and store agree on what these cycles did between one account and another. -/
structure Balanced (a : Account) (entries : List Entry) (b : Account) : Prop where
  /-- The time recorded is that of the last cycle that wrote and whose record was kept, and without
  such a cycle it is as it was. -/
  rotatedAt : b.record.rotatedAt =
    ((entries.filter fun e => e.wrote && e.kept).getLast?.map (·.now)).or a.record.rotatedAt
  /-- The journal has the records of the cycles that had an outcome and were not plain waits. -/
  history : b.history = a.history ++ (entries.filter fun e => !e.waited).filterMap (·.left?)
  /-- The records that say that the secret was rotated, and the writes whose record was refused, are
  the successful writes. -/
  ready : b.ready + entries.countP (fun e => e.wrote && e.unrecorded) + a.successes =
    b.successes + a.ready

/-- One more cycle in front. -/
theorem Balanced.cons {e : Entry} {entries : List Entry} {b : Account}
    (h : Balanced e.after entries b) : Balanced e.toAccount (e :: entries) b := by
  refine ⟨?_, ?_, ?_⟩
  · rw [h.rotatedAt, e.rotatedAt_after, List.filter_cons]
    split
    · rw [List.getLast?_cons]
      cases (entries.filter fun e => e.wrote && e.kept).getLast? <;> rfl
    · rfl
  · rw [h.history, e.history_after, List.filter_cons, List.append_assoc]
    cases e.waited
    · cases hleft : e.left? <;> simp [hleft]
    · rfl
  · have hready := e.ready_after
    have htail := h.ready
    rw [List.countP_cons, ← Bool.cond_eq_ite]
    change _ + (_ + (e.wrote && e.unrecorded).toNat) + _ = _
    omega

/-- **Record, journal and store agree after any run of cycles.**  The record never claims a rotation
that did not happen. -/
theorem balanced_through (a : Account) (moves : List Move) :
    Balanced a (a.entries moves) (a.through moves) := by
  induction moves generalizing a with
  | nil => exact ⟨rfl, (List.append_nil _).symm, Nat.add_comm _ _⟩
  | cons move moves ih =>
      cases move with
      | cycle terms =>
          have htail := ih (Entry.mk a terms).after
          rw [entries, through, List.foldl_cons, step]
          exact htail.cons
      -- Between cycles nothing changes that an account is balanced over.
      | store behavior => exact { ih (a.step (.store behavior)) with }
      | journal failure => exact { ih (a.step (.journal failure)) with }
      | entropy entropy => exact { ih (a.step (.entropy entropy)) with }

-- at eight a rotation is kept, at nine one is refused, and a minute later the store is down: the
-- journal says nothing of nine o'clock, although the store has the password of then
example :
    let attempt (millis : Nat) : Move :=
      .cycle ⟨Specimen.unrotated.spec.policy, Specimen.clock millis, false, 30000000000⟩
    let start : Account :=
      ⟨.blank, ⟨⟨List.replicate 48 (.ok ⟨0, Word.limit32_pos⟩), "exhausted"⟩, .blank .succeed,
        .blank, []⟩⟩
    let moves := [attempt 0, .journal (some "conflict"), attempt 3600000, .journal none,
      .store (.fail "down"), attempt 3660000]
    (start.entries moves).map (fun e => (e.wrote, e.kept, e.unrecorded)) =
        [(true, true, false), (true, false, true), (false, true, false)] ∧
      (start.through moves).record = Specimen.unwritten (some (Specimen.clock 0)) ∧
      (start.through moves).history.length = 2 ∧ (start.through moves).ready = 1 ∧
      (start.through moves).successes = 2 := by
  decide +kernel

end Account

end CredentialRotation
