import CredentialRotation.Proofs.Course.Kept
import CredentialRotation.Proofs.Interval.Stuck
import CredentialRotation.Store.Memory

/-!
# Proofs — Decision

A cycle as a table.  Policy, record, clock, random source and store settle which of five rows a
cycle comes to (`Row.Applies`): the interval is refused, the secret is not due, no password is
drawn, the store does not take it, or the store does.  Each row has its outcome, and an effect on
random source, store and journal (`Row.Follows`).

**Main statement** (`run_follows_table`).  Unless its interval cuts a digit, a cycle comes to
exactly one row, and does what that row says.  If it cuts one, the cycle comes to no row, and does
nothing.
-/

namespace CredentialRotation.Cycle

/-! ### The table -/

/-- What a cycle comes to. -/
inductive Row where
  /-- The interval is none, for this reason. -/
  | refused (reason : Interval.Refusal)
  /-- The secret is not due for so many nanoseconds. -/
  | waits (wait : Nat)
  /-- No password was drawn. -/
  | undrawn (reason : Password.Failure)
  /-- The store did not take the password. -/
  | unwritten (reason : StoreError)
  /-- The store took this password, of a secret that is rotated at this interval. -/
  | rotated (interval : Nat) (secret : Secret)

/-- The interval can be read, and the cycle does not wait for it to be over. -/
def GoesAhead (policy : Policy) (record : Record) (now : Instant) (forced : Bool) (interval : Nat) :
    Prop :=
  Interval.read policy.interval = .span interval ∧
    (forced = true ∨ Due.decide interval record.rotatedAt now = .rotateNow)

/-- What the random source gives for the policy, and what is left of it. -/
def drawn (policy : Policy) (source : Entropy) : Except Password.Failure Secret × Entropy :=
  Password.draw (.standard policy.includeSymbols) policy.effectiveLength source

namespace Row

/-- When a cycle comes to the row. -/
inductive Applies (policy : Policy) (record : Record) (now : Instant) (forced : Bool)
    (w : World MemoryStore Journal) : Row → Prop where
  | refused {reason : Interval.Refusal} (hread : Interval.read policy.interval = .refused reason) :
      Applies policy record now forced w (.refused reason)
  | waits {interval wait : Nat} (hread : Interval.read policy.interval = .span interval)
      (hforced : forced = false) (hdue : Due.decide interval record.rotatedAt now = .waitFor wait) :
      Applies policy record now forced w (.waits wait)
  | undrawn {interval : Nat} {reason : Password.Failure}
      (hahead : GoesAhead policy record now forced interval)
      (hdraw : (drawn policy w.entropy).1 = .error reason) :
      Applies policy record now forced w (.undrawn reason)
  | unwritten {interval : Nat} {secret : Secret} {reason : StoreError}
      (hahead : GoesAhead policy record now forced interval)
      (hdraw : (drawn policy w.entropy).1 = .ok secret)
      (hwrite : (w.store.write policy.storePath secret).1 = .error reason) :
      Applies policy record now forced w (.unwritten reason)
  | rotated {interval : Nat} {secret : Secret}
      (hahead : GoesAhead policy record now forced interval)
      (hdraw : (drawn policy w.entropy).1 = .ok secret)
      (hwrite : (w.store.write policy.storePath secret).1 = .ok ()) :
      Applies policy record now forced w (.rotated interval secret)

/-- The record of the row. -/
def record (policy : Policy) (before : Record) (now : Instant) : Row → Record
  | refused reason =>
    ⟨before.rotatedAt, some .configError, some (intervalMessage policy.interval reason)⟩
  | waits _ => before
  | undrawn reason => ⟨before.rotatedAt, some .generationError, some (drawMessage reason)⟩
  | unwritten reason =>
    ⟨before.rotatedAt, some .storeError, some (writeMessage policy.storePath reason)⟩
  | rotated _ _ => ⟨some now, some .ready, some (rotatedMessage policy.storePath)⟩

/-- What follows the row. -/
def next (storeRetry : Nat) : Row → FollowUp
  | refused _ => .onChange
  | waits wait => .after wait
  | undrawn _ => .after 0
  | unwritten _ => .after storeRetry
  | rotated interval _ => .after interval

/-- The record is the one before, and is not handed over again. -/
def isWait : Row → Bool
  | waits _ => true
  | refused _ | undrawn _ | unwritten _ | rotated _ _ => false

/-- The random source is asked. -/
def draws : Row → Bool
  | undrawn _ | unwritten _ | rotated _ _ => true
  | refused _ | waits _ => false

/-- The store is asked. -/
def writes : Row → Bool
  | unwritten _ | rotated _ _ => true
  | refused _ | waits _ | undrawn _ => false

/-- The password that the store took. -/
def secret? : Row → Option Secret
  | rotated _ secret => some secret
  | refused _ | waits _ | undrawn _ | unwritten _ => none

/-- What a cycle of the row does to the random source and to the store. -/
structure Effects (row : Row) (policy : Policy) (w w' : World MemoryStore Journal) : Prop where
  /-- The store shows the password that it took at the path of the policy, and nothing else is
  new. -/
  values : ∀ path, w'.store.value? path =
    if path = policy.storePath then (row.secret?.map (·.value)).or (w.store.value? path)
    else w.store.value? path
  attempts : w'.store.attempts = w.store.attempts + row.writes.toNat
  entropy : w'.entropy = if row.draws then (drawn policy w.entropy).2 else w.entropy
  /-- The password has the length of the policy, in the characters that it selects. -/
  spelled : ∀ secret, row.secret? = some secret →
    secret.value.length = policy.effectiveLength ∧
      ∀ c ∈ secret.value.toList, (Alphabet.standard policy.includeSymbols).contains c = true

/-- What a cycle of the row does. -/
structure Follows (row : Row) (policy : Policy) (before : Record) (now : Instant) (storeRetry : Nat)
    (w : World MemoryStore Journal) (ran : Except Stop Outcome × World MemoryStore Journal) :
    Prop where
  /-- A wait has its outcome, and changes nothing. -/
  waited : row.isWait = true → ran = (.ok ⟨before, row.next storeRetry⟩, w)
  /-- The record of any other row is kept, once, and is that of the outcome. -/
  kept : row.isWait = false → w.sink.failure = none →
    ran.1 = .ok ⟨row.record policy before now, row.next storeRetry⟩ ∧
      ran.2.sink = ⟨w.sink.records ++ [row.record policy before now], none⟩
  /-- If the journal fails, there is no outcome, and the journal stays as it was. -/
  unkept : ∀ reason, row.isWait = false → w.sink.failure = some reason →
    ran.1 = .error (.unrecorded (.root ("status update rejected: " ++ reason))) ∧
      ran.2.sink = w.sink
  /-- The time of the last rotation moves only if the store took a password. -/
  rotatedAt : row.secret? = none → (row.record policy before now).rotatedAt = before.rotatedAt
  effects : row.Effects policy w ran.2
  /-- A length that is too long draws nothing. -/
  unasked : Password.maxLength < policy.effectiveLength → ran.2.entropy = w.entropy

end Row

/-! ### Exactly one row -/

variable {policy : Policy} {record : Record} {now : Instant} {forced : Bool} {storeRetry : Nat}
  {w : World MemoryStore Journal} {row : Row}

/-- The row that a cycle comes to, if its interval can be read at all. -/
def row? (policy : Policy) (record : Record) (now : Instant) (forced : Bool)
    (w : World MemoryStore Journal) : Option Row :=
  match course policy record now forced with
  | .stuck => none
  | .refused reason => some (.refused reason)
  | .waits wait => some (.waits wait)
  | .attempts interval =>
    match (drawn policy w.entropy).1 with
    | .error reason => some (.undrawn reason)
    | .ok secret =>
      match (w.store.write policy.storePath secret).1 with
      | .error reason => some (.unwritten reason)
      | .ok _ => some (.rotated interval secret)

theorem Row.Applies.row?_eq (h : row.Applies policy record now forced w) :
    row? policy record now forced w = some row := by
  cases h with
  | refused hread => rw [row?, course_eq_refused_iff.2 hread]
  | waits hread hforced hdue => rw [row?, course_eq_waits_iff.2 ⟨hforced, _, hread, hdue⟩]
  | undrawn hahead hdraw => simp only [row?, course_eq_attempts_iff.2 hahead, hdraw]
  | unwritten hahead hdraw hwrite =>
      simp only [row?, course_eq_attempts_iff.2 hahead, hdraw, hwrite]
  | rotated hahead hdraw hwrite =>
      simp only [row?, course_eq_attempts_iff.2 hahead, hdraw, hwrite]

/-- Rows exclude one another. -/
theorem Row.Applies.unique {other : Row} (h : row.Applies policy record now forced w)
    (hother : other.Applies policy record now forced w) : row = other :=
  Option.some.inj (h.row?_eq.symm.trans hother.row?_eq)

theorem Row.Applies.read_ne_stuck (h : row.Applies policy record now forced w) :
    Interval.read policy.interval ≠ .stuck := by
  intro hstuck
  have hrow := h.row?_eq
  rw [row?, course_eq_stuck_iff.2 hstuck] at hrow
  cases hrow

/-! ### What the row does -/

/-- A cycle that is concluded hands its record to the journal, which keeps it or not. -/
theorem conclude_journal (left : Record) (next : FollowUp) (w : World MemoryStore Journal) :
    (w.sink.failure = none → (conclude left next w).1 = .ok ⟨left, next⟩ ∧
      (conclude left next w).2.sink = ⟨w.sink.records ++ [left], none⟩) ∧
    (∀ reason, w.sink.failure = some reason →
      (conclude left next w).1 =
          .error (.unrecorded (.root ("status update rejected: " ++ reason))) ∧
        (conclude left next w).2.sink = w.sink) := by
  refine ⟨fun hnone => ?_, fun reason hsome => ?_⟩
  · have hput : RecordSink.put w.sink left = (.ok (), ⟨w.sink.records ++ [left], none⟩) := by
      show w.sink.put left = _
      rw [Journal.put, hnone]
    rw [conclude, hput]
    exact ⟨rfl, rfl⟩
  · have hput : RecordSink.put w.sink left =
        (.error (.root ("status update rejected: " ++ reason)), w.sink) := by
      show w.sink.put left = _
      rw [Journal.put, hsome]
    rw [conclude, hput]
    exact ⟨rfl, rfl⟩

/-- The end of a cycle leaves the random source alone. -/
theorem entropy_conclude (left : Record) (next : FollowUp) (w : World MemoryStore Journal) :
    (conclude left next w).2.entropy = w.entropy := by
  unfold conclude
  split <;> rfl

/-- A world with the same store and random source shows the same effects. -/
theorem Row.Effects.congr {v w' : World MemoryStore Journal} (h : row.Effects policy w w')
    (hstore : v.store = w'.store) (hentropy : v.entropy = w'.entropy) : row.Effects policy w v where
  values := by rw [hstore]; exact h.values
  attempts := by rw [hstore]; exact h.attempts
  entropy := by rw [hentropy]; exact h.entropy
  spelled := h.spelled

/-- Where the store took no password there is none to spell. -/
theorem Row.spelled_of_secret?_eq_none (hnone : row.secret? = none) :
    ∀ secret, row.secret? = some secret →
      secret.value.length = policy.effectiveLength ∧
        ∀ c ∈ secret.value.toList, (Alphabet.standard policy.includeSymbols).contains c = true := by
  intro secret hsome
  rw [hnone] at hsome
  cases hsome

/-- A row that is not a wait hands over its record in the world that it has come to. -/
theorem Row.follows_conclude {w' : World MemoryStore Journal} (hwait : row.isWait = false)
    (hsink : w'.sink = w.sink) (h : row.Effects policy w w') :
    row.Follows policy record now storeRetry w
      (conclude (row.record policy record now) (row.next storeRetry) w') := by
  obtain ⟨hkept, hunkept⟩ :=
    conclude_journal (row.record policy record now) (row.next storeRetry) w'
  have heffects := h.congr (store_conclude (row.record policy record now) (row.next storeRetry) w')
    (entropy_conclude (row.record policy record now) (row.next storeRetry) w')
  rw [hsink] at hkept hunkept
  refine ⟨fun hwaits => ?_, fun _ => hkept, fun reason _ => hunkept reason,
    fun hnone => ?_, heffects, fun hlong => ?_⟩
  · rw [hwait] at hwaits
    cases hwaits
  · cases row with
    | rotated interval secret => cases hnone
    | refused _ | waits _ | undrawn _ | unwritten _ => rfl
  · obtain ⟨reason, hdraw⟩ := Password.draw_of_maxLength_lt hlong
      (.standard policy.includeSymbols) w.entropy
    rw [heffects.entropy, drawn, hdraw, ite_self]

/-- **A cycle comes to a row, and does what it says**, unless reading its interval gets stuck. -/
theorem exists_row (storeRetry : Nat) (h : Interval.read policy.interval ≠ .stuck) :
    ∃ row : Row, row.Applies policy record now forced w ∧
      row.Follows policy record now storeRetry w (run policy record now forced storeRetry w) := by
  rw [run_eq_play]
  cases hc : course policy record now forced with
  | stuck => exact absurd (course_eq_stuck_iff.1 hc) h
  | refused reason =>
      refine ⟨.refused reason, .refused (course_eq_refused_iff.1 hc), ?_⟩
      exact Row.follows_conclude rfl rfl ⟨fun path => (ite_self _).symm, rfl, rfl,
        Row.spelled_of_secret?_eq_none rfl⟩
  | waits wait =>
      obtain ⟨hforced, interval, hread, hdue⟩ := course_eq_waits_iff.1 hc
      refine ⟨.waits wait, .waits hread hforced hdue, fun _ => rfl, fun he => (nomatch he),
        fun _ he => (nomatch he), fun _ => rfl, ?_, fun _ => rfl⟩
      exact ⟨fun path => (ite_self _).symm, rfl, rfl, Row.spelled_of_secret?_eq_none rfl⟩
  | attempts interval =>
      have hahead := course_eq_attempts_iff.1 hc
      obtain ⟨left, next, w', hending, hattempt⟩ :=
        attempt_eq_conclude policy interval storeRetry record now w
      rw [Course.play, hattempt]
      cases hending with
      | @undrawn reason entropy hd =>
          refine ⟨.undrawn reason, .undrawn hahead (congrArg Prod.fst hd), ?_⟩
          refine Row.follows_conclude rfl rfl ⟨fun path => (ite_self _).symm, rfl, ?_,
            Row.spelled_of_secret?_eq_none rfl⟩
          exact (congrArg Prod.snd hd).symm
      | @unwritten secret entropy reason store hd hw =>
          have herror : (w.store.write policy.storePath secret).1 = .error reason :=
            congrArg Prod.fst hw
          obtain rfl : (w.store.write policy.storePath secret).2 = store := congrArg Prod.snd hw
          refine ⟨.unwritten reason, .unwritten hahead (congrArg Prod.fst hd) herror, ?_⟩
          refine Row.follows_conclude rfl rfl ⟨fun path => ?_, w.store.attempts_write _ _, ?_,
            Row.spelled_of_secret?_eq_none rfl⟩
          · exact (congrFun (MemoryStore.value?_of_write_error herror) path).trans (ite_self _).symm
          · exact (congrArg Prod.snd hd).symm
      | @rotated secret entropy store hd hw =>
          have hok : (w.store.write policy.storePath secret).1 = .ok () := congrArg Prod.fst hw
          obtain rfl : (w.store.write policy.storePath secret).2 = store := congrArg Prod.snd hw
          refine ⟨.rotated interval secret, .rotated hahead (congrArg Prod.fst hd) hok, ?_⟩
          refine Row.follows_conclude rfl rfl
            ⟨MemoryStore.value?_write hok, w.store.attempts_write _ _, ?_, fun _ he => ?_⟩
          · exact (congrArg Prod.snd hd).symm
          · obtain rfl := Option.some.inj he
            exact Password.spelled_of_draw hd

/-- **A cycle follows the table.**  If its interval does not cut a digit, it comes to exactly one
row, and does what that row says.  If it cuts one, the cycle comes to no row: it gets stuck, and
nothing is changed. -/
theorem run_follows_table (policy : Policy) (record : Record) (now : Instant) (forced : Bool)
    (storeRetry : Nat) (w : World MemoryStore Journal) :
    (¬ Interval.CutsDigit policy.interval → ∃ row : Row, row.Applies policy record now forced w ∧
      (∀ other : Row, other.Applies policy record now forced w → other = row) ∧
      row.Follows policy record now storeRetry w (run policy record now forced storeRetry w)) ∧
    (Interval.CutsDigit policy.interval →
      (∀ row : Row, ¬ row.Applies policy record now forced w) ∧
        run policy record now forced storeRetry w = (.error .stuck, w)) := by
  refine ⟨fun hcuts => ?_, fun hcuts => ?_⟩
  · obtain ⟨row, happlies, hfollows⟩ := exists_row storeRetry
      (fun hstuck => hcuts (Interval.read_eq_stuck_iff.1 hstuck))
    exact ⟨row, happlies, fun other hother => hother.unique happlies, hfollows⟩
  · have hstuck := Interval.read_eq_stuck_iff.2 hcuts
    refine ⟨fun row happlies => happlies.read_ne_stuck hstuck, ?_⟩
    rw [run_eq_play, course_eq_stuck_iff.2 hstuck, Course.play]

/-- A random source that answers zero sixteen times, a store that takes everything and an empty
journal. -/
def Specimen.firstWorld : World MemoryStore Journal :=
  ⟨(Specimen.operator 0).entropy, .blank .succeed, .blank, []⟩

/-- The first cycle of a secret rotates it, and the store shows a password of sixteen characters. -/
theorem unrotated_first_cycle :
    ¬ Interval.CutsDigit "1h" ∧
      ∃ secret : Secret, secret.value.length = 16 ∧
        (run Specimen.unrotated.spec.policy Specimen.unrotated.record (Specimen.clock 0) false 0
          Specimen.firstWorld).1 =
            .ok ⟨⟨some (Specimen.clock 0), some .ready,
              some "Secret rotated and written to secret/data/orders"⟩, .after 3600000000000⟩ ∧
        (run Specimen.unrotated.spec.policy Specimen.unrotated.record (Specimen.clock 0) false 0
          Specimen.firstWorld).2.store.value? "secret/data/orders" = some secret.value := by
  have hcuts : ¬ Interval.CutsDigit "1h" := by
    rw [← Interval.read_eq_stuck_iff]
    decide +kernel
  obtain ⟨row, -, hunique, hfollows⟩ := (run_follows_table Specimen.unrotated.spec.policy
    Specimen.unrotated.record (Specimen.clock 0) false 0 Specimen.firstWorld).1 hcuts
  have hahead : GoesAhead Specimen.unrotated.spec.policy Specimen.unrotated.record
      (Specimen.clock 0) false 3600000000000 := course_eq_attempts_iff.1 (by decide +kernel)
  obtain ⟨secret, hdraw⟩ : ∃ secret,
      (drawn Specimen.unrotated.spec.policy Specimen.firstWorld.entropy).1.toOption = some secret :=
    Option.isSome_iff_exists.1 (by decide +kernel)
  -- the store takes what it is given, so that the row is the last one
  obtain rfl := hunique (.rotated 3600000000000 secret)
    (.rotated hahead (Specimen.eq_ok_of_toOption hdraw) rfl)
  exact ⟨hcuts, secret, (hfollows.effects.spelled secret rfl).1, (hfollows.kept rfl rfl).1,
    hfollows.effects.values "secret/data/orders"⟩

end CredentialRotation.Cycle
