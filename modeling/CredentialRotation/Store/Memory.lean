import CredentialRotation.Store.Basic

/-!
# Store — Memory

A store that keeps secrets in memory and fails when it is told to.

**Main statements.**  A write that succeeds shows at its path and nowhere else (`value?_write`), and
it is counted (`successes_of_ok`); one that fails changes no value (`value?_of_write_error`) and not
that count (`successes_of_error`).
-/

namespace CredentialRotation

/-- How the writes to come end. -/
inductive StoreBehavior where
  | succeed
  /-- Every write fails for this reason. -/
  | fail (reason : String)
  /-- So many writes fail, and then they succeed. -/
  | failTimes (count : Nat)
  deriving DecidableEq, Repr

/-- A store in memory. -/
structure MemoryStore where
  behavior : StoreBehavior
  /-- The secret last written to a path. -/
  value? : String → Option String
  /-- The number of writes, successful or not. -/
  attempts : Nat
  /-- The number of successful writes. -/
  successes : Nat

namespace MemoryStore

/-- A store that holds nothing yet. -/
def blank (behavior : StoreBehavior) : MemoryStore := ⟨behavior, fun _ => none, 0, 0⟩

/-- The store after a write that failed, with the behaviour to come. -/
def failedAttempt (s : MemoryStore) (behavior : StoreBehavior) : MemoryStore :=
  { s with behavior := behavior, attempts := s.attempts + 1 }

/-- The store after a write that succeeded. -/
def stored (s : MemoryStore) (path : String) (secret : Secret) : MemoryStore :=
  { s with
    value? := fun other => if other = path then some secret.value else s.value? other
    attempts := s.attempts + 1
    successes := s.successes + 1 }

/-- Write a secret, if the store is not told to fail. -/
def write (s : MemoryStore) (path : String) (secret : Secret) :
    Except StoreError Unit × MemoryStore :=
  match s.behavior with
  | .succeed | .failTimes 0 => (.ok (), s.stored path secret)
  | .fail reason => (.error (.unavailable reason), s.failedAttempt s.behavior)
  | .failTimes (remaining + 1) =>
    (.error (.unavailable ("injected failure (" ++ toString remaining ++ " remaining)")),
      s.failedAttempt (.failTimes remaining))

instance : SecretStore MemoryStore := ⟨fun _ => "memory", write⟩

theorem attempts_write (s : MemoryStore) (path : String) (secret : Secret) :
    (s.write path secret).2.attempts = s.attempts + 1 := by
  unfold write
  split <;> rfl

theorem successes_of_ok {s s' : MemoryStore} {path : String} {secret : Secret}
    (h : SecretStore.write s path secret = (.ok (), s')) : s'.successes = s.successes + 1 := by
  have hw : s.write path secret = (.ok (), s') := h
  unfold write at hw
  split at hw
  all_goals cases hw
  all_goals rfl

theorem successes_of_error {s s' : MemoryStore} {path : String} {secret : Secret} {e : StoreError}
    (h : SecretStore.write s path secret = (.error e, s')) : s'.successes = s.successes := by
  have hw : s.write path secret = (.error e, s') := h
  unfold write at hw
  split at hw
  all_goals cases hw
  all_goals rfl

theorem value?_write {s : MemoryStore} {path : String} {secret : Secret}
    (h : (s.write path secret).1 = .ok ()) (other : String) :
    (s.write path secret).2.value? other =
      if other = path then some secret.value else s.value? other := by
  unfold write at h ⊢
  split at h
  · rfl
  · rfl
  · cases h
  · cases h

theorem value?_of_write_error {s : MemoryStore} {path : String} {secret : Secret} {e : StoreError}
    (h : (s.write path secret).1 = .error e) : (s.write path secret).2.value? = s.value? := by
  unfold write at h ⊢
  split at h
  · cases h
  · cases h
  · rfl
  · rfl

end MemoryStore

end CredentialRotation
