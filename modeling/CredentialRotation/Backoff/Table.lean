import CredentialRotation.Backoff.Fibonacci

/-!
# Backoff — Table

The delays of every resource that has failed since it was last in order, by the key of the resource.

**Main statements.**  Failing and forgetting change the entry of that key (`get?_fail`,
`get?_forget`) and no other (`get?_fail_of_ne`, `get?_forget_of_ne`).
-/

namespace CredentialRotation

/-- The failures of one resource in a row. -/
structure Backoffs.Entry where
  backoff : Backoff
  /-- How many there were; the count ends where 32 bits do not hold more. -/
  errors : Nat
  deriving DecidableEq, Repr

/-- The failures of the resources that have failed. -/
structure Backoffs where
  /-- The first delay in seconds. -/
  first : Nat
  /-- The longest delay in seconds. -/
  cap : Nat
  entries : List (String × Backoffs.Entry)
  deriving DecidableEq, Repr

namespace Backoffs

/-- No resource has failed. -/
def blank (first cap : Nat) : Backoffs := ⟨first, cap, []⟩

/-- What is known of the failures of a resource. -/
def get? (b : Backoffs) (key : String) : Option Entry := b.entries.lookup key

/-- What is known of the failures of a resource; nothing is known at first. -/
def entry (b : Backoffs) (key : String) : Entry :=
  (b.get? key).getD ⟨Backoff.start b.first b.cap, 0⟩

/-- The delay that the next failure of a resource will get, in nanoseconds. -/
def pending (b : Backoffs) (key : String) : Nat := (b.entry key).backoff.delay

/-- An entry after one more failure. -/
def Entry.fail (e : Entry) : Entry := ⟨e.backoff.next, min (e.errors + 1) (Word.limit32 - 1)⟩

/-- Forget the failures of a resource. -/
def forget (b : Backoffs) (key : String) : Backoffs :=
  { b with entries := b.entries.filter fun e => e.1 != key }

/-- Count one more failure of a resource.  Its delay is the one that was `pending`. -/
def fail (b : Backoffs) (key : String) : Backoffs :=
  { b with entries := (key, (b.entry key).fail) :: (b.forget key).entries }

theorem lookup_filter_ne (entries : List (String × Entry)) {key other : String} (h : other ≠ key) :
    (entries.filter fun e => e.1 != key).lookup other = entries.lookup other := by
  induction entries with
  | nil => rfl
  | cons e rest ih =>
      obtain ⟨name, entry⟩ := e
      by_cases hk : name = key
      · subst hk
        rw [List.filter_cons_of_neg (by simp), ih, List.lookup_cons,
          show (other == name) = false by simpa using h]
      · rw [List.filter_cons_of_pos (by simpa using hk), List.lookup_cons, List.lookup_cons, ih]

theorem get?_forget (b : Backoffs) (key : String) : (b.forget key).get? key = none := by
  rw [get?, List.lookup_eq_none_iff]
  intro e he
  have := (List.mem_filter.1 he).2
  simp only [bne_iff_ne, ne_eq] at this
  simpa using fun h => this h.symm

theorem get?_forget_of_ne (b : Backoffs) {key other : String} (h : other ≠ key) :
    (b.forget key).get? other = b.get? other :=
  lookup_filter_ne b.entries h

theorem get?_fail (b : Backoffs) (key : String) :
    (b.fail key).get? key = some (b.entry key).fail := by
  simp [get?, fail]

theorem get?_fail_of_ne (b : Backoffs) {key other : String} (h : other ≠ key) :
    (b.fail key).get? other = b.get? other := by
  rw [get?, fail, List.lookup_cons, show (other == key) = false by simpa using h]
  exact lookup_filter_ne b.entries h

end Backoffs

end CredentialRotation
