import CredentialRotation.Word

/-!
# Password — Entropy

A random source, as the list of what it will answer when it is asked for 32 random bits, and how it
fails when that list is at its end.  An index below `n` is drawn by rejection: only an answer below
the largest multiple of `n` counts, so that every index has the same share of the answers.

**Main statement.**  A rejected answer is passed over and an accepted one decides
(`index_of_reject`, `index_of_accept`).
-/

namespace CredentialRotation

/-- A random source. -/
structure Entropy where
  /-- Each answer to come, 32 bits or why there are none. -/
  answers : List (Except String (Fin Word.limit32))
  /-- Why there are no bits after those answers. -/
  exhausted : String

namespace Entropy

/-- The size of the space that an answer is drawn from. -/
abbrev space : Nat := Word.limit32

/-- The answers below this bound count: the largest multiple of `n` in the space. -/
def zone (n : Nat) : Nat := space - space % n

/-- An index below `n`, and the answers left. -/
def index {n : Nat} (h : 0 < n) (exhausted : String) :
    List (Except String (Fin space)) → Except String (Fin n) × List (Except String (Fin space))
  | [] => (.error exhausted, [])
  | .error reason :: rest => (.error reason, rest)
  | .ok v :: rest =>
    if v.val < zone n then (.ok ⟨v.val % n, Nat.mod_lt _ h⟩, rest) else index h exhausted rest

theorem index_of_accept {n : Nat} (h : 0 < n) (exhausted : String) {v : Fin space}
    (hv : v.val < zone n) (rest : List (Except String (Fin space))) :
    index h exhausted (.ok v :: rest) = (.ok ⟨v.val % n, Nat.mod_lt _ h⟩, rest) := by
  rw [index, if_pos hv]

theorem index_of_reject {n : Nat} (h : 0 < n) (exhausted : String) {v : Fin space}
    (hv : ¬ v.val < zone n) (rest : List (Except String (Fin space))) :
    index h exhausted (.ok v :: rest) = index h exhausted rest := by
  rw [index, if_neg hv]

/-- A list of `count` indices below `n`, and the answers left.  The first failure ends it. -/
def indices {n : Nat} (h : 0 < n) (exhausted : String) :
    Nat → List (Except String (Fin space)) →
      Except String (List (Fin n)) × List (Except String (Fin space))
  | 0, answers => (.ok [], answers)
  | count + 1, answers =>
    match index h exhausted answers with
    | (.error reason, rest) => (.error reason, rest)
    | (.ok first, rest) =>
      match indices h exhausted count rest with
      | (.error reason, rest) => (.error reason, rest)
      | (.ok others, rest) => (.ok (first :: others), rest)

theorem length_of_indices {n : Nat} (h : 0 < n) (exhausted : String) {count : Nat}
    {answers rest : List (Except String (Fin space))} {drawn : List (Fin n)}
    (hd : indices h exhausted count answers = (.ok drawn, rest)) : drawn.length = count := by
  induction count generalizing answers drawn with
  | zero =>
      cases hd
      rfl
  | succ count ih =>
      rw [indices] at hd
      split at hd
      · cases hd
      · split at hd
        · cases hd
        · next hothers =>
          cases hd
          rw [List.length_cons, ih hothers]

end Entropy

end CredentialRotation
