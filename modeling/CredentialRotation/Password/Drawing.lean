import CredentialRotation.Password.Alphabet
import CredentialRotation.Password.Entropy

/-!
# Password — Drawing

Drawing a password: so many characters of an alphabet, each drawn on its own.  An empty alphabet, no
length or a length above `maxLength` is refused before the source is asked.
-/

namespace CredentialRotation

/-- A password. -/
structure Secret where
  value : String
  deriving DecidableEq

/-- What a log shows of a password, whatever it is. -/
def Secret.shown (_ : Secret) : String := "GeneratedSecret(\"***\")"

namespace Password

/-- The longest password. -/
def maxLength : Nat := 4096

/-- Why no password was drawn. -/
inductive Failure where
  /-- The alphabet of this size is empty, or the length is zero. -/
  | nothingToDraw (size length : Nat)
  | tooLong (length : Nat)
  /-- The random source failed. -/
  | source (reason : String)
  deriving DecidableEq, Repr

/-- The wording of a failure. -/
def Failure.message : Failure → String
  | .nothingToDraw size length =>
    "invalid generator input: empty character set or invalid length (alphabet size " ++
      toString size ++ ", length " ++ toString length ++ ")"
  | .tooLong length =>
    "invalid generator input: length " ++ toString length ++ " exceeds maximum of " ++
      toString maxLength
  | .source reason => "secure random source unavailable: " ++ reason

/-- The password whose characters stand at the indices. -/
def spell (alphabet : Alphabet) (indices : List (Fin alphabet.size)) : Secret :=
  ⟨String.ofList (indices.map alphabet.chars.get)⟩

/-- Draw a password, and leave the source without the answers used. -/
def draw (alphabet : Alphabet) (length : Nat) (source : Entropy) :
    Except Failure Secret × Entropy :=
  if h : 0 < alphabet.size ∧ 0 < length then
    if length ≤ maxLength then
      match Entropy.indices h.1 source.exhausted length source.answers with
      | (.error reason, rest) => (.error (.source reason), { source with answers := rest })
      | (.ok indices, rest) => (.ok (spell alphabet indices), { source with answers := rest })
    else (.error (.tooLong length), source)
  else (.error (.nothingToDraw alphabet.size length), source)

/-- A password has the length that was asked for, and its characters are of the alphabet. -/
theorem spelled_of_draw {alphabet : Alphabet} {length : Nat} {source rest : Entropy}
    {secret : Secret} (h : draw alphabet length source = (.ok secret, rest)) :
    secret.value.length = length ∧ ∀ c ∈ secret.value.toList, alphabet.contains c = true := by
  unfold draw at h
  split at h
  · next hdrawable =>
    split at h
    · split at h
      · cases h
      · next indices _ hindices =>
        cases h
        refine ⟨?_, fun c hc => ?_⟩
        · rw [spell, String.length_ofList]
          exact (List.length_map _).trans (Entropy.length_of_indices _ _ hindices)
        · rw [spell, String.toList_ofList] at hc
          obtain ⟨index, -, rfl⟩ := List.mem_map.1 hc
          exact List.contains_iff_mem.2 (List.get_mem _ _)
    · cases h
  · cases h

/-- A length above the longest is refused before the source is asked. -/
theorem draw_of_maxLength_lt {length : Nat} (h : maxLength < length) (alphabet : Alphabet)
    (source : Entropy) : ∃ reason, draw alphabet length source = (.error reason, source) := by
  unfold draw
  split
  · rw [if_neg (Nat.not_le.2 h)]
    exact ⟨_, rfl⟩
  · exact ⟨_, rfl⟩

end Password

end CredentialRotation
