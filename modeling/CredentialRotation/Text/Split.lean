/-!
# Text — Split

Cutting a text at every character of a kind.

**Main statements.**  There is at least one piece (`splitAll_ne_nil`), and no piece holds a
character at which the text is cut (`not_of_mem_splitAll`).
-/

namespace CredentialRotation.Text

/-- The pieces of a text between the characters that satisfy `p`; there is always at least one. -/
def splitAll (p : Char → Bool) : List Char → List (List Char)
  | [] => [[]]
  | c :: cs =>
    if p c then [] :: splitAll p cs
    else match splitAll p cs with
      | [] => [[c]]
      | first :: rest => (c :: first) :: rest

theorem splitAll_ne_nil (p : Char → Bool) (cs : List Char) : splitAll p cs ≠ [] := by
  cases cs with
  | nil => simp [splitAll]
  | cons c cs =>
      rw [splitAll]
      split
      · simp
      · split <;> simp

theorem not_of_mem_splitAll {p : Char → Bool} {cs piece : List Char} (h : piece ∈ splitAll p cs) :
    ∀ c ∈ piece, p c = false := by
  induction cs generalizing piece with
  | nil =>
      rw [splitAll, List.mem_singleton] at h
      simp [h]
  | cons c cs ih =>
      rw [splitAll] at h
      split at h
      · rcases List.mem_cons.1 h with rfl | h
        · simp
        · exact ih h
      · next hc =>
        cases hs : splitAll p cs with
        | nil => exact absurd hs (splitAll_ne_nil p cs)
        | cons first rest =>
            rw [hs] at h
            rcases List.mem_cons.1 h with rfl | h
            · intro d hd
              rcases List.mem_cons.1 hd with rfl | hd
              · simpa using hc
              · exact ih (hs ▸ List.mem_cons_self) d hd
            · exact ih (hs ▸ List.mem_cons_of_mem _ h)

end CredentialRotation.Text
