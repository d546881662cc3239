import CredentialRotation.Text.Utf8

/-!
# Proofs — Text — Truncation

What is left of a text that is cut to a number of bytes: its longest piece of no more bytes
(`isLongestWithin_truncate`).  Since no character has more than four bytes, at most three of the
bytes that there are room for are left over (`IsLongestWithin.lt_byteSize_add_four`).
-/

namespace CredentialRotation.Text

variable {size : Nat} {cs piece : List Char}

/-- Of the pieces from the front of the text that have at most `size` bytes, this is the longest. -/
structure IsLongestWithin (size : Nat) (cs piece : List Char) : Prop where
  isPrefix : piece <+: cs
  byteSize_le : byteSize piece ≤ size
  longest : ∀ front, front <+: cs → byteSize front ≤ size → front <+: piece

theorem byteSize_eq_zero_iff : byteSize cs = 0 ↔ cs = [] := by
  cases cs with
  | nil => simp
  | cons c cs =>
      have := c.utf8Size_pos
      simp only [byteSize_cons, reduceCtorEq, iff_false]
      omega

/-- Any piece from the front ends at a boundary. -/
theorem isBoundary_byteSize (h : piece <+: cs) : isBoundary (utf8 cs) (byteSize piece) = true := by
  obtain ⟨rest, rfl⟩ := h
  rw [← isSome_cutAt?_iff, cutAt?_append]
  rfl

/-- Of two pieces from the front the one with no more bytes is a piece of the other. -/
theorem prefix_of_byteSize_le {front : List Char} (hfront : front <+: cs) (hpiece : piece <+: cs)
    (hle : byteSize front ≤ byteSize piece) : front <+: piece := by
  rcases List.prefix_or_prefix_of_prefix hfront hpiece with h | ⟨rest, rfl⟩
  · exact h
  · rw [byteSize_append] at hle
    obtain rfl : rest = [] := byteSize_eq_zero_iff.1 (by omega)
    exact ⟨[], by simp⟩

/-- **The search for the cut ends where the truncated text does.** -/
theorem lastBoundary?_utf8 (size : Nat) (cs : List Char) :
    lastBoundary? (utf8 cs) size = some (byteSize (truncate size cs)) := by
  obtain ⟨cut, hcut, hpiece⟩ := Option.bind_eq_some_iff.1 (truncate?_eq_some size cs)
  rw [hcut, byteSize_of_cutAt? hpiece]

theorem prefix_truncate (size : Nat) (cs : List Char) : truncate size cs <+: cs := by
  obtain ⟨_, -, hpiece⟩ := Option.bind_eq_some_iff.1 (truncate?_eq_some size cs)
  exact prefix_of_cutAt? hpiece

theorem isLastBoundary_truncate (size : Nat) (cs : List Char) :
    IsLastBoundary (utf8 cs) size (byteSize (truncate size cs)) := by
  obtain ⟨cut, hcut, hlast⟩ := exists_lastBoundary? (utf8 cs) size
  rw [lastBoundary?_utf8, Option.some_inj] at hcut
  rwa [hcut]

/-- **A text is truncated to its longest piece of no more bytes.** -/
theorem isLongestWithin_truncate (size : Nat) (cs : List Char) :
    IsLongestWithin size cs (truncate size cs) where
  isPrefix := prefix_truncate size cs
  byteSize_le := (isLastBoundary_truncate size cs).le
  longest := by
    intro front hfront hle
    refine prefix_of_byteSize_le hfront (prefix_truncate size cs) (Nat.le_of_not_lt fun hlt => ?_)
    -- the end of a longer piece would be a later boundary
    have hnone := (isLastBoundary_truncate size cs).last _ hlt hle
    rw [isBoundary_byteSize hfront] at hnone
    cases hnone

/-- Where there is more text, the next character has no room. -/
theorem IsLongestWithin.lt_byteSize_add_four (h : IsLongestWithin size cs piece)
    (hlong : size < byteSize cs) : size < byteSize piece + 4 := by
  obtain ⟨rest, rfl⟩ := h.isPrefix
  cases rest with
  | nil =>
      have hle := h.byteSize_le
      rw [List.append_nil] at hlong
      omega
  | cons c rest =>
      have hnext : ¬ byteSize (piece ++ [c]) ≤ size := by
        intro hle
        have hlength := (h.longest (piece ++ [c]) ⟨rest, by simp⟩ hle).length_le
        rw [List.length_append, List.length_singleton] at hlength
        omega
      have hfour := c.utf8Size_le_four
      rw [byteSize_append, byteSize_cons, byteSize_nil] at hnext
      omega

end CredentialRotation.Text
