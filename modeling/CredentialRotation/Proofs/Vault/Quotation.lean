import CredentialRotation.Proofs.Text.Truncation
import CredentialRotation.Proofs.Text.Words
import CredentialRotation.Vault.Store

/-!
# Proofs — Vault — Quotation

Replies of the vault as they are quoted in messages.  A reply can have any text, of any length; what
is quoted of it is one line of a bounded size, well-formed down to its last character.

**Main statement** (`quoteBody_bounded`).  The words of the reply with one space between neighbours
are quoted as they are if 512 bytes hold them.  If not, their longest piece that 512 bytes hold is
quoted, with three dots behind it, and the search for the end of that piece comes to it.
-/

namespace CredentialRotation.Vault

open CredentialRotation.Text

variable {line quoted : List Char}

/-- How a line is quoted. -/
inductive IsQuoted (line : List Char) : List Char → Prop where
  | whole (hle : byteSize line ≤ 512) : IsQuoted line line
  /-- The line is cut where the search for the end of a character, back from 512 bytes, finds
  one. -/
  | cut {piece : List Char} (hlt : 512 < byteSize line) (hlongest : IsLongestWithin 512 line piece)
      (hsize : 509 ≤ byteSize piece)
      (hsearch : lastBoundary? (utf8 line) 512 = some (byteSize piece)) :
      IsQuoted line (piece ++ ['.', '.', '.'])

theorem isQuoted_quoteBody (body : String) :
    IsQuoted (flatten body.toList) (quoteBody body).toList := by
  rw [quoteBody]
  split
  · next hle =>
    rw [String.toList_ofList]
    exact .whole hle
  · next hlong =>
    rw [String.toList_ofList]
    have hlt : 512 < byteSize (flatten body.toList) := Nat.lt_of_not_le hlong
    have hlongest : IsLongestWithin 512 _ (truncate quotedBytes (flatten body.toList)) :=
      isLongestWithin_truncate quotedBytes _
    have hroom := hlongest.lt_byteSize_add_four hlt
    exact .cut hlt hlongest (by omega) (lastBoundary?_utf8 quotedBytes _)

theorem IsQuoted.byteSize_le (h : IsQuoted line quoted) : byteSize quoted ≤ 515 := by
  cases h with
  | whole hle => omega
  | cut _ hlongest _ _ =>
      have hpiece := hlongest.byteSize_le
      have hdots : byteSize ['.', '.', '.'] = 3 := by decide
      rw [byteSize_append, hdots]
      omega

/-- What is quoted of a line is a line. -/
theorem IsQuoted.isOnOneLine (h : IsQuoted line quoted) (hline : IsOnOneLine line) :
    IsOnOneLine quoted := by
  cases h with
  | whole => exact hline
  | cut _ hlongest _ _ =>
      have hdot : isBlank '.' = false := by decide
      exact (hline.of_isPrefix hlongest.isPrefix).append_of_not_isBlank (by simp [hdot])

/-- **Quotations are bounded, on one line and well-formed.**  The words of a reply, of which there
is one list, are quoted with one space between neighbours, whole or up to the last character that
512 bytes hold.  No tab and no line break is left. -/
theorem quoteBody_bounded (body : String) :
    ∃ words, (∀ others, Splits body.toList others ↔ others = words) ∧
      IsQuoted ([' '].intercalate words) (quoteBody body).toList ∧
      byteSize (quoteBody body).toList ≤ 515 ∧ IsOnOneLine (quoteBody body).toList ∧
      ∀ c ∈ (quoteBody body).toList, c.isWhitespace = true → c = ' ' := by
  have hquoted := isQuoted_quoteBody body
  have hline := hquoted.isOnOneLine (isOnOneLine_flatten body.toList)
  refine ⟨words body.toList, fun others => ?_, hquoted, hquoted.byteSize_le, hline, fun c hc => ?_⟩
  · rw [splits_iff]
    exact eq_comm
  · exact hline.eq_space_of_isWhitespace hc

-- a reply of two lines, the first of which has a tab in it
example : quoteBody "no\thandler\nfor route 'secret'\n" = "no handler for route 'secret'" := by
  decide +kernel

end CredentialRotation.Vault
