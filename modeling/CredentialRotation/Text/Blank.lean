import CredentialRotation.Text.Ranges

/-!
# Text — Blank

White space in the sense of the Unicode property `White_Space`, and the two ways in which text is
cleaned of it: `trim` cuts it off both ends, `words` cuts the text at every run of it.

**Main statements.**  Every character that ASCII calls white space is blank
(`isBlank_of_isWhitespace`), and texts without blanks around them can be joined (`trim_append`).
-/

namespace CredentialRotation.Text

/-- The property `White_Space`. -/
def blankRanges : Ranges :=
  [(0x09, 0x0D), (0x20, 0x20), (0x85, 0x85), (0xA0, 0xA0), (0x1680, 0x1680), (0x2000, 0x200A),
    (0x2028, 0x2029), (0x202F, 0x202F), (0x205F, 0x205F), (0x3000, 0x3000)]

/-- A white-space character. -/
def isBlank (c : Char) : Bool := blankRanges.covers c

/-- ASCII white space is blank. -/
theorem isBlank_of_isWhitespace {c : Char} (h : c.isWhitespace = true) : isBlank c = true := by
  simp only [Char.isWhitespace, Bool.or_eq_true, decide_eq_true_eq] at h
  rcases h with ((rfl | rfl) | rfl) | rfl <;> decide

/-! ### Cutting the ends -/

/-- The list without its longest beginning, and then without its longest end, all of whose members
satisfy `p`. -/
def dropEnds {α : Type} (p : α → Bool) (l : List α) : List α :=
  ((l.dropWhile p).reverse.dropWhile p).reverse

/-- The text without the blanks at its two ends. -/
def trim (s : String) : String := String.ofList (dropEnds isBlank s.toList)

section

variable {α : Type} {p : α → Bool} {l : List α}

/-- Where the beginning is left alone, it does not matter what comes behind it. -/
theorem dropWhile_append_of_eq_self (hne : l ≠ []) (h : l.dropWhile p = l) (rest : List α) :
    (l ++ rest).dropWhile p = l ++ rest := by
  rw [List.dropWhile_append, h, if_neg (mt List.isEmpty_iff.1 hne)]

/-- Both ends are left alone exactly if each of them is. -/
theorem dropEnds_eq_self_iff :
    dropEnds p l = l ↔ l.dropWhile p = l ∧ l.reverse.dropWhile p = l.reverse := by
  constructor
  · intro h
    have hlength : (dropEnds p l).length ≤ (l.dropWhile p).length := by
      rw [dropEnds, List.length_reverse]
      exact Nat.le_trans (List.dropWhile_suffix _).length_le (Nat.le_of_eq List.length_reverse)
    rw [h] at hlength
    have hfront := (List.dropWhile_suffix (l := l) p).eq_of_length_le hlength
    rw [dropEnds, hfront, List.reverse_eq_iff] at h
    exact ⟨hfront, h⟩
  · rintro ⟨hfront, hend⟩
    rw [dropEnds, hfront, hend, List.reverse_reverse]

theorem dropEnds_append {front : List α} (hne : front ≠ []) (hne' : l ≠ [])
    (hfront : dropEnds p front = front) (h : dropEnds p l = l) :
    dropEnds p (front ++ l) = front ++ l := by
  obtain ⟨hbegin, -⟩ := dropEnds_eq_self_iff.1 hfront
  obtain ⟨-, hend⟩ := dropEnds_eq_self_iff.1 h
  refine dropEnds_eq_self_iff.2 ⟨dropWhile_append_of_eq_self hne hbegin l, ?_⟩
  rw [List.reverse_append]
  exact dropWhile_append_of_eq_self (mt List.reverse_eq_nil_iff.1 hne') hend _

end

/-- Texts without blanks around them make one without blanks around it. -/
theorem trim_append {a b : String} (hne : a ≠ "") (hne' : b ≠ "") (ha : trim a = a)
    (hb : trim b = b) : trim (a ++ b) = a ++ b := by
  have hself : ∀ s : String, trim s = s → dropEnds isBlank s.toList = s.toList := fun s h => by
    rw [← String.toList_ofList (l := dropEnds isBlank s.toList), ← trim, h]
  have hnil : ∀ {s : String}, s ≠ "" → s.toList ≠ [] := fun h => mt String.toList_eq_nil_iff.1 h
  rw [trim, String.toList_append, dropEnds_append (hnil hne) (hnil hne') (hself a ha) (hself b hb),
    ← String.toList_append, String.ofList_toList]

/-! ### Cutting into words -/

/-- The text is at its end or goes on with a blank. -/
def atGap : List Char → Bool
  | [] => true
  | c :: _ => isBlank c

/-- The maximal runs of characters that are not blank, in order. -/
def words : List Char → List (List Char)
  | [] => []
  | c :: cs =>
    if isBlank c then words cs
    else if atGap cs then [c] :: words cs
    else (words cs).modifyHead (c :: ·)

/-- The words of the text with one space between neighbours. -/
def flatten (cs : List Char) : List Char := [' '].intercalate (words cs)

end CredentialRotation.Text
