import CredentialRotation.Text.Blank
import Mathlib.Data.List.Chain

/-!
# Proofs — Text — Words

The words of a text, and the line they make.  `Splits` says of a text and a list of words that there
is nothing else in the text but blanks, and that blanks keep the words apart; a text has one such
list (`splits_iff`).  With one space between neighbours the words are on one line: spaces are its
only blanks, and no two of them stand together (`isOnOneLine_flatten`).
-/

namespace CredentialRotation.Text

variable {cs ds rest word : List Char} {ws : List (List Char)}

/-! ### Words -/

/-- The text holds the words in their order, with blanks between them and perhaps around them. -/
inductive Splits : List Char → List (List Char) → Prop where
  | nil : Splits [] []
  | blank {c : Char} {cs : List Char} {ws : List (List Char)} (hc : isBlank c = true)
      (h : Splits cs ws) : Splits (c :: cs) ws
  /-- A word goes on to the next blank or to the end of the text. -/
  | word {word rest : List Char} {ws : List (List Char)} (hne : word ≠ [])
      (hword : ∀ c ∈ word, isBlank c = false) (hgap : atGap rest = true) (h : Splits rest ws) :
      Splits (word ++ rest) (word :: ws)

theorem splits_words (cs : List Char) : Splits cs (words cs) := by
  induction cs with
  | nil => exact .nil
  | cons c cs ih =>
      rw [words]
      cases hc : isBlank c with
      | true => exact .blank hc ih
      | false =>
          cases hgap : atGap cs with
          | true => exact .word (List.cons_ne_nil c []) (by simpa using hc) hgap ih
          | false =>
              -- the text goes on with a word, which `c` is put in front of
              generalize words cs = ws at ih
              cases ih with
              | nil => simp [atGap] at hgap
              | blank hd _ => simp [atGap, hd] at hgap
              | @word word rest ws hne hword hrest h =>
                  have hall : ∀ d ∈ c :: word, isBlank d = false := by
                    intro d hd
                    rcases List.mem_cons.1 hd with rfl | hd
                    · exact hc
                    · exact hword d hd
                  exact .word (List.cons_ne_nil c word) hall hrest h

/-- A word at the front of a text is its first one. -/
theorem words_append (hne : word ≠ []) (hword : ∀ c ∈ word, isBlank c = false)
    (hgap : atGap rest = true) :
    words (word ++ rest) = word :: words rest := by
  induction word with
  | nil => exact absurd rfl hne
  | cons c word ih =>
      have hc : isBlank c = false := hword c List.mem_cons_self
      cases word with
      | nil => simp [words, hc, hgap]
      | cons d word =>
          have hd : isBlank d = false := hword d (List.mem_cons_of_mem c List.mem_cons_self)
          have hrest := ih (List.cons_ne_nil d word) fun e he => hword e (List.mem_cons_of_mem c he)
          rw [List.cons_append, words, hrest]
          simp [hc, hd, atGap]

/-- **A text has one list of words.** -/
theorem splits_iff : Splits cs ws ↔ words cs = ws := by
  constructor
  · intro h
    induction h with
    | nil => rfl
    | blank hc _ ih => rw [words, if_pos hc, ih]
    | word hne hword hgap _ ih => rw [words_append hne hword hgap, ih]
  · rintro rfl
    exact splits_words cs

/-- A word has a character at least, and no blank. -/
theorem Splits.isWord (h : Splits cs ws) : ∀ w ∈ ws, w ≠ [] ∧ ∀ c ∈ w, isBlank c = false := by
  induction h with
  | nil => simp
  | blank _ _ ih => exact ih
  | word hne hword _ _ ih =>
      intro w hw
      rcases List.mem_cons.1 hw with rfl | hw
      · exact ⟨hne, hword⟩
      · exact ih w hw

/-! ### One line -/

/-- The only blanks of the text are spaces, and no two of them stand together. -/
structure IsOnOneLine (cs : List Char) : Prop where
  spaces : ∀ c ∈ cs, isBlank c = true → c = ' '
  apart : cs.IsChain fun c d => ¬ (isBlank c = true ∧ isBlank d = true)

namespace IsOnOneLine

/-- What ASCII calls white space on a line is a space. -/
theorem eq_space_of_isWhitespace (h : IsOnOneLine cs) {c : Char} (hc : c ∈ cs)
    (hspace : c.isWhitespace = true) : c = ' ' :=
  h.spaces c hc (isBlank_of_isWhitespace hspace)

/-- A text without blanks is on one line. -/
theorem of_not_isBlank (h : ∀ c ∈ cs, isBlank c = false) : IsOnOneLine cs where
  spaces := fun c hc hblank => by simp [h c hc] at hblank
  apart := by
    rw [List.isChain_iff_forall_rel_of_append_cons_cons]
    rintro c d before after rfl ⟨hblank, -⟩
    simp [h c (by simp)] at hblank

/-- Two lines are one line where they do not meet with a blank each. -/
theorem append (h : IsOnOneLine cs) (h' : IsOnOneLine ds)
    (hmeet : ∀ c ∈ cs.getLast?, ∀ d ∈ ds.head?, ¬ (isBlank c = true ∧ isBlank d = true)) :
    IsOnOneLine (cs ++ ds) where
  spaces := fun c hc => (List.mem_append.1 hc).elim (h.spaces c) (h'.spaces c)
  apart := h.apart.append h'.apart hmeet

theorem of_isPrefix (h : IsOnOneLine ds) (hstart : cs <+: ds) : IsOnOneLine cs where
  spaces := fun c hc => h.spaces c (hstart.subset hc)
  apart := h.apart.infix hstart.isInfix

/-- What has no blanks may be put behind a line. -/
theorem append_of_not_isBlank (h : IsOnOneLine cs) (hds : ∀ d ∈ ds, isBlank d = false) :
    IsOnOneLine (cs ++ ds) := by
  refine h.append (of_not_isBlank hds) fun c _ d hd hblank => ?_
  simp [hds d (List.mem_of_head? hd)] at hblank

end IsOnOneLine

/-- Words with one space between neighbours are on one line. -/
theorem isOnOneLine_intercalate (h : ∀ w ∈ ws, w ≠ [] ∧ ∀ c ∈ w, isBlank c = false) :
    IsOnOneLine ([' '].intercalate ws) := by
  induction ws with
  | nil => exact .of_not_isBlank (by simp)
  | cons first ws ih =>
      obtain ⟨-, hfirst⟩ := h first List.mem_cons_self
      cases ws with
      | nil => simpa using IsOnOneLine.of_not_isBlank hfirst
      | cons second ws =>
          have hrest := ih fun w hw => h w (List.mem_cons_of_mem first hw)
          have hspace : IsOnOneLine [' '] := ⟨by simp, .singleton ' '⟩
          -- neither side of the space is blank: the words end and begin with characters of their
          -- own
          obtain ⟨hne, hsecond⟩ := h second (by simp)
          obtain ⟨d, second, rfl⟩ := List.exists_cons_of_ne_nil hne
          rw [List.intercalate_cons_cons]
          refine ((IsOnOneLine.of_not_isBlank hfirst).append hspace ?_).append hrest ?_
          · intro c hc _ _ hblank
            simp [hfirst c (List.mem_of_getLast? hc)] at hblank
          · simp [hsecond d List.mem_cons_self]

theorem isOnOneLine_flatten (cs : List Char) : IsOnOneLine (flatten cs) :=
  isOnOneLine_intercalate (splits_words cs).isWord

end CredentialRotation.Text
