import CredentialRotation.Text.Bytes

/-!
# Text — Utf8

The UTF-8 form of a text, and cutting a text to a number of bytes.  Where the cut would fall inside
a character, the end of the character before it is looked for backwards, one byte after the other.

**Main statements.**  A byte begins a character, or is the end of the text, exactly where the text
can be cut (`isBoundary_utf8_iff`).  So the search finds a byte at which to cut, whatever it starts
from (`isSome_truncate?`).
-/

namespace CredentialRotation.Text

/-- The UTF-8 form. -/
def utf8 (cs : List Char) : List UInt8 := cs.flatMap String.utf8EncodeChar

/-- At the byte `i` a character begins, or the text ends there. -/
def isBoundary (bytes : List UInt8) (i : Nat) : Bool :=
  if i = 0 then true
  else match bytes[i]? with
    | some byte => decide byte.IsUTF8FirstByte
    | none => i = bytes.length

/-- The last boundary up to the byte `i`, looked for backwards; `none` if the search passes the
first byte. -/
def lastBoundary? (bytes : List UInt8) : Nat → Option Nat
  | 0 => if isBoundary bytes 0 then some 0 else none
  | i + 1 => if isBoundary bytes (i + 1) then some (i + 1) else lastBoundary? bytes i

/-- The text up to the last boundary within `size` bytes; `none` if there is none, or if the text
cannot be cut there. -/
def truncate? (size : Nat) (cs : List Char) : Option (List Char) :=
  (lastBoundary? (utf8 cs) size).bind (cutAt? · cs)

/-! ### Boundaries -/

theorem utf8_cons (c : Char) (cs : List Char) :
    utf8 (c :: cs) = String.utf8EncodeChar c ++ utf8 cs := List.flatMap_cons

@[simp] theorem length_utf8 (cs : List Char) : (utf8 cs).length = byteSize cs := by
  induction cs with
  | nil => rfl
  | cons c cs ih =>
    rw [utf8_cons, List.length_append, String.length_utf8EncodeChar, ih, byteSize_cons]

/-- The byte at the front, if there is one, begins a character like any other at a boundary. -/
theorem isBoundary_utf8_eq (cs : List Char) (i : Nat) :
    isBoundary (utf8 cs) i = match (utf8 cs)[i]? with
      | some byte => decide byte.IsUTF8FirstByte
      | none => decide (i = byteSize cs) := by
  unfold isBoundary
  split
  · next hzero =>
    subst hzero
    cases cs with
    | nil => rfl
    | cons c cs =>
        -- the first byte of a character is known by its bits
        have hpos : 0 < (String.utf8EncodeChar c).length :=
          Nat.lt_of_lt_of_eq c.utf8Size_pos (String.length_utf8EncodeChar c).symm
        rw [utf8_cons, List.getElem?_append_left hpos, List.getElem?_eq_getElem hpos]
        simp
  · rw [length_utf8]

/-- Behind the first character the boundaries are those of the rest. -/
theorem isBoundary_utf8_cons_add (c : Char) (cs : List Char) (i : Nat) :
    isBoundary (utf8 (c :: cs)) (c.utf8Size + i) = isBoundary (utf8 cs) i := by
  have hlength := String.length_utf8EncodeChar c
  rw [isBoundary_utf8_eq, isBoundary_utf8_eq, utf8_cons,
    List.getElem?_append_right (by omega), hlength, Nat.add_sub_cancel_left, byteSize_cons]
  simp only [Nat.add_left_cancel_iff]

/-- Within the first character there is no boundary. -/
theorem isBoundary_utf8_cons_of_lt {c : Char} {i : Nat} (hpos : 0 < i) (hlt : i < c.utf8Size)
    (cs : List Char) : isBoundary (utf8 (c :: cs)) i = false := by
  have hlength : i < (String.utf8EncodeChar c).length := by rwa [String.length_utf8EncodeChar]
  rw [isBoundary_utf8_eq, utf8_cons, List.getElem?_append_left hlength,
    List.getElem?_eq_getElem hlength]
  simp [Nat.ne_of_gt hpos]

/-- **Boundaries lie between characters.** -/
theorem isBoundary_utf8_iff {cs : List Char} {i : Nat} :
    isBoundary (utf8 cs) i = true ↔ i ≤ byteSize cs ∧ ¬ Straddles i cs := by
  induction cs generalizing i with
  | nil =>
      have hend : isBoundary (utf8 []) i = decide (i = 0) := isBoundary_utf8_eq [] i
      simp [hend, not_straddles_nil]
  | cons c cs ih =>
      rw [straddles_cons_iff, byteSize_cons]
      rcases Nat.lt_or_ge i c.utf8Size with hlt | hle
      · rcases Nat.eq_zero_or_pos i with rfl | hpos
        · simp [isBoundary, Nat.ne_of_gt hlt]
        · simp [isBoundary_utf8_cons_of_lt hpos hlt, hpos, hlt]
      · obtain ⟨j, rfl⟩ := Nat.exists_eq_add_of_le hle
        rw [isBoundary_utf8_cons_add, ih]
        simp

/-- At the boundaries, and nowhere else, the text can be cut. -/
theorem isSome_cutAt?_iff {cs : List Char} {i : Nat} :
    (cutAt? i cs).isSome = true ↔ isBoundary (utf8 cs) i = true := by
  rw [isBoundary_utf8_iff, Option.isSome_iff_ne_none, Ne, cutAt?_eq_none_iff, not_or, Nat.not_lt]

/-! ### The search -/

/-- Up to the byte `i`, the last boundary is `j`. -/
structure IsLastBoundary (bytes : List UInt8) (i j : Nat) : Prop where
  le : j ≤ i
  boundary : isBoundary bytes j = true
  last : ∀ k, j < k → k ≤ i → isBoundary bytes k = false

/-- **The search finds the last boundary.**  It ends at the front of the text at the latest. -/
theorem exists_lastBoundary? (bytes : List UInt8) (i : Nat) :
    ∃ j, lastBoundary? bytes i = some j ∧ IsLastBoundary bytes i j := by
  induction i with
  | zero => exact ⟨0, rfl, Nat.le_refl 0, rfl, fun k hlt hle => absurd hlt (Nat.not_lt.2 hle)⟩
  | succ i ih =>
      rw [lastBoundary?]
      by_cases hhere : isBoundary bytes (i + 1) = true
      · rw [if_pos hhere]
        exact ⟨i + 1, rfl, Nat.le_refl _, hhere, fun k hlt hle => absurd hlt (Nat.not_lt.2 hle)⟩
      · obtain ⟨j, hj, hle, hboundary, hlast⟩ := ih
        rw [if_neg hhere]
        refine ⟨j, hj, Nat.le_succ_of_le hle, hboundary, fun k hlt hk => ?_⟩
        rcases Nat.le_succ_iff.1 hk with hk | rfl
        · exact hlast k hlt hk
        · simpa using hhere

-- byte two goes on with the character that begins at byte one
example : lastBoundary? (utf8 ['a', 'é', 'b']) 2 = some 1 := by decide

theorem isSome_truncate? (size : Nat) (cs : List Char) : (truncate? size cs).isSome = true := by
  obtain ⟨cut, hcut, hlast⟩ := exists_lastBoundary? (utf8 cs) size
  rw [truncate?, hcut]
  exact isSome_cutAt?_iff.2 hlast.boundary

/-- The text up to the last boundary within `size` bytes. -/
def truncate (size : Nat) (cs : List Char) : List Char :=
  (truncate? size cs).get (isSome_truncate? size cs)

theorem truncate?_eq_some (size : Nat) (cs : List Char) :
    truncate? size cs = some (truncate size cs) :=
  (Option.some_get _).symm

end CredentialRotation.Text
