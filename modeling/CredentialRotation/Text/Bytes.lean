/-!
# Text — Bytes

Cutting text at a number of UTF-8 bytes without cutting a character.

**Main statements.**  `cutAt?` gives a piece of exactly the size asked for (`byteSize_of_cutAt?`)
from the front of the text (`prefix_of_cutAt?`), and fails only on text that is shorter or that has
a character across the cut (`cutAt?_eq_none_iff`).
-/

namespace CredentialRotation.Text

/-- The number of bytes of the UTF-8 form. -/
def byteSize : List Char → Nat
  | [] => 0
  | c :: cs => c.utf8Size + byteSize cs

@[simp] theorem byteSize_nil : byteSize [] = 0 := rfl

@[simp] theorem byteSize_cons (c : Char) (cs : List Char) :
    byteSize (c :: cs) = c.utf8Size + byteSize cs := rfl

/-- The first `size` bytes, if a character ends there. -/
def cutAt? : Nat → List Char → Option (List Char)
  | 0, _ => some []
  | _ + 1, [] => none
  | size + 1, c :: cs =>
    if c.utf8Size ≤ size + 1 then (cutAt? (size + 1 - c.utf8Size) cs).map (c :: ·) else none
  termination_by _ cs => cs

theorem byteSize_of_cutAt? {size : Nat} {cs piece : List Char} (h : cutAt? size cs = some piece) :
    byteSize piece = size := by
  induction cs generalizing size piece with
  | nil =>
      cases size with
      | zero => rw [cutAt?] at h; cases h; rfl
      | succ size => simp [cutAt?] at h
  | cons c cs ih =>
      cases size with
      | zero => rw [cutAt?] at h; cases h; rfl
      | succ size =>
          rw [cutAt?] at h
          split at h
          · obtain ⟨tail, ht, rfl⟩ := Option.map_eq_some_iff.1 h
            rw [byteSize_cons, ih ht]
            omega
          · cases h

@[simp] theorem byteSize_append (cs ds : List Char) :
    byteSize (cs ++ ds) = byteSize cs + byteSize ds := by
  induction cs with
  | nil => simp
  | cons c cs ih => rw [List.cons_append, byteSize_cons, byteSize_cons, ih, Nat.add_assoc]

/-- A character lies across the end of the first `size` bytes. -/
def Straddles (size : Nat) (cs : List Char) : Prop :=
  ∃ before c after, cs = before ++ c :: after ∧ byteSize before < size ∧
    size < byteSize before + c.utf8Size

theorem Straddles.lt_byteSize {size : Nat} {cs : List Char} (h : Straddles size cs) :
    size < byteSize cs := by
  obtain ⟨before, c, after, rfl, -, hlt⟩ := h
  rw [byteSize_append, byteSize_cons]
  omega

theorem not_straddles_nil (size : Nat) : ¬ Straddles size [] :=
  fun h => Nat.not_lt_zero _ h.lt_byteSize

/-- The first character lies across the cut, or the cut falls behind it. -/
theorem straddles_cons_iff {size : Nat} {c : Char} {cs : List Char} :
    Straddles size (c :: cs) ↔
      0 < size ∧ size < c.utf8Size ∨ c.utf8Size ≤ size ∧ Straddles (size - c.utf8Size) cs := by
  constructor
  · rintro ⟨before, d, after, he, hlt, hgt⟩
    cases before with
    | nil =>
        obtain ⟨rfl, rfl⟩ := List.cons.inj he
        exact .inl ⟨hlt, by simpa using hgt⟩
    | cons b before =>
        obtain ⟨rfl, rfl⟩ := List.cons.inj he
        rw [byteSize_cons] at hlt hgt
        exact .inr ⟨by omega, before, d, after, rfl, by omega, by omega⟩
  · rintro (⟨hpos, hlt⟩ | ⟨hle, before, d, after, rfl, hlt, hgt⟩)
    · exact ⟨[], c, cs, rfl, hpos, by simpa using hlt⟩
    · exact ⟨c :: before, d, after, rfl, by rw [byteSize_cons]; omega, by rw [byteSize_cons]; omega⟩

theorem cutAt?_eq_none_iff {size : Nat} {cs : List Char} :
    cutAt? size cs = none ↔ byteSize cs < size ∨ Straddles size cs := by
  induction cs generalizing size with
  | nil =>
      cases size with
      | zero => simp [cutAt?, not_straddles_nil]
      | succ size => simp [cutAt?]
  | cons c cs ih =>
      cases size with
      | zero => simp [cutAt?, straddles_cons_iff, Nat.ne_of_gt c.utf8Size_pos]
      | succ size =>
          rw [cutAt?, straddles_cons_iff, byteSize_cons]
          split
          · rw [Option.map_eq_none_iff, ih]
            constructor
            · rintro (h | h)
              · exact .inl (by omega)
              · exact .inr (.inr ⟨‹_›, h⟩)
            · rintro (h | ⟨-, h⟩ | ⟨-, h⟩)
              · exact .inl (by omega)
              · omega
              · exact .inr h
          · next h =>
              exact ⟨fun _ => .inr (.inl ⟨Nat.succ_pos _, Nat.lt_of_not_le h⟩), fun _ => rfl⟩

theorem prefix_of_cutAt? {size : Nat} {cs piece : List Char} (h : cutAt? size cs = some piece) :
    piece <+: cs := by
  induction cs generalizing size piece with
  | nil =>
      cases size with
      | zero => rw [cutAt?] at h; cases h; exact List.prefix_rfl
      | succ size => simp [cutAt?] at h
  | cons c cs ih =>
      cases size with
      | zero => rw [cutAt?] at h; cases h; exact List.nil_prefix
      | succ size =>
          rw [cutAt?] at h
          split at h
          · obtain ⟨tail, ht, rfl⟩ := Option.map_eq_some_iff.1 h
            exact List.cons_prefix_cons.2 ⟨rfl, ih ht⟩
          · cases h

/-- A piece of the text is the cut at its own size. -/
theorem cutAt?_append (cs rest : List Char) : cutAt? (byteSize cs) (cs ++ rest) = some cs := by
  induction cs with
  | nil => rw [byteSize_nil, cutAt?]
  | cons c cs ih =>
      obtain ⟨size, hsize⟩ := Nat.exists_eq_succ_of_ne_zero
        (Nat.ne_of_gt (Nat.add_pos_left c.utf8Size_pos (byteSize cs)))
      have hrest : size + 1 - c.utf8Size = byteSize cs := by omega
      rw [byteSize_cons, hsize, List.cons_append, cutAt?, if_pos (by omega), hrest, ih,
        Option.map_some]

end CredentialRotation.Text
