import CredentialRotation.Proofs.Interval.Value

/-!
# Proofs — Interval — Grammar

The grammar of intervals: one or more segments, each of them digits, perhaps a point and digits, and
a unit, one behind the other and nothing else.  A text is in the grammar exactly if the run of
segments at its head is all of it (`split_eq_of_isWritten`, `isWritten_split`), and where it is not,
the run says how far it is (`exists_beginsWith_iff`).  `read_cases` is what reading a text comes to.
-/

namespace CredentialRotation.Interval

open CredentialRotation.Text

variable {cs rest : List Char} {segments : List Segment}

/-- The text is written from the segments, one at least, and from nothing else. -/
structure IsWritten (cs : List Char) (segments : List Segment) : Prop where
  text_eq : cs = (segments.map Segment.chars).flatten
  ne_nil : segments ≠ []
  wellFormed : ∀ s ∈ segments, s.WellFormed

/-- The text begins with the segments, the last of which is written out: its minutes are not the
beginning of milliseconds. -/
structure BeginsWith (cs : List Char) (run : List Segment) (rest : List Char) : Prop where
  text_eq : cs = (run.map Segment.chars).flatten ++ rest
  wellFormed : ∀ s ∈ run, s.WellFormed
  complete : ∀ s ∈ run.getLast?, s.unit = .minute → rest.head? ≠ some 's'

theorem split_eq_of_isWritten (h : IsWritten cs segments) : Segment.split cs = (segments, []) := by
  rw [h.text_eq, Segment.split_flatten_nil h.wellFormed]

theorem isWritten_split (hne : (Segment.split cs).1 ≠ []) (hrest : (Segment.split cs).2 = []) :
    IsWritten cs (Segment.split cs).1 where
  text_eq := by
    have happ := Segment.flatten_append_split cs
    rwa [hrest, List.append_nil] at happ
  ne_nil := hne
  wellFormed := fun _ hs => Segment.wellFormed_of_mem_split hs

theorem IsWritten.beginsWith (h : IsWritten cs segments) : BeginsWith cs segments [] where
  text_eq := by rw [h.text_eq, List.append_nil]
  wellFormed := h.wellFormed
  complete := by simp

theorem BeginsWith.exists_split {before : List Segment} {s : Segment}
    (h : BeginsWith cs (before ++ [s]) rest) :
    ∃ after, (Segment.split cs).1 = before ++ s :: after := by
  have hlast : s ∈ (before ++ [s]).getLast? := by simp
  refine ⟨(Segment.split rest).1, ?_⟩
  rw [h.text_eq, Segment.split_flatten_append h.wellFormed (h.complete s hlast)]

/-- The run at the head of a text holds the segments that the text begins with. -/
theorem exists_beginsWith_iff {before : List Segment} {s : Segment} :
    (∃ rest, BeginsWith cs (before ++ [s]) rest) ↔
      ∃ after, (Segment.split cs).1 = before ++ s :: after := by
  constructor
  · rintro ⟨rest, h⟩
    exact h.exists_split
  · rintro ⟨after, hsplit⟩
    obtain ⟨rest, he, hw, hc⟩ := Segment.begins_of_split_eq hsplit
    refine ⟨rest, he, hw, fun x hx => ?_⟩
    obtain rfl : s = x := by simpa using hx
    exact hc

theorem BeginsWith.isWritten {run : List Segment} (h : BeginsWith cs run []) (hne : run ≠ []) :
    IsWritten cs run where
  text_eq := by rw [h.text_eq, List.append_nil]
  ne_nil := hne
  wellFormed := h.wellFormed

/-! ### Reading -/

/-- The sum of the segments, where a text was read to its end and that sum is not too large. -/
def Reading.sum? : Reading → Option Nat
  | .span nanos => some nanos
  | .refused (.notPositive _) => some 0
  | .refused _ | .stuck => none

theorem verdict_cases (text : String) (sum : Nat) :
    (spanLimit ≤ sum ∧ verdict text sum = .refused (.overflow text)) ∨
      (sum < spanLimit ∧ (verdict text sum).sum? = some sum) := by
  rw [verdict_eq]
  split
  · next hzero =>
    rw [hzero]
    exact .inr ⟨by decide, rfl⟩
  · split
    · next hle => exact .inl ⟨hle, rfl⟩
    · next hlt => exact .inr ⟨Nat.not_le.1 hlt, rfl⟩

/-- **What reading a text comes to.**  There is nothing but blanks; the run at the head overflows or
gets stuck; or it has a sum, and then either the text is not in the grammar or the verdict is on
that sum. -/
theorem read_cases (text : String) :
    (trim text = "" ∧ read text = .refused .empty) ∨
    (total 0 (Segment.split (lowercase (trim text).toList)).1 = .overflow ∧
      read text = .refused (.overflow (trim text))) ∨
    (total 0 (Segment.split (lowercase (trim text).toList)).1 = .stuck ∧ read text = .stuck) ∨
    (total 0 (Segment.split (lowercase (trim text).toList)).1 ≠ .overflow ∧
      (¬ ∃ segments, IsWritten (lowercase (trim text).toList) segments) ∧
        read text = .refused (.malformed (trim text))) ∨
    (∃ segments sum, IsWritten (lowercase (trim text).toList) segments ∧
      total 0 segments = .nanos sum ∧ read text = verdict (trim text) sum) := by
  unfold read
  dsimp only
  by_cases hempty : trim text = ""
  · exact .inl ⟨hempty, if_pos hempty⟩
  · rw [if_neg hempty]
    cases htotal : total 0 (Segment.split (lowercase (trim text).toList)).1 with
    | overflow => exact .inr (.inl ⟨rfl, rfl⟩)
    | stuck => exact .inr (.inr (.inl ⟨rfl, rfl⟩))
    | nanos sum =>
        by_cases hall : (Segment.split (lowercase (trim text).toList)).1 = [] ∨
            (Segment.split (lowercase (trim text).toList)).2 ≠ []
        · refine .inr (.inr (.inr (.inl ⟨Amount.noConfusion, ?_, if_pos hall⟩)))
          rintro ⟨segments, h⟩
          rw [split_eq_of_isWritten h] at hall
          exact hall.elim h.ne_nil fun hne => hne rfl
        · obtain ⟨hne, hrest⟩ := not_or.1 hall
          have hwritten := isWritten_split hne (not_not.1 hrest)
          refine .inr (.inr (.inr (.inr ⟨_, sum, hwritten, htotal, ?_⟩)))
          exact if_neg hall

theorem not_isWritten_of_trim_eq_empty {text : String} (h : trim text = "") :
    ¬ ∃ segments, IsWritten (lowercase (trim text).toList) segments := by
  rintro ⟨segments, hw⟩
  have hsplit := (split_eq_of_isWritten hw).symm.trans (split_of_trim_eq_empty h)
  exact hw.ne_nil (congrArg Prod.fst hsplit)

/-- **A text whose sum can be told is in the grammar**, and the sum is that of its segments. -/
theorem exists_isWritten_of_sum? {text : String} {nanos : Nat} (h : (read text).sum? = some nanos) :
    ∃ segments, IsWritten (lowercase (trim text).toList) segments ∧
      total 0 segments = .nanos nanos := by
  rcases read_cases text with ⟨-, hr⟩ | ⟨-, hr⟩ | ⟨-, hr⟩ | ⟨-, -, hr⟩ |
    ⟨segments, sum, hw, htotal, hr⟩ <;> rw [hr] at h
  · cases h
  · cases h
  · cases h
  · cases h
  · rcases verdict_cases (trim text) sum with ⟨-, hv⟩ | ⟨-, hv⟩
    · rw [hv] at h
      cases h
    · obtain rfl := Option.some.inj (hv.symm.trans h)
      exact ⟨segments, hw, htotal⟩

end CredentialRotation.Interval
