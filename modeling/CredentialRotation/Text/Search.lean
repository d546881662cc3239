/-!
# Text — Search

Looking for one text in another.

**Main statement.**  `holds` finds exactly what stands somewhere in the text (`holds_iff`).
-/

namespace CredentialRotation.Text

/-- The pattern stands somewhere in the text. -/
def holds (pattern : List Char) : List Char → Bool
  | [] => pattern.isEmpty
  | c :: cs => pattern.isPrefixOf (c :: cs) || holds pattern cs

theorem holds_iff {pattern cs : List Char} : holds pattern cs = true ↔ pattern <:+: cs := by
  induction cs with
  | nil => simp [holds]
  | cons c cs ih =>
      rw [holds, Bool.or_eq_true, List.isPrefixOf_iff_prefix, ih]
      exact (List.infix_cons_iff).symm

/-- The text holds one of the patterns. -/
def holdsAny (patterns : List String) (text : String) : Bool :=
  patterns.any fun pattern => holds pattern.toList text.toList

@[simp] theorem holdsAny_nil (text : String) : holdsAny [] text = false := rfl

theorem holdsAny_cons_iff {first : String} {patterns : List String} {text : String} :
    holdsAny (first :: patterns) text = true ↔
      first.toList <:+: text.toList ∨ holdsAny patterns text = true := by
  rw [holdsAny, List.any_cons, Bool.or_eq_true, holds_iff, holdsAny]

end CredentialRotation.Text
