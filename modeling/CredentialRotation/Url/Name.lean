import CredentialRotation.Text.Composition
import CredentialRotation.Text.Direction
import CredentialRotation.Text.Punycode
import CredentialRotation.Url.Folding

/-!
# Url — Name

The name of a host: labels between dots.  A name may be written in the characters of any script; to
be looked up, a label that is not ASCII is written in letters, digits and hyphens after a marker.
The name is folded and composed first, so that all spellings of a name are looked up as one.

**Main statement.**  An ASCII label is looked up as it stands (`lookedUp_ascii`).
-/

namespace CredentialRotation

/-- A label of the name of a host. -/
structure HostLabel where
  /-- The characters that the label is made of. -/
  shown : List Char
  /-- The label as it is looked up. -/
  lookedUp : List Char
  deriving DecidableEq, Repr

/-- The name of a host. -/
abbrev HostName := List HostLabel

namespace HostName

open CredentialRotation.Text
open CredentialRotation.Url (fold?)

/-! ### Characters -/

/-- The printing characters of ASCII that may not be in a name, where a dot ends a label. -/
def forbidden : List Char := "%#/:<>?@[\\]^\x60\x7b|\x7d".toList

/-- The character may not be in a name. -/
def isForbidden (c : Char) : Bool := c.toNat ≤ 32 || c.toNat = 127 || forbidden.contains c

/-- The characters of a name, folded and composed. -/
def canonical? (cs : List Char) : Option (List Char) := do
  let forms ← cs.mapM fold?
  some (compose forms.flatten)

/-- The label is folded and composed. -/
def isCanonical (cs : List Char) : Bool :=
  cs.all (fun c => fold? c = some [c]) && compose cs = cs

/-- The character is ASCII. -/
def isAscii (c : Char) : Bool := c.toNat < 0x80

/-! ### Directions -/

/-- A direction that only names with letters running to the left have. -/
def isLeftward (d : Direction) : Bool := d = .left || d = .leftNumber

/-- The directions fit into one label: it begins with a letter, and before marks it ends with a
letter or a number of its own direction.  Letters of the other direction do not occur, and numbers
that run to the right are not mixed with others in a label that runs to the left. -/
def isOrdered : List Direction → Bool
  | [] => true
  | first :: rest =>
    let last := (rest.filter (· ≠ .mark)).getLast?.getD first
    match first with
    | .right => rest.all (fun d => !isLeftward d) && (last = .right || last = .number)
    | .left =>
      !rest.contains .right && (isLeftward last || last = .number) &&
        !(rest.contains .number && rest.contains .leftNumber)
    | _ => false

/-- In a name with letters running to the left the directions fit into every label. -/
def directionsFit (name : HostName) : Bool :=
  let directions := name.map fun label => label.shown.map direction
  !(directions.any (·.any isLeftward)) || directions.all isOrdered

/-! ### Labels -/

/-- What marks a label that is not in the characters it is made of. -/
def marker : List Char := "xn--".toList

/-- The longest label that is written after the marker, in characters. -/
def longestShown : Nat := 1000

/-- The longest text that is read after the marker, in characters. -/
def longestMarked : Nat := 2000

/-- The label does not begin with a mark, and every joiner in it makes a difference. -/
def isWellFormed (cs : List Char) : Bool :=
  (match cs with
    | [] => true
    | c :: _ => !isMark c) && joinersMatter cs

/-- A label as it is looked up. -/
def lookedUp (cs : List Char) : List Char :=
  if cs.all isAscii then cs else marker ++ Punycode.encode cs

theorem lookedUp_ascii {cs : List Char} (h : cs.all isAscii = true) : lookedUp cs = cs := by
  simp [lookedUp, h]

/-- The characters of a label that is written as it is looked up, without the marker.  It has some
that are not ASCII. -/
def shown? (code : List Char) : Option (List Char) :=
  if code.all isAscii ∧ code.getLast?.getD '-' ≠ '-' ∧ code.length ≤ longestMarked then
    (Punycode.decode? code).filter fun cs =>
      !cs.any isForbidden && isCanonical cs && isWellFormed cs
  else none

/-- The label that folded and composed characters write. -/
def label? (cs : List Char) : Option HostLabel :=
  if marker.isPrefixOf cs then (shown? (cs.drop marker.length)).map fun shown => ⟨shown, cs⟩
  else if isWellFormed cs ∧ (cs.all isAscii ∨ cs.length ≤ longestShown) then some ⟨cs, lookedUp cs⟩
  else none

/-! ### Names -/

/-- The name that a text writes. -/
def ofText? (cs : List Char) : Option HostName := do
  let canonical ← canonical? cs
  if canonical.any isForbidden then none
  else
    let name ← (splitAll (· = '.') canonical).mapM label?
    if directionsFit name then some name else none

/-- The name as it is looked up. -/
def text (name : HostName) : List Char := ['.'].intercalate (name.map (·.lookedUp))

end HostName

end CredentialRotation
