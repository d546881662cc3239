import CredentialRotation.Text.Bytes

/-!
# Target

What a request names: an absolute path with a query after a question mark, the same after a scheme
and an authority, an authority alone, or an asterisk.  Nothing in it is encoded or decoded; a number
sign ends it, and it may not hold a character that a target never holds.

**Main statement.**  The path of an absolute path begins as it does (`head?_of_resourcePath?`).
-/

namespace CredentialRotation.Target

open CredentialRotation.Text

/-! ### Paths and queries -/

/-- The character may stand in a query. -/
def isQueryChar (c : Char) : Bool :=
  c = '!' || ('$' ≤ c && c ≠ '<' && c ≠ '>' && c ≠ '\x7f')

/-- The character may stand in a path.  Those of JSON may, though they are rarely seen there. -/
def isPathChar (c : Char) : Bool :=
  isQueryChar c && c ≠ '\x60' || c = '"'

/-- The path of a path and a query, if both are well formed. -/
def resourcePath? (cs : List Char) : Option (List Char) :=
  let written := cs.takeWhile (· ≠ '#')
  let path := written.takeWhile (· ≠ '?')
  if path.all isPathChar ∧ (written.drop (path.length + 1)).all isQueryChar then some path else none

theorem head?_of_resourcePath? {cs path : List Char} {c : Char}
    (h : resourcePath? (c :: cs) = some path) (hash : c ≠ '#') (mark : c ≠ '?') :
    path.head? = some c := by
  simp only [resourcePath?] at h
  split at h
  · cases h
    simp [hash, mark]
  · cases h

/-! ### Authorities -/

/-- The character may stand in an authority, where a percent sign only may before the host. -/
def isAuthorityChar (c : Char) : Bool := c.isAlphanum || "!$%&'()*+,-.:;=@[]_~".toList.contains c

/-- What has been seen of an authority. -/
structure AuthorityScan where
  /-- The colons since the user or the brackets. -/
  colons : Nat := 0
  /-- There has been a percent sign since the user or the brackets. -/
  percent : Bool := false
  /-- There has been an opening bracket. -/
  opened : Bool := false
  /-- There has been a closing bracket. -/
  closed : Bool := false
  deriving DecidableEq, Repr

/-- The most colons that may follow each other before a bracket. -/
def mostColons : Nat := 8

/-- Go on to the next character. -/
def AuthorityScan.next? (s : AuthorityScan) (c : Char) : Option AuthorityScan :=
  if !isAuthorityChar c then none
  else if c = ':' then
    if s.colons < mostColons then some { s with colons := s.colons + 1 } else none
  else if c = '[' then if s.percent || s.opened then none else some { s with opened := true }
  else if c = ']' then
    if s.opened && !s.closed then some { s with closed := true, colons := 0, percent := false }
    else none
  else if c = '@' then some { s with colons := 0, percent := false }
  else if c = '%' then some { s with percent := true }
  else some s

/-- An authority: perhaps a user, a host, perhaps a port. -/
def isAuthority (cs : List Char) : Bool :=
  match cs.foldlM AuthorityScan.next? {} with
  | some s => s.opened = s.closed && s.colons ≤ 1 && !s.percent && cs.getLast? ≠ some '@'
  | none => false

/-! ### Targets -/

/-- The longest target, in bytes. -/
def longest : Nat := 65534

/-- The longest scheme. -/
def longestScheme : Nat := 64

/-- The character may stand in a scheme. -/
def isSchemeChar (c : Char) : Bool := c.isAlphanum || "+-.".toList.contains c

/-- What follows the scheme, a colon and two slashes. -/
def afterScheme? (cs : List Char) : Option (List Char) :=
  match cs.dropWhile isSchemeChar with
  | ':' :: '/' :: '/' :: rest => some rest
  | _ => none

/-- The character ends an authority. -/
def endsAuthority (c : Char) : Bool := c = '/' || c = '?' || c = '#'

/-- The path that characters name.  Where there is only an authority it is empty. -/
def pathOf? (cs : List Char) : Option (List Char) :=
  if cs = ['*'] then some cs
  else if cs.head? = some '/' then resourcePath? cs
  else
    match afterScheme? cs with
    | some rest =>
      let authority := rest.takeWhile fun c => !endsAuthority c
      let scheme := cs.takeWhile isSchemeChar
      if scheme.length ≤ longestScheme ∧ authority ≠ [] ∧ isAuthority authority then
        (resourcePath? (rest.drop authority.length)).map fun path =>
          if path = [] then ['/'] else path
      else none
    | none => if cs ≠ [] ∧ isAuthority cs then some [] else none

/-- The path that a request to this target names, if the target is well formed. -/
def path? (target : String) : Option String :=
  if byteSize target.toList ≤ longest then (pathOf? target.toList).map String.ofList else none

end CredentialRotation.Target
