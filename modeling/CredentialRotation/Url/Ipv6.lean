import CredentialRotation.Text.Digit
import CredentialRotation.Text.Split

/-!
# Url — Ipv6

Addresses of eight groups of sixteen bits.  A group is written in hexadecimal digits, with colons
between the groups; two colons stand for groups of zero, and the last two groups may be written as
four bytes between dots.

**Main statement.**  An address that is read has eight groups (`length_of_ofText?`).
-/

namespace CredentialRotation

/-- An address of eight groups. -/
structure Ipv6 where
  groups : List Nat
  deriving DecidableEq, Repr

namespace Ipv6

open CredentialRotation.Text

/-- The number of groups. -/
def groupCount : Nat := 8

/-! ### Reading -/

/-- A group of one to four digits. -/
def group? (cs : List Char) : Option Nat :=
  if cs ≠ [] ∧ cs.length ≤ 4 then numberInFrom? 16 0 cs else none

/-- A byte in decimal digits, without zeros in front. -/
def byte? (cs : List Char) : Option Nat :=
  match cs with
  | '0' :: _ :: _ => none
  | _ => (number? cs).filter (· < 256)

/-- The two groups that four bytes write. -/
def dotted? (cs : List Char) : Option (List Nat) :=
  match (splitAll (· = '.') cs).mapM byte? with
  | some [a, b, c, d] => some [256 * a + b, 256 * c + d]
  | _ => none

/-- The groups of texts, the last of which may write two where that is allowed. -/
def groups? (endsDotted : Bool) : List (List Char) → Option (List Nat)
  | [] => some []
  | [last] =>
    if endsDotted && last.contains '.' then dotted? last else (group? last).map fun n => [n]
  | first :: rest => do
    let n ← group? first
    let others ← groups? endsDotted rest
    some (n :: others)

/-- The groups of a text, which may be empty. -/
def side? (endsDotted : Bool) (cs : List Char) : Option (List Nat) :=
  if cs = [] then some [] else groups? endsDotted (splitAll (· = ':') cs)

/-- The texts before and after the first two colons in a row. -/
def cutAtGap? : List Char → Option (List Char × List Char)
  | ':' :: ':' :: rest => some ([], rest)
  | c :: rest => (cutAtGap? rest).map fun (before, after) => (c :: before, after)
  | [] => none

/-- All groups, zeros standing between those of the two sides.  There is at least one. -/
def fill? (before after : List Nat) : Option (List Nat) :=
  if before.length + after.length < groupCount then
    some (before ++ List.replicate (groupCount - (before.length + after.length)) 0 ++ after)
  else none

/-- The address that a text writes. -/
def ofText? (cs : List Char) : Option Ipv6 :=
  match cutAtGap? cs with
  | some (before, after) => do
    let before ← side? false before
    let after ← side? true after
    (fill? before after).map mk
  | none =>
    ((groups? true (splitAll (· = ':') cs)).filter (·.length = groupCount)).map mk

theorem length_fill? {before after groups : List Nat} (h : fill? before after = some groups) :
    groups.length = groupCount := by
  rw [fill?] at h
  split at h
  · cases h
    simp only [List.length_append, List.length_replicate]
    omega
  · cases h

theorem length_of_ofText? {cs : List Char} {a : Ipv6} (h : ofText? cs = some a) :
    a.groups.length = groupCount := by
  rw [ofText?] at h
  split at h
  · obtain ⟨before, _, h⟩ := Option.bind_eq_some_iff.1 h
    obtain ⟨after, _, h⟩ := Option.bind_eq_some_iff.1 h
    obtain ⟨groups, hg, rfl⟩ := Option.map_eq_some_iff.1 h
    exact length_fill? hg
  · obtain ⟨groups, hg, rfl⟩ := Option.map_eq_some_iff.1 h
    simpa using (Option.filter_eq_some_iff.1 hg).2

/-! ### Writing -/

/-- The number of zeros at the head. -/
def leadingZeros (groups : List Nat) : Nat := (groups.takeWhile (· = 0)).length

/-- Where the longest run of zeros begins, the first of several, and its length. -/
def longestZeros (groups : List Nat) : Nat × Nat :=
  (List.range groups.length).foldl (fun best start =>
    let length := leadingZeros (groups.drop start)
    if best.2 < length then (start, length) else best) (0, 0)

/-- Groups in hexadecimal digits with colons between them. -/
def groupsText (groups : List Nat) : List Char :=
  [':'].intercalate (groups.map (Nat.toDigits 16))

/-- The address as a text.  Two colons stand for the longest run of two zeros or more. -/
def toText (a : Ipv6) : String :=
  let (start, length) := longestZeros a.groups
  String.ofList (if length < 2 then groupsText a.groups
    else groupsText (a.groups.take start) ++ [':', ':'] ++
      groupsText (a.groups.drop (start + length)))

end Ipv6

end CredentialRotation
