import CredentialRotation.Text.Split
import CredentialRotation.Url.Percent

/-!
# Url — Path

The path of an address, as segments that each follow a slash.  A segment of one dot is left out, and
one of two dots takes the segment before it away, unless that names a drive.
-/

namespace CredentialRotation.Url

open CredentialRotation.Text

/-- What is escaped in a path. -/
def isEscapedInPath (c : Char) : Bool := " \"#<>?\x60\x7b\x7d".toList.contains c

/-- A slash or a backslash. -/
def isSlash (c : Char) : Bool := c = '/' || c = '\\'

/-- The number of dots that a segment consists of, a dot being written `%2e` as well. -/
def dots? : List Char → Option Nat
  | [] => some 0
  | '.' :: rest => (dots? rest).map (· + 1)
  | '%' :: '2' :: e :: rest => if e = 'e' ∨ e = 'E' then (dots? rest).map (· + 1) else none
  | _ => none

/-- The segment names a drive: a letter, and a colon or a bar. -/
def isDrive : List Char → Bool
  | [letter, mark] => letter.isAlpha && (mark = ':' || mark = '|')
  | _ => false

/-- The segments without the last, if it can be taken away. -/
def leave (segments : List (List Char)) : List (List Char) :=
  match segments.getLast? with
  | some last => if isDrive last then segments else segments.dropLast
  | none => []

/-- Follow the segments of a path from those that precede them.  A dot at the end leaves an empty
segment. -/
def follow (before : List (List Char)) : List (List Char) → List (List Char)
  | [] => before
  | segment :: rest =>
    let last := if rest = [] then [[]] else []
    match dots? segment with
    | some 1 => follow (before ++ last) rest
    | some 2 => follow (leave before ++ last) rest
    | _ => follow (before ++ [percentEncode isEscapedInPath segment]) rest

/-- The segments of a path, which may begin with a slash. -/
def segmentsOf (path : List Char) : List (List Char) :=
  follow [] (splitAll isSlash (match path with
    | c :: rest => if isSlash c then rest else path
    | [] => []))

end CredentialRotation.Url
