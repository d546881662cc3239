import CredentialRotation.Target
import CredentialRotation.Text.Blank
import CredentialRotation.Url.Host
import CredentialRotation.Url.Path
import CredentialRotation.Word

/-!
# Url — Basic

The address of a resource on a server, as it is read from a text: the blanks at the ends and the
line breaks go, a backslash counts as a slash, the segments `.` and `..` of the path are followed,
and whatever may not stand in an address is written by its bytes.
-/

namespace CredentialRotation

/-- The address of a resource. -/
structure Url where
  /-- The scheme, `http` or `https`. -/
  scheme : String
  host : Host
  /-- The port, if it is not the one that goes with the scheme. -/
  port : Option Nat
  /-- The segments of the path, each after a slash. -/
  segments : List (List Char)
  query : Option (List Char)
  fragment : Option (List Char)
  deriving DecidableEq, Repr

namespace Url

open CredentialRotation.Text

/-- What is escaped in a query. -/
def isEscapedInQuery (c : Char) : Bool := " \"#<>\x27".toList.contains c

/-- What is escaped in a fragment. -/
def isEscapedInFragment (c : Char) : Bool := " \"<>\x60".toList.contains c

/-! ### Authorities -/

/-- The port that goes with a scheme. -/
def standardPort (scheme : String) : Nat := if scheme = "http" then 80 else 443

/-- The port that a text writes, none being meant by the one that goes with the scheme. -/
def port? (scheme : String) (cs : List Char) : Option (Option Nat) :=
  if cs = [] then some none
  else (number? cs).bind fun n =>
    if Word.limit16 ≤ n then none else some (if n = standardPort scheme then none else some n)

/-- The texts of the host and, after a colon that is not in brackets, of the port. -/
def cutAtPort (inBrackets : Bool) : List Char → List Char × List Char
  | [] => ([], [])
  | c :: rest =>
    if c = ':' ∧ inBrackets = false then ([], rest)
    else
      let (host, port) := cutAtPort (c = '[' || (inBrackets && c ≠ ']')) rest
      (c :: host, port)

/-- The host and the port of an authority, without the user before them. -/
def authority? (scheme : String) (cs : List Char) : Option (Host × Option Nat) := do
  let (host, port) := cutAtPort false ((splitAll (· = '@') cs).getLast?.getD [])
  let host ← Host.ofText? host
  let port ← port? scheme port
  some (host, port)

/-! ### Reading -/

/-- The text without the blanks and controls at its ends and without tabs and line breaks. -/
def clean (text : String) : List Char :=
  let isEnd (c : Char) : Bool := c.toNat ≤ 32
  (dropEnds isEnd text.toList).filter fun c => c ≠ '\t' ∧ c ≠ '\n' ∧ c ≠ '\r'

/-- The scheme of an address, and what follows the slashes after it. -/
def scheme? (cs : List Char) : Option (String × List Char) :=
  let scheme := (String.ofList (cs.takeWhile (· ≠ ':'))).toLower
  if scheme = "http" ∨ scheme = "https" then
    match cs.dropWhile (· ≠ ':') with
    | ':' :: rest => some (scheme, rest.dropWhile isSlash)
    | _ => none
  else none

/-- The part after the first `mark`, if there is one. -/
def after? (mark : Char) (cs : List Char) : Option (List Char) :=
  match cs.dropWhile (· ≠ mark) with
  | [] => none
  | _ :: rest => some rest

/-- The address that a text writes. -/
def ofText? (text : String) : Option Url := do
  let (scheme, rest) ← scheme? (clean text)
  let unmarked := rest.takeWhile (· ≠ '#')
  let path := unmarked.takeWhile (· ≠ '?')
  let (host, port) ← authority? scheme (path.takeWhile fun c => !isSlash c)
  some
    { scheme := scheme
      host := host
      port := port
      segments := segmentsOf (path.dropWhile fun c => !isSlash c)
      query := (after? '?' unmarked).map (percentEncode isEscapedInQuery)
      fragment := (after? '#' rest).map (percentEncode isEscapedInFragment) }

/-! ### Writing -/

/-- The part of an address that a request to its server names. -/
def target (u : Url) : String :=
  String.ofList (u.segments.flatMap ('/' :: ·) ++ match u.query with
    | some query => '?' :: query
    | none => [])

/-- The host and the port. -/
def authority (u : Url) : String :=
  u.host.toText ++ match u.port with
    | some port => ":" ++ toString port
    | none => ""

/-- The address as a text. -/
def toText (u : Url) : String :=
  u.scheme ++ "://" ++ u.authority ++ u.target ++ match u.fragment with
    | some fragment => String.ofList ('#' :: fragment)
    | none => ""

/-! ### Requests -/

/-- A request can be sent to the address. -/
def isRequestable (u : Url) : Bool := (Target.path? u.toText).isSome

end Url

end CredentialRotation
