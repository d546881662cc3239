/-!
# Definition — Yaml

Documents in YAML's block style.  A text stands as it is where it cannot be taken for anything else,
between single quotes where it could, and line by line under a bar where it has several lines.  The
items of a list stand under the dash at the depth of the list's own key.
-/

namespace CredentialRotation

/-- A document. -/
inductive Yaml where
  /-- A number or a truth value, as it is written. -/
  | literal (written : String)
  | text (value : String)
  | list (items : List Yaml)
  | record (fields : List (String × Yaml))

namespace Yaml

/-- A colon or a number sign stands where it would end a text. -/
def breaksOff : List Char → Bool
  | [] => false
  | [c] => c = ':'
  | c :: d :: rest => (c = ':' && d = ' ') || (c = ' ' && d = '#') || breaksOff (d :: rest)

/-- The characters with which something other than a text begins. -/
def indicators : List Char := "-?:,[]\x7b\x7d#&*!|>\x27\"%@\x60".toList

/-- The texts that would be taken for other values. -/
def reserved : List String := ["null", "~", "true", "false"]

/-- A text that has to stand between quotes. -/
def needsQuotes (value : String) : Bool :=
  breaksOff value.toList || reserved.contains value ||
    match value.toList with
    | [] => true
    | c :: rest => indicators.contains c || c.isDigit || c = ' ' || (c :: rest).getLast? = some ' '

/-- A text of one line. -/
def inlineText (value : String) : String :=
  if needsQuotes value then
    "'" ++ String.ofList (value.toList.flatMap fun c => if c = '\x27' then [c, c] else [c]) ++ "'"
  else value

/-- A line moved in by one step; an empty line stays empty. -/
def indent (line : String) : String := if line = "" then "" else "  " ++ line

/-- A key and its value, of which `lines` are the lines. -/
def entry (key : String) (value : Yaml) (lines : List String) : List String :=
  match value with
  | list (_ :: _) => (key ++ ":") :: lines
  | record (_ :: _) => (key ++ ":") :: lines.map indent
  | text value =>
    if value.contains '\n' then (key ++ ": |-") :: lines.map indent
    else [key ++ ": " ++ inlineText value]
  | literal written => [key ++ ": " ++ written]
  | list [] => [key ++ ": []"]
  | record [] => [key ++ ": \x7b\x7d"]

/-- The lines of an item after its dash. -/
def dashed : List String → List String
  | [] => []
  | first :: rest => ("- " ++ first) :: rest.map indent

mutual

/-- The lines of a document. -/
def lines : Yaml → List String
  | literal written => [written]
  | text value => value.splitOn "\n"
  | list items => itemLines items
  | record fields => fieldLines fields

/-- The lines of the items of a list. -/
def itemLines : List Yaml → List String
  | [] => []
  | item :: rest => dashed (lines item) ++ itemLines rest

/-- The lines of the fields of a record. -/
def fieldLines : List (String × Yaml) → List String
  | [] => []
  | (key, value) :: rest => entry key value (lines value) ++ fieldLines rest

end

/-- The document as a text, with a line break after every line. -/
def toText (document : Yaml) : String := String.join (document.lines.map fun line => line ++ "\n")

end Yaml

end CredentialRotation
