import CredentialRotation.Json.Basic
import CredentialRotation.Text.Digit
import CredentialRotation.Word

/-!
# Json — Reader

Reading a JSON text strictly by the grammar: no leading zeros, no raw controls in strings, no half
of a surrogate pair, nothing after the value but blanks.
-/

namespace CredentialRotation.Json

open CredentialRotation.Text

/-- The blanks of JSON. -/
def isSpace (c : Char) : Bool := c == ' ' || c == '\t' || c == '\n' || c == '\r'

/-- The text after the blanks at its head. -/
def skip (cs : List Char) : List Char := cs.dropWhile isSpace

/-! ### Strings -/

/-- The code unit that four hexadecimal digits write. -/
def quad? (a b c d : Char) : Option Nat :=
  match hexValue? a, hexValue? b, hexValue? c, hexValue? d with
  | some a, some b, some c, some d => some (a * 4096 + b * 256 + c * 16 + d)
  | _, _, _, _ => none

/-- The character of a pair of surrogates. -/
def ofSurrogates (high low : Nat) : Char :=
  Char.ofNat (0x10000 + (high - 0xD800) * 0x400 + (low - 0xDC00))

/-- The character that a letter after a backslash stands for. -/
def unescape? : Char → Option Char
  | '"' => some '"'
  | '\\' => some '\\'
  | '/' => some '/'
  | 'b' => some '\x08'
  | 'f' => some '\x0c'
  | 'n' => some '\n'
  | 'r' => some '\r'
  | 't' => some '\t'
  | _ => none

/-- Put a character in front of a string that has been read. -/
def prepend (c : Char) (rest : Option (List Char × List Char)) : Option (List Char × List Char) :=
  rest.map fun (text, rest) => (c :: text, rest)

/-- The characters up to the closing quote, and the text after it.  `high` is the first half of a
surrogate pair whose second half has to come next. -/
def readString? (high : Option Nat) : List Char → Option (List Char × List Char)
  | [] => none
  | '\\' :: 'u' :: a :: b :: c :: d :: rest =>
    match quad? a b c d, high with
    | none, _ => none
    | some unit, some first =>
      if 0xDC00 ≤ unit ∧ unit < 0xE000 then
        prepend (ofSurrogates first unit) (readString? none rest)
      else none
    | some unit, none =>
      if unit < 0xD800 ∨ 0xE000 ≤ unit then prepend (Char.ofNat unit) (readString? none rest)
      else if unit < 0xDC00 then readString? (some unit) rest
      else none
  | '\\' :: c :: rest =>
    match unescape? c, high with
    | some c, none => prepend c (readString? none rest)
    | _, _ => none
  | c :: rest =>
    if high.isSome then none
    else if c = '"' then some ([], rest)
    else if c.toNat < 0x20 then none
    else prepend c (readString? none rest)

/-! ### Numbers -/

/-- A character that numbers are written with. -/
def isNumeral (c : Char) : Bool :=
  (digitValue? c).isSome || c == '-' || c == '+' || c == '.' || c == 'e' || c == 'E'

/-- One or more digits, and the text after them. -/
def readDigits? (cs : List Char) : Option (List Char × List Char) :=
  match cs.takeWhile fun c => (digitValue? c).isSome with
  | [] => none
  | digits => some (digits, cs.dropWhile fun c => (digitValue? c).isSome)

/-- Digits that are zero or do not start with zero. -/
def readWhole? (cs : List Char) : Option (List Char × List Char) :=
  (readDigits? cs).filter fun (digits, _) => digits == ['0'] || digits.head? != some '0'

/-- What may stand between the whole part and the end: a fraction, an exponent, both. -/
def isTail (cs : List Char) : Bool :=
  let afterPoint := match cs with
    | '.' :: rest => (readDigits? rest).map Prod.snd
    | _ => some cs
  match afterPoint with
  | none => false
  | some [] => true
  | some (e :: rest) =>
    (e == 'e' || e == 'E') &&
      (let digits := match rest with
        | '+' :: rest | '-' :: rest => rest
        | _ => rest
      ((readDigits? digits).map Prod.snd) == some [])

/-- The number that a literal writes.  Minus zero is no integer, and an integer has to fit in 64
bits. -/
def ofLiteral? (literal : List Char) : Option Json :=
  let digits := match literal with
    | '-' :: rest => rest
    | _ => literal
  let negative := literal.head? == some '-'
  match readWhole? digits with
  | none => none
  | some (whole, tail) =>
    let real := Json.real (String.ofList literal)
    if tail = [] then
      match number? whole with
      | none => none
      | some n =>
        if negative then some (if n ≠ 0 ∧ n ≤ Word.limit63 then .int (-n) else real)
        else some (if n < Word.limit64 then .int n else real)
    else if isTail tail then some real
    else none

/-- A number at the head of a text, and the rest. -/
def readNumber? (cs : List Char) : Option (Json × List Char) :=
  (ofLiteral? (cs.takeWhile isNumeral)).map fun value => (value, cs.dropWhile isNumeral)

/-! ### Values -/

mutual

/-- A value at the head of a text, and the rest.  `fuel` bounds the number of steps. -/
def readValue? (fuel : Nat) (cs : List Char) : Option (Json × List Char) :=
  match fuel with
  | 0 => none
  | fuel + 1 =>
    match skip cs with
    | '\x7b' :: rest =>
      match skip rest with
      | '\x7d' :: rest => some (.obj [], rest)
      | rest => (readFields? fuel rest).map fun (fields, rest) => (.obj fields, rest)
    | '[' :: rest =>
      match skip rest with
      | ']' :: rest => some (.arr [], rest)
      | rest => (readItems? fuel rest).map fun (items, rest) => (.arr items, rest)
    | '"' :: rest => (readString? none rest).map fun (text, rest) =>
      (.str (String.ofList text), rest)
    | 't' :: 'r' :: 'u' :: 'e' :: rest => some (.bool true, rest)
    | 'f' :: 'a' :: 'l' :: 's' :: 'e' :: rest => some (.bool false, rest)
    | 'n' :: 'u' :: 'l' :: 'l' :: rest => some (.null, rest)
    | rest => readNumber? rest

/-- The items of a list up to the closing bracket, and the text after it. -/
def readItems? (fuel : Nat) (cs : List Char) : Option (List Json × List Char) :=
  match fuel with
  | 0 => none
  | fuel + 1 =>
    match readValue? fuel cs with
    | none => none
    | some (item, rest) =>
      match skip rest with
      | ',' :: rest => (readItems? fuel rest).map fun (items, rest) => (item :: items, rest)
      | ']' :: rest => some ([item], rest)
      | _ => none

/-- The fields of an object up to the closing brace, and the text after it. -/
def readFields? (fuel : Nat) (cs : List Char) : Option (Fields × List Char) :=
  match fuel with
  | 0 => none
  | fuel + 1 =>
    match skip cs with
    | '"' :: rest =>
      match readString? none rest with
      | none => none
      | some (name, rest) =>
        match skip rest with
        | ':' :: rest =>
          match readValue? fuel rest with
          | none => none
          | some (value, rest) =>
            let field := (String.ofList name, value)
            match skip rest with
            | ',' :: rest =>
              (readFields? fuel rest).map fun (fields, rest) => (field :: fields, rest)
            | '\x7d' :: rest => some ([field], rest)
            | _ => none
        | _ => none
    | _ => none

end

/-- The value that a text writes. -/
def ofText (text : String) : Option Json :=
  match readValue? (2 * text.length + 2) text.toList with
  | some (value, rest) => if skip rest = [] then some value else none
  | none => none

end CredentialRotation.Json
