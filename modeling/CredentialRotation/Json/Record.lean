import CredentialRotation.Json.Basic

/-!
# Json — Record

A record of fixed fields is an object that holds each field under its name, or under one of several
names; or it is the list of its fields in their order, of which the last ones may be missing.  In
an object the fields that are not asked for do not matter, and a field given twice spoils the
record; a list may not be longer than the record.
-/

namespace CredentialRotation.Json

/-- The value is an object, or a list of at most `arity` fields. -/
def isRecord (arity : Nat) : Json → Bool
  | .obj _ => true
  | .arr items => items.length ≤ arity
  | _ => false

/-- The value, if it is a record. -/
def record? (arity : Nat) (value : Json) : Option Json :=
  if value.isRecord arity then some value else none

/-- What a record holds at `position` or under one of `names`: `none` if this is not decided, `some
none` if it holds nothing. -/
def member? (record : Json) (position : Nat) (names : List String) : Option (Option Json) :=
  match record with
  | .obj fields =>
    match fields.filter fun field => names.contains field.1 with
    | [] => some none
    | [field] => some (some field.2)
    | _ => none
  | .arr items => some items[position]?
  | _ => none

/-- A field that has to be there. -/
def required {α : Type} (record : Json) (position : Nat) (names : List String)
    (read : Json → Option α) : Option α :=
  match record.member? position names with
  | some (some value) => read value
  | _ => none

/-- A field that has the value `absent` where it is not there. -/
def withDefault {α : Type} (record : Json) (position : Nat) (name : String) (absent : α)
    (read : Json → Option α) : Option α :=
  match record.member? position [name] with
  | some (some value) => read value
  | some none => some absent
  | none => none

/-- `null`, or a value. -/
def nullable {α : Type} (read : Json → Option α) : Json → Option (Option α)
  | .null => some none
  | value => (read value).map some

/-- A field that may be missing or `null`. -/
def optional {α : Type} (record : Json) (position : Nat) (name : String)
    (read : Json → Option α) : Option (Option α) :=
  record.withDefault position name none (nullable read)

end CredentialRotation.Json
