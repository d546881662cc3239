import CredentialRotation.Definition.Yaml

/-!
# Definition — Schema

What the fields of a resource may hold, in the form in which the cluster wants to be told.
-/

namespace CredentialRotation

/-- What there is to say about a value of any kind. -/
structure Remarks where
  /-- What the value is about. -/
  description : Option String
  /-- The value may be `null`. -/
  isNullable : Bool
  /-- What an absent value stands for. -/
  absent : Option Yaml

/-- What a value may be. -/
inductive Schema where
  | text (remarks : Remarks)
  | flag (remarks : Remarks)
  /-- An integer in the named format, with a least value if there is one. -/
  | integer (remarks : Remarks) (format : String) (minimum : Option String)
  | list (remarks : Remarks) (items : Schema)
  /-- Fields in the order of their names, and the names of those that have to be there. -/
  | record (remarks : Remarks) (fields : List (String × Schema)) (required : List String)

namespace Remarks

/-- A key with a value, if there is one. -/
def field? (key : String) (value : Option Yaml) : List (String × Yaml) :=
  value.toList.map (key, ·)

/-- The keys before those of the kind. -/
def front (r : Remarks) : List (String × Yaml) :=
  field? "default" r.absent ++ field? "description" (r.description.map .text)

/-- The key that admits `null`. -/
def nullable (r : Remarks) : List (String × Yaml) :=
  if r.isNullable then [("nullable", .literal "true")] else []

end Remarks

namespace Schema

/-- The list of the fields that have to be there. -/
def requiredField (names : List String) : List (String × Yaml) :=
  if names = [] then [] else [("required", .list (names.map .text))]

mutual

/-- The schema as a document.  The keys stand in the order of the alphabet. -/
def toYaml : Schema → Yaml
  | text r => .record (r.front ++ r.nullable ++ [("type", .text "string")])
  | flag r => .record (r.front ++ r.nullable ++ [("type", .text "boolean")])
  | integer r format minimum =>
    .record (r.front ++ [("format", .text format)] ++
      Remarks.field? "minimum" (minimum.map .literal) ++ r.nullable ++ [("type", .text "integer")])
  | list r items =>
    .record (r.front ++ [("items", toYaml items)] ++ r.nullable ++ [("type", .text "array")])
  | record r fields required =>
    .record (r.front ++ r.nullable ++ [("properties", .record (fieldsYaml fields))] ++
      requiredField required ++ [("type", .text "object")])

/-- The fields of a record, each under its name. -/
def fieldsYaml : List (String × Schema) → List (String × Yaml)
  | [] => []
  | (name, schema) :: rest => (name, toYaml schema) :: fieldsYaml rest

end

end Schema

end CredentialRotation
