import CredentialRotation.Json.Basic

/-!
# Json — Merge

The JSON merge patch.  An object patches an object field by field, `null` removing the field; any
other patch takes the place of what it patches.

**Main statement.**  A patch of one field touches that field only (`merge_field`).
-/

namespace CredentialRotation.Json

/-- The fields of an object; a value of any other kind counts as the empty object. -/
def fields : Json → Fields
  | .obj fields => fields
  | _ => []

mutual

/-- Apply a merge patch. -/
def merge (target patch : Json) : Json :=
  match patch with
  | .obj changes => .obj (mergeFields target.fields changes)
  | other => other

/-- Apply the fields of a merge patch, from the first to the last. -/
def mergeFields (fields : Fields) : List (String × Json) → Fields
  | [] => fields
  | (name, change) :: rest =>
    let changed := merge ((fields.get? name).getD .null) change
    mergeFields
      (match change with
        | .null => fields.erase name
        | _ => fields.set name changed)
      rest

end

/-- A patch of one field that is not `null` merges into the value of that field and leaves the
others alone. -/
theorem merge_field (target change : Json) (name : String) (h : change ≠ .null) :
    merge target (.obj [(name, change)]) =
      .obj (target.fields.set name (merge ((target.fields.get? name).getD .null) change)) := by
  simp only [merge, mergeFields]

end CredentialRotation.Json
