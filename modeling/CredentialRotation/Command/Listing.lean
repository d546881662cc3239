import CredentialRotation.Resource.Basic

/-!
# Command — Listing

Resources as a table: a line for each, with every column as wide as its heading is set, or wider
where a text is longer.
-/

namespace CredentialRotation.Command

/-- The widths of the columns, in characters. -/
def widths : List Nat := [30, 20, 10, 16, 26, 8]

/-- The headings of the columns. -/
def headings : List String := ["NAME", "NAMESPACE", "INTERVAL", "STATUS", "LAST ROTATED", "SUSPEND"]

/-- A text, filled up with spaces. -/
def pad (width : Nat) (text : String) : String :=
  text ++ String.ofList (List.replicate (width - text.length) ' ')

/-- A line of the table. -/
def tableLine (cells : List String) : String := " ".intercalate (List.zipWith pad widths cells)

/-- The line under the headings. -/
def rule : String := String.ofList (List.replicate 113 '-')

/-- The cells of a resource. -/
def cells (r : Resource) : List String :=
  [r.metadata.name.getD "<unknown>", r.metadata.scope.getD "<unknown>", r.spec.rotationInterval,
    (r.status.bind Status.status).getD "Pending",
    (r.status.bind Status.lastRotatedTime).getD "never", if r.spec.suspend then "Yes" else "No"]

/-- The lines that present a list of resources. -/
def listing (resources : List Resource) : List String :=
  if resources = [] then ["No SecretRotation resources found."]
  else ["", tableLine headings, rule] ++ resources.map fun r => tableLine (cells r)

theorem length_pad (width : Nat) (text : String) :
    (pad width text).length = max width text.length := by
  simp only [pad, String.length_append, String.length_ofList, List.length_replicate]
  omega

end CredentialRotation.Command
